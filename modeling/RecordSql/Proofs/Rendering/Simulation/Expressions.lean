import RecordSql.Proofs.Rendering.Simulation.Clauses
import RecordSql.Proofs.Rendering.Simulation.Keys

/-!
# Alike expressions and selects

The induction over expressions and selects: the pieces of a node are related if those of its parts are.

- `keeps_column` to `keeps_exists`: what a node keeps is what its parts keep.
- `condition_follows` to `joins_follow`: clauses, given their expressions.
- `follow_cases`: the cases of the induction.
- `Simulation.expr`, `Simulation.select`: alike expressions and selects have related pieces.
-/

namespace RecordSql

namespace Simulation

variable {L : Likeness} {S : Simulation L} {f f' : Frame}

/-- What is shown of an expression in two alike frames. -/
def FollowsExpr (S : Simulation L) (e : Expr) : Prop :=
  ∀ f f' e', S.alike f f' → e.Like L e' →
    S.Follows (S.keeps f e) (exprPieces S.expand f e) (exprPieces S.expand' f' e')

/-- What is shown of a select in two alike frames. -/
def FollowsSelect (S : Simulation L) (s : Select) : Prop :=
  ∀ f f' s', S.alike f f' → s.Like L s' →
    S.Follows (S.keeps f (.exists s)) (selectPieces S.expand f s) (selectPieces S.expand' f' s')

/-- A reference shows the definition of its field. -/
theorem keeps_column {c : FieldRef} : S.keeps f (.column c) ↔ S.keepsField f .plain c := by
  rw [S.keeps_iff]
  constructor
  · exact fun h d hd => h.2 f d.expr (.column hd)
  · intro h
    refine ⟨trivial, fun f₂ x hx => ?_⟩
    cases hx with
    | column hd => exact h _ hd

theorem keeps_isNull {c : FieldRef} : S.keeps f (.isNull c) ↔ S.keepsField f .plain c := by
  rw [S.keeps_iff]
  constructor
  · exact fun h d hd => h.2 f d.expr (.isNull hd)
  · intro h
    refine ⟨trivial, fun f₂ x hx => ?_⟩
    cases hx with
    | isNull hd => exact h _ hd

theorem keeps_inList {c : FieldRef} {values : List Value} :
    S.keeps f (.inList c values) ↔ S.keepsField f .plain c := by
  rw [S.keeps_iff]
  constructor
  · exact fun h d hd => h.2 f d.expr (.inList hd)
  · intro h
    refine ⟨trivial, fun f₂ x hx => ?_⟩
    cases hx with
    | inList hd => exact h _ hd

theorem keeps_call {name : String} {args : List Expr} :
    S.keeps f (.call name args) ↔ ∀ a ∈ args, S.keeps f a := by
  rw [S.keeps_iff]
  constructor
  · exact fun h a ha => h.2 f a (.argument ha)
  · intro h
    refine ⟨trivial, fun f₂ x hx => ?_⟩
    cases hx with
    | argument ha => exact h _ ha

theorem keeps_junction {op : Junction} {operands : List Expr} :
    S.keeps f (.junction op operands) ↔ ∀ a ∈ operands, S.keeps f a := by
  rw [S.keeps_iff]
  constructor
  · exact fun h a ha => h.2 f a (.operand ha)
  · intro h
    refine ⟨trivial, fun f₂ x hx => ?_⟩
    cases hx with
    | operand ha => exact h _ ha

theorem keeps_epoch {e : Expr} : S.keeps f (.epoch e) ↔ S.keeps f e := by
  rw [S.keeps_iff]
  constructor
  · exact fun h => h.2 f e .epoch
  · intro h
    refine ⟨trivial, fun f₂ x hx => ?_⟩
    cases hx with
    | epoch => exact h

theorem keeps_not {e : Expr} : S.keeps f (.not e) ↔ S.keeps f e := by
  rw [S.keeps_iff]
  constructor
  · exact fun h => h.2 f e .not
  · intro h
    refine ⟨trivial, fun f₂ x hx => ?_⟩
    cases hx with
    | not => exact h

theorem keeps_binary {op : Operator} {l r : Expr} :
    S.keeps f (.binary op l r) ↔ (S.keeps f l ∧ S.kept l) ∧ (S.keeps f r ∧ S.kept r) := by
  rw [S.keeps_iff]
  constructor
  · exact fun h => ⟨⟨h.2 f l .left, h.1.1⟩, ⟨h.2 f r .right, h.1.2⟩⟩
  · rintro ⟨⟨hl, kl⟩, hr, kr⟩
    refine ⟨⟨kl, kr⟩, fun f₂ x hx => ?_⟩
    cases hx with
    | left => exact hl
    | right => exact hr

theorem keeps_leaf {e : Expr} (hk : e.operandsKept S.kept) (h : ∀ f₂ x, ¬f.Shows e f₂ x) :
    S.keeps f e :=
  S.keeps_iff.2 ⟨hk, fun f₂ x hx => absurd hx (h f₂ x)⟩

/-- What a condition shows keeps its operands. -/
def keepsCondition (S : Simulation L) (f : Frame) : Condition → Prop
  | .expr e => S.keeps f e
  | .key k => ∀ n ∈ f.registry.keyFields k.record, S.keepsField f .key (.of k.record n)
  | .multiKey k => ∀ n ∈ f.registry.keyFields k.record, S.keepsField f .key (.of k.record n)

/-- The clauses of a select show what the select does. -/
theorem keeps_exists {s : Select} : S.keeps f (.exists s) ↔
    (∀ n ∈ f.registry.projected s.record s.fields,
      S.keepsField (f.enter s) .projection (.of s.record n)) ∧
    (∀ j ∈ s.joins, S.keeps (f.enter s) j.condition) ∧
    (∀ c, s.condition = some c → S.keepsCondition (f.enter s) c) ∧
    (∀ es, s.groupBy = some es → ∀ e ∈ es, S.keeps (f.enter s) e) ∧
    (∀ ts, s.orderBy = some ts → ∀ t ∈ ts, S.keeps (f.enter s) t.expr) := by
  rw [S.keeps_iff]
  constructor
  · rintro ⟨-, h⟩
    refine ⟨fun n hn d hd => h _ _ (.projection hn hd), fun j hj => h _ _ (.join hj), fun c hc => ?_,
      fun es hes e he => h _ _ (.group hes he), fun ts hts t ht => h _ _ (.order hts ht)⟩
    cases c with
    | expr e => exact h _ _ (.condition hc)
    | key k => exact fun n hn d hd => h _ _ (.key hc hn hd)
    | multiKey k => exact fun n hn d hd => h _ _ (.multiKey hc hn hd)
  · rintro ⟨hprojection, hjoins, hcondition, hgroups, horder⟩
    refine ⟨trivial, fun f₂ x hx => ?_⟩
    cases hx with
    | projection hn hd => exact hprojection _ hn _ hd
    | join hj => exact hjoins _ hj
    | condition hc => exact hcondition _ hc
    | key hc hn hd => exact hcondition _ hc _ hn _ hd
    | multiKey hc hn hd => exact hcondition _ hc _ hn _ hd
    | group hes he => exact hgroups _ hes _ he
    | order hts ht => exact horder _ hts _ ht

/-! ### Clauses, given their expressions -/

theorem condition_follows {c c' : Condition} (ha : S.alike f f') (hl : c.Like L c')
    (h : ∀ e, c = .expr e → S.FollowsExpr e) :
    S.Follows (S.keepsCondition f c) (conditionPieces S.expand f c)
      (conditionPieces S.expand' f' c') := by
  have keyword : ∀ {a ps qs}, S.rel a ps qs →
      S.rel a ([Piece.clauseBreak, .word "where "] ++ ps) ([Piece.clauseBreak, .word "where "] ++ qs) :=
    fun hp => rel_before _ (by simp [Piece.value?]) hp
  cases c with
  | expr e =>
    obtain ⟨e', rfl, he⟩ := hl
    exact (h e rfl f f' e' ha he).bind fun ps qs hp => keyword hp
  | key k =>
    obtain ⟨k', rfl, hk⟩ := hl
    exact (key_follows ha hk).bind fun ps qs hp => keyword hp
  | multiKey k =>
    obtain ⟨k', rfl, hk⟩ := hl
    exact (multiKey_follows ha hk).bind fun ps qs hp => keyword hp

theorem where_follows {o o' : Option Condition} (ha : S.alike f f')
    (hl : optionLike (Condition.Like L) o o') (h : ∀ e, o = some (.expr e) → S.FollowsExpr e) :
    S.Follows (∀ c, o = some c → S.keepsCondition f c) (wherePieces S.expand f o)
      (wherePieces S.expand' f' o') := by
  cases o with
  | none =>
    rw [show o' = none from hl]
    exact rel_congr S.rel_nil (iff_of_true trivial nofun)
  | some c =>
    obtain ⟨c', rfl, hc⟩ := hl
    refine (condition_follows ha hc fun e he => h e (congrArg some he)).congr ?_
    exact ⟨fun hk _ he => by cases he; exact hk, fun hk => hk c rfl⟩

theorem exprs_follow {es es' : List Expr} (ha : S.alike f f') (hl : List.Forall₂ (Expr.Like L) es es')
    (h : ∀ e ∈ es, S.FollowsExpr e) :
    Matches S.fails (S.Items (∀ e ∈ es, S.keeps f e)) (exprsPieces S.expand f es)
      (exprsPieces S.expand' f' es') := by
  rw [exprsPieces_eq, exprsPieces_eq]
  exact items hl fun e he e' hee => h e he f f' e' ha hee

theorem groups_follow {o o' : Option (List Expr)} (ha : S.alike f f')
    (hl : optionLike (List.Forall₂ (Expr.Like L)) o o')
    (h : ∀ es, o = some es → ∀ e ∈ es, S.FollowsExpr e) :
    S.Follows (∀ es, o = some es → ∀ e ∈ es, S.keeps f e) (groupPieces S.expand f o)
      (groupPieces S.expand' f' o') := by
  cases o with
  | none =>
    rw [show o' = none from hl]
    exact rel_congr S.rel_nil (iff_of_true trivial nofun)
  | some es =>
    obtain ⟨es', rfl, hes⟩ := hl
    refine (exprs_follow ha hes (h es rfl)).bind fun pss qss hp => ?_
    refine rel_congr (rel_before [.clauseBreak, .word "group by "] (by simp [Piece.value?])
      hp.separated) ?_
    exact ⟨fun hk _ he => by cases he; exact hk, fun hk => hk es rfl⟩

theorem sort_follows {o o' : Option (List OrderTerm)} (ha : S.alike f f')
    (hl : optionLike (List.Forall₂ (OrderTerm.Like L)) o o')
    (h : ∀ ts, o = some ts → ∀ t ∈ ts, S.FollowsExpr t.expr) :
    S.Follows (∀ ts, o = some ts → ∀ t ∈ ts, S.keeps f t.expr) (sortPieces S.expand f o)
      (sortPieces S.expand' f' o') := by
  cases o with
  | none =>
    rw [show o' = none from hl]
    exact rel_congr S.rel_nil (iff_of_true trivial nofun)
  | some ts =>
    obtain ⟨ts', rfl, hts⟩ := hl
    have steps : Matches S.fails (S.Items (∀ t ∈ ts, S.keeps f t.expr)) (orderPieces S.expand f ts)
        (orderPieces S.expand' f' ts') := by
      rw [orderPieces_eq, orderPieces_eq]
      refine items hts fun t ht t' htt => ?_
      refine (h ts rfl t ht f f' t'.expr ha htt.2).bind fun ps qs hp => ?_
      rw [htt.1]
      exact rel_after _ (by simp [Piece.value?]) hp
    refine steps.bind fun pss qss hp => ?_
    refine rel_congr (rel_before [.clauseBreak, .word "order by "] (by simp [Piece.value?])
      hp.separated) ?_
    exact ⟨fun hk _ he => by cases he; exact hk, fun hk => hk ts rfl⟩

theorem joins_follow {js js' : List Join} (ha : S.alike f f') (hl : List.Forall₂ (Join.Like L) js js')
    (h : ∀ j ∈ js, S.FollowsExpr j.condition) :
    S.Follows (∀ j ∈ js, S.keeps f j.condition) (joinPieces S.expand f js)
      (joinPieces S.expand' f' js') := by
  induction hl with
  | nil => exact rel_congr S.rel_nil (iff_of_true trivial (List.forall_mem_nil _))
  | @cons j j' js js' hj _ ih =>
    obtain ⟨_, e, _, _⟩ := j
    obtain ⟨_, e', kind, _⟩ := j'
    obtain ⟨rfl, rfl, rfl, he⟩ := hj
    refine (joinTable_follows ha _ _).bind fun q q' hq => ?_
    refine (h _ List.mem_cons_self f f' e' ha he).bind fun ps qs hp => ?_
    refine (ih fun j hj => h j (List.mem_cons_of_mem _ hj)).bind fun ps' qs' hps => ?_
    have table : S.rel True [.clauseBreak, .word (kind.text ++ " "), q, .word " on "]
        [.clauseBreak, .word (kind.text ++ " "), q', .word " on "] :=
      rel_before [.clauseBreak, .word (kind.text ++ " ")] (by simp [Piece.value?])
        (rel_after [.word " on "] (by decide) hq)
    refine rel_congr (S.rel_append (S.rel_append table hp) hps) ?_
    rw [true_and, List.forall_mem_cons]

/-- The cases of the induction: what follows from the parts of a node follows for the node. -/
theorem follow_cases (S : Simulation L) : ExprCases S.FollowsExpr S.FollowsSelect := by
  refine ⟨?column, ?literal, ?value, ?call, ?epoch, ?binary, ?junction, ?not, ?isNull, ?inList,
    ?subSelect, ?fullText, ?select⟩
  case column =>
    intro c f f' e' ha he
    obtain ⟨rfl, hl⟩ | h := S.column ha he
    · exact (reference_follows ha hl).congr keeps_column.symm
    · exact h
  case literal =>
    rintro sql f f' _ ha rfl
    exact rel_congr (S.rel_piece (p := .verbatim sql) rfl)
      (iff_of_true trivial (keeps_leaf trivial (by rintro _ _ ⟨⟩)))
  case value =>
    rintro v f f' _ ha ⟨v', rfl, hv⟩
    exact rel_congr (S.rel_value hv) (iff_of_true trivial (keeps_leaf trivial (by rintro _ _ ⟨⟩)))
  case call =>
    rintro name args ih f f' _ ha ⟨args', rfl, hl⟩
    refine (exprs_follow ha (exprsLike_iff.1 hl) ih).bind fun pss qss hp => ?_
    refine rel_congr (rel_before [.verbatim name] (by simp [Piece.value?])
      (rel_parenthesized hp.separated)) ?_
    exact keeps_call.symm
  case epoch =>
    rintro e ih f f' _ ha ⟨x, rfl, hx⟩
    refine (ih f f' x ha hx).bind fun ps qs hp => ?_
    rw [show f'.dialect = f.dialect by rw [S.base ha]]
    refine rel_congr (rel_after [.word ")"] (by decide)
      (rel_before [.word (epochWord f.dialect)] (by simp [Piece.value?]) hp)) ?_
    exact keeps_epoch.symm
  case binary =>
    rintro op l r ihl ihr f f' _ ha ⟨l', r', rfl, hl, hr⟩
    refine (ihl f f' l' ha hl).bind fun ps qs hp => ?_
    refine (ihr f f' r' ha hr).bind fun ps' qs' hps => ?_
    refine rel_congr (S.rel_append (rel_after [Piece.word (" " ++ op.text ++ " ")]
      (by simp [Piece.value?]) (S.rel_operand hl hp)) (S.rel_operand hr hps)) ?_
    exact keeps_binary.symm
  case junction =>
    rintro op operands ih f f' _ ha ⟨operands', rfl, hl⟩
    refine (exprs_follow ha (exprsLike_iff.1 hl) ih).bind fun pss qss hp => ?_
    exact rel_congr hp.parenthesized.separated keeps_junction.symm
  case not =>
    rintro e ih f f' _ ha ⟨x, rfl, hx⟩
    refine (ih f f' x ha hx).bind fun ps qs hp => ?_
    exact rel_congr (rel_before [.word "not "] (by decide) (rel_parenthesized hp)) keeps_not.symm
  case isNull =>
    rintro c f f' _ ha ⟨rfl, hc⟩
    refine (reference_follows ha (S.reference ha hc)).bind fun ps qs hp => ?_
    exact rel_congr (rel_after [.word " is null"] (by decide) hp) keeps_isNull.symm
  case inList =>
    rintro c values f f' _ ha ⟨values', rfl, hc, hv⟩
    refine (reference_follows ha (S.reference ha hc)).bind fun ps qs hp => ?_
    exact rel_congr (rel_in hp hv) keeps_inList.symm
  case subSelect =>
    rintro s ih f f' _ ha ⟨s', rfl, hs⟩
    refine (ih f f' s' ha hs).bind fun ps qs hp => ?_
    exact rel_after [.closeSelect] (by simp [Piece.value?])
      (rel_before [.openSelect] (by simp [Piece.value?]) hp)
  case fullText =>
    rintro record index query f f' _ ha ⟨query', rfl, hq⟩
    exact (fullText_follows ha hq).congr (iff_of_true trivial (keeps_leaf trivial (by rintro _ _ ⟨⟩)))
  case select =>
    intro s _ hjoins hcondition hgroupBy horderBy f f' s' ha hs
    have hin := S.enter ha hs
    have h := Select.like_iff.1 hs
    rw [selectPieces_eq, selectPieces_eq]
    have hreadable : f'.readable s' = f.readable s := by
      unfold Frame.readable
      rw [h.sources, h.record, show f'.registry = f.registry by rw [S.base ha]]
    rw [hreadable, h.record, h.fields, h.sources, h.forUpdate]
    refine Matches.bindSame fun _ _ => ?_
    refine (projection_follows hin h.projection).bind fun ps₁ qs₁ h₁ => ?_
    refine (source_follows hin s.record s.sources).bind fun ps₂ qs₂ h₂ => ?_
    refine (joins_follow hin h.joins hjoins).bind fun ps₃ qs₃ h₃ => ?_
    refine (where_follows hin h.condition hcondition).bind fun ps₄ qs₄ h₄ => ?_
    refine (groups_follow hin h.groupBy hgroupBy).bind fun ps₅ qs₅ h₅ => ?_
    refine (sort_follows hin h.orderBy horderBy).bind fun ps₆ qs₆ h₆ => ?_
    have head := rel_after [.clauseBreak, .word "from "] (by simp [Piece.value?])
      (rel_before [.word "select "] (by decide) h₁)
    have body := S.rel_append (S.rel_append (S.rel_append (S.rel_append (S.rel_append head h₂) h₃) h₄)
      h₅) h₆
    refine rel_congr (S.rel_append (S.rel_append body (limit_rel h.limit)) (lock_rel s.forUpdate)) ?_
    rw [keeps_exists]
    simp only [and_true, and_assoc]
    rfl

/-- Alike expressions have related pieces. -/
theorem expr (S : Simulation L) {f f' : Frame} {e e' : Expr} (ha : S.alike f f') (he : e.Like L e') :
    S.Follows (S.keeps f e) (exprPieces S.expand f e) (exprPieces S.expand' f' e') :=
  S.follow_cases.expr e f f' e' ha he

/-- Alike selects have related pieces. -/
theorem select (S : Simulation L) {f f' : Frame} {s s' : Select} (ha : S.alike f f')
    (hs : s.Like L s') :
    S.Follows (S.keeps f (.exists s)) (selectPieces S.expand f s) (selectPieces S.expand' f' s') :=
  S.follow_cases.select s f f' s' ha hs

end Simulation

end RecordSql
