import Mathlib.Logic.Relation
import RecordSql.Proofs.Expression.Likeness
import RecordSql.Proofs.Rendering.Lookup

/-!
# Renderings of alike expressions

Two alike expressions are rendered in two frames, piece by piece, and the pieces stay related. What has to
be known of frames, of columns and of pieces is stated once, as a `Simulation`; that it carries over to
whole expressions and selects is proved here once for all of its uses.

A rendering may differ from another one in parentheses. Related pieces come with a condition under which
nothing is lost, and the condition of a part is that of all that it shows.

- `Frame.Shows`: the expressions that the rendering of an expression renders next.
- `Simulation`: two ways of rendering whose references match.
- `Simulation.Items`, `Simulation.items`: lists of related pieces.
- `Simulation.reference_follows`: references in two alike frames.
-/

namespace RecordSql

/-! ### What a rendering shows -/

/-- The primary key of a record. -/
def Registry.keyFields (g : Registry) (r : RecordType) : List String :=
  match g.schema r with
  | .ok schema => schema.primaryKey
  | .error _ => []

/-- The fields that a select asks for, by their names. -/
def Registry.projected (g : Registry) (r : RecordType) (names : List String) : List String :=
  match g.schema r with
  | .ok schema => if names.isEmpty then schema.fields.map (·.name) else names
  | .error _ => []

/-- The expressions, with what they are written in, that an expression is put together of. -/
inductive Frame.Shows : Frame → Expr → Frame → Expr → Prop
  | column {f c d} : f.applied? .plain c = some d → Shows f (.column c) f d.expr
  | argument {f name args a} : a ∈ args → Shows f (.call name args) f a
  | epoch {f e} : Shows f (.epoch e) f e
  | left {f op l r} : Shows f (.binary op l r) f l
  | right {f op l r} : Shows f (.binary op l r) f r
  | operand {f op operands a} : a ∈ operands → Shows f (.junction op operands) f a
  | not {f e} : Shows f (.not e) f e
  | isNull {f c d} : f.applied? .plain c = some d → Shows f (.isNull c) f d.expr
  | inList {f c values d} : f.applied? .plain c = some d → Shows f (.inList c values) f d.expr
  | projection {f s name d} : name ∈ f.registry.projected s.record s.fields →
      (f.enter s).applied? .projection (.of s.record name) = some d →
      Shows f (.exists s) (f.enter s) d.expr
  | join {f s j} : j ∈ s.joins → Shows f (.exists s) (f.enter s) j.condition
  | condition {f s e} : s.condition = some (.expr e) → Shows f (.exists s) (f.enter s) e
  | key {f s k name d} : s.condition = some (.key k) → name ∈ f.registry.keyFields k.record →
      (f.enter s).applied? .key (.of k.record name) = some d → Shows f (.exists s) (f.enter s) d.expr
  | multiKey {f s k name d} : s.condition = some (.multiKey k) →
      name ∈ f.registry.keyFields k.record →
      (f.enter s).applied? .key (.of k.record name) = some d → Shows f (.exists s) (f.enter s) d.expr
  | group {f s es e} : s.groupBy = some es → e ∈ es → Shows f (.exists s) (f.enter s) e
  | order {f s ts t} : s.orderBy = some ts → t ∈ ts → Shows f (.exists s) (f.enter s) t.expr

/-- The operands of a binary operator are kept as they should be. -/
def Expr.operandsKept (kept : Expr → Prop) : Expr → Prop
  | .binary _ l r => kept l ∧ kept r
  | _ => True

/-- All that an expression shows keeps the operands of its binary operators. -/
def Frame.Keeps (kept : Expr → Prop) (f : Frame) (e : Expr) : Prop :=
  ∀ f₂ x, Relation.ReflTransGen (fun p q : Frame × Expr => p.1.Shows p.2 q.1 q.2) (f, e) (f₂, x) →
    x.operandsKept kept

/-- What an expression shows keeps its operands if the expression does and if all do that it shows next. -/
theorem Frame.keeps_iff {kept : Expr → Prop} {f : Frame} {e : Expr} :
    f.Keeps kept e ↔ e.operandsKept kept ∧ ∀ f₂ x, f.Shows e f₂ x → f₂.Keeps kept x := by
  constructor
  · intro h
    refine ⟨h f e .refl, fun f₂ x hx f₃ y hy => ?_⟩
    exact h f₃ y (.head hx hy)
  · rintro ⟨h, hshown⟩ f₂ x hx
    obtain heq | ⟨⟨f₁, y⟩, hy, hyx⟩ := hx.cases_head
    · cases heq
      exact h
    · exact hshown f₁ y hy f₂ x hyx

/-- If nothing is asked of operands, every expression keeps them. -/
theorem keeps_all {f : Frame} {e : Expr} :
    True ↔ e.operandsKept (fun _ => True) ∧ ∀ f₂ x, f.Shows e f₂ x → True := by
  cases e <;> simp [Expr.operandsKept]

/-! ### Simulations -/

/-- Two ways of rendering alike expressions. `rel k` relates pieces that differ in no parentheses where
`k` holds, and `keeps` is that condition for expressions. -/
structure Simulation (L : Likeness) where
  fails : Failures
  rel : Prop → List Piece → List Piece → Prop
  expand : Frame → Expr → Rendered
  expand' : Frame → Expr → Rendered
  alike : Frame → Frame → Prop
  kept : Expr → Prop
  keeps : Frame → Expr → Prop
  rel_nil : rel True [] []
  rel_piece : ∀ {p : Piece}, p.value? = none → rel True [p] [p]
  rel_value : ∀ {v v' : Value}, L.value v v' → rel True [.value v] [.value v']
  rel_append : ∀ {a b ps ps' qs qs'}, rel a ps qs → rel b ps' qs' → rel (a ∧ b) (ps ++ ps') (qs ++ qs')
  rel_operand : ∀ {a e e' ps qs}, e.Like L e' → rel a ps qs →
    rel (a ∧ kept e) (if e.isInfix then parenthesized ps else ps)
      (if e'.isInfix then parenthesized qs else qs)
  keeps_iff : ∀ {f e}, keeps f e ↔ e.operandsKept kept ∧ ∀ f₂ x, f.Shows e f₂ x → keeps f₂ x
  base : ∀ {f f'}, alike f f' → f' = { f with selects := f'.selects }
  enter : ∀ {f f' s s'}, alike f f' → s.Like L s' → alike (f.enter s) (f'.enter s')
  /-- A column stays, or what stands in its place is rendered like it. -/
  column : ∀ {f f' c e'}, alike f f' → L.column c e' →
    (e' = .column c ∧
      Lookup (fun d d' => Matches fails (rel (keeps f d.expr)) (expand f d.expr) (expand' f' d'.expr))
        (f.applied? .plain c) (f'.applied? .plain c)) ∨
    Matches fails (rel (keeps f (.column c))) (exprPieces expand f (.column c))
      (exprPieces expand' f' e')
  reference : ∀ {f f' c}, alike f f' → L.reference c →
    Lookup (fun d d' => Matches fails (rel (keeps f d.expr)) (expand f d.expr) (expand' f' d'.expr))
      (f.applied? .plain c) (f'.applied? .plain c)
  key : ∀ {f f' r name}, alike f f' → L.key r → name ∈ f.registry.keyFields r →
    Lookup (fun d d' => Matches fails (rel (keeps f d.expr)) (expand f d.expr) (expand' f' d'.expr))
      (f.applied? .key (.of r name)) (f'.applied? .key (.of r name))
  projection : ∀ {f f' r names name}, alike f f' → L.projection r names →
    name ∈ f.registry.projected r names →
    Lookup (fun d d' => Matches fails (rel (keeps f d.expr)) (expand f d.expr) (expand' f' d'.expr))
      (f.applied? .projection (.of r name)) (f'.applied? .projection (.of r name))

namespace Simulation

variable {L : Likeness} (S : Simulation L)

/-- Renderings whose pieces are related. -/
def Follows (k : Prop) : Rendered → Rendered → Prop :=
  Matches S.fails (S.rel k)

/-- Related items of two lists. -/
inductive Items : Prop → List (List Piece) → List (List Piece) → Prop
  | nil : Items True [] []
  | cons {a b ps qs pss qss} : S.rel a ps qs → Items b pss qss → Items (a ∧ b) (ps :: pss) (qs :: qss)

variable {S}

/-! ### Pieces -/

theorem rel_congr {a b : Prop} {ps qs : List Piece} (h : S.rel a ps qs) (hab : a ↔ b) :
    S.rel b ps qs :=
  propext hab ▸ h

theorem Follows.congr {a b : Prop} {x y : Rendered} (h : S.Follows a x y) (hab : a ↔ b) :
    S.Follows b x y :=
  propext hab ▸ h

theorem rel_pieces : ∀ {ps : List Piece}, (∀ p ∈ ps, p.value? = none) → S.rel True ps ps
  | [], _ => S.rel_nil
  | p :: ps, h => by
    have first := S.rel_piece (h p List.mem_cons_self)
    have rest := rel_pieces fun q hq => h q (List.mem_cons_of_mem p hq)
    exact rel_congr (S.rel_append first rest) (and_self_iff)

theorem rel_before {a : Prop} {ps qs : List Piece} (fixed : List Piece)
    (hf : ∀ p ∈ fixed, p.value? = none) (h : S.rel a ps qs) : S.rel a (fixed ++ ps) (fixed ++ qs) :=
  rel_congr (S.rel_append (rel_pieces hf) h) (iff_of_eq (true_and a))

theorem rel_after {a : Prop} {ps qs : List Piece} (fixed : List Piece)
    (hf : ∀ p ∈ fixed, p.value? = none) (h : S.rel a ps qs) : S.rel a (ps ++ fixed) (qs ++ fixed) :=
  rel_congr (S.rel_append h (rel_pieces hf)) (iff_of_eq (and_true a))

theorem rel_parenthesized {a : Prop} {ps qs : List Piece} (h : S.rel a ps qs) :
    S.rel a (parenthesized ps) (parenthesized qs) :=
  rel_after [.word ")"] (by decide) (rel_before [.word "("] (by decide) h)

theorem Items.separated {s : String} : ∀ {a : Prop} {pss qss : List (List Piece)}, S.Items a pss qss →
    S.rel a (separated s pss) (RecordSql.separated s qss)
  | _, _, _, .nil => S.rel_nil
  | _, _, _, .cons h .nil => rel_congr h (iff_of_eq (and_true _)).symm
  | _, _, _, .cons h (.cons h' hs) => by
    have rest := Items.separated (s := s) (.cons h' hs)
    exact S.rel_append h (rel_before [.word s] (by simp [Piece.value?]) rest)

theorem Items.parenthesized : ∀ {a : Prop} {pss qss : List (List Piece)}, S.Items a pss qss →
    S.Items a (pss.map parenthesized) (qss.map RecordSql.parenthesized)
  | _, _, _, .nil => .nil
  | _, _, _, .cons h hs => .cons (rel_parenthesized h) hs.parenthesized

theorem Items.append {b : Prop} {pss' qss' : List (List Piece)} :
    ∀ {a : Prop} {pss qss : List (List Piece)}, S.Items a pss qss → S.Items b pss' qss' →
      S.Items (a ∧ b) (pss ++ pss') (qss ++ qss')
  | _, _, _, .nil, h' => by
    rw [true_and]
    exact h'
  | _, _, _, .cons h hs, h' => by
    rw [and_assoc]
    exact .cons h (hs.append h')

/-- Items that are rendered alike. -/
theorem items {ι κ : Type} {k : ι → Prop} {f : ι → Rendered} {g : κ → Rendered} {r : ι → κ → Prop} :
    ∀ {l : List ι} {l' : List κ}, List.Forall₂ r l l' →
      (∀ i ∈ l, ∀ j, r i j → S.Follows (k i) (f i) (g j)) →
      Matches S.fails (S.Items (∀ i ∈ l, k i)) (l.mapM f) (l'.mapM g)
  | [], [], .nil, _ => by
    rw [List.mapM_nil, List.mapM_nil]
    show S.Items _ [] []
    rw [propext (iff_true_intro (List.forall_mem_nil k))]
    exact .nil
  | i :: l, j :: l', .cons hij hl, h => by
    rw [List.mapM_cons, List.mapM_cons]
    refine (h i List.mem_cons_self j hij).bind fun ps qs hp => ?_
    refine (items hl fun a ha => h a (List.mem_cons_of_mem i ha)).bind fun pss qss hps => ?_
    show S.Items _ (ps :: pss) (qs :: qss)
    rw [propext List.forall_mem_cons]
    exact .cons hp hps

/-! ### References -/

/-- What the definition of a field shows, if one applies, keeps its operands. -/
def keepsField (S : Simulation L) (f : Frame) (use : ColumnUse) (c : FieldRef) : Prop :=
  ∀ d, f.applied? use c = some d → S.keeps f d.expr

theorem fieldAlias_fixed (use : ColumnUse) (field : String) :
    ∀ p ∈ fieldAlias use field, p.value? = none := by
  cases use <;> simp [fieldAlias, Piece.value?]

/-- What is stored binds no value. -/
theorem stored_fixed {f : Frame} {c : FieldRef} {record : RecordType} {schema : RecordSchema}
    {field : FieldSchema} {r : Resolved} (h : f.stored c record schema field = .ok r)
    (use : ColumnUse) :
    ∃ ps : List Piece, (∀ p ∈ ps, p.value? = none) ∧
      ∀ expand f', r.pieces expand f' use c.field = .ok ps := by
  have column : ∀ label n, ∃ ps : List Piece, (∀ p ∈ ps, p.value? = none) ∧
      ∀ expand f', (Resolved.column label n).pieces expand f' use c.field = .ok ps := fun label n =>
    ⟨[.column label n], by simp [Piece.value?], fun _ _ => rfl⟩
  unfold Frame.stored at h
  split at h
  case h_1 sql _ =>
    cases h
    refine ⟨.verbatim sql :: fieldAlias use c.field, ?_, fun _ _ => rfl⟩
    exact List.forall_mem_cons.2 ⟨rfl, fieldAlias_fixed use c.field⟩
  case h_2 =>
    split at h
    · cases h
    · split at h
      · cases h
        exact column _ _
      · cases hl : f.label ‹_› with
        | error e =>
          rw [hl] at h
          cases h
        | ok label =>
          rw [hl] at h
          cases h
          exact column _ _

/-- References are rendered alike where they find alike definitions. -/
theorem reference_follows {f f' : Frame} {use : ColumnUse} {c : FieldRef} (ha : S.alike f f')
    (hl : Lookup (fun d d' => S.Follows (S.keeps f d.expr) (S.expand f d.expr) (S.expand' f' d'.expr))
      (f.applied? use c) (f'.applied? use c)) :
    S.Follows (S.keepsField f use c) (referencePieces S.expand f use c)
      (referencePieces S.expand' f' use c) := by
  obtain ⟨selects, rfl⟩ : ∃ selects, f' = { f with selects := selects } := ⟨_, S.base ha⟩
  rw [referencePieces_eq, referencePieces_eq, Frame.resolve, Frame.resolve]
  cases hr : c.record with
  | none =>
    have vacuous : S.keepsField f use c := by
      intro d hd
      rw [Frame.applied?, hr] at hd
      cases hd
    exact rel_congr (S.rel_piece rfl) (iff_of_true trivial vacuous)
  | some record =>
    simp only [bind_assoc]
    refine Matches.bindSame fun schema _ => Matches.bindSame fun field _ => ?_
    unfold keepsField
    generalize f.applied? use c = o at hl ⊢
    generalize ({ f with selects := selects } : Frame).applied? use c = o' at hl ⊢
    cases hl with
    | none =>
      refine Matches.bindSame (x := f.stored c record schema field) fun r hs => ?_
      obtain ⟨ps, hps, hpieces⟩ := stored_fixed hs use
      rw [hpieces, hpieces]
      exact rel_congr (rel_pieces hps) (iff_of_true trivial (by simp))
    | @some d d' h =>
      show S.Follows _ (S.expand f d.expr >>= fun ps => .ok (ps ++ fieldAlias use c.field))
        (S.expand' _ d'.expr >>= fun ps => .ok (ps ++ fieldAlias use c.field))
      refine Matches.bind h fun ps qs hpq => ?_
      refine rel_congr (rel_after _ (fieldAlias_fixed use c.field) hpq) ?_
      exact ⟨fun hk _ he => by cases he; exact hk, fun hk => hk d rfl⟩

end Simulation

end RecordSql
