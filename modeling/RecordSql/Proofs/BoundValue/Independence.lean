import RecordSql.Proofs.BoundValue.Checks
import RecordSql.Proofs.Compilation
import RecordSql.Proofs.Rendering.Simulation.Expressions

/-!
# Bound values do not reach the text

Two statements of the same shape are written piece by piece alike: where one binds a value the other one
binds the value in the same place of its tree, and all other pieces are equal.

- `Piece.Like`: equal pieces, or two bound values that are related.
- `valueSimulation`: renderings of expressions that differ in values.
- `statementPieces_like`: alike statements fail alike or have alike pieces.
- `compile_sameShape`: statements of the same shape compile to the same text.
-/

namespace RecordSql

/-- Pieces that are equal, or that bind related values. -/
inductive Piece.Like (rel : Value → Value → Prop) : Piece → Piece → Prop
  | same {p : Piece} : p.value? = none → Piece.Like rel p p
  | value {v v' : Value} : rel v v' → Piece.Like rel (.value v) (.value v')

section Pieces

variable {rel : Value → Value → Prop}

theorem layout_like {dialect : Dialect} {l : Layout} {ps qs : List Piece}
    (h : List.Forall₂ (Piece.Like rel) ps qs) : ∀ depth,
      layoutWith (fun _ => "?") dialect l depth ps = layoutWith (fun _ => "?") dialect l depth qs := by
  induction h with
  | nil => exact fun _ => rfl
  | cons hp _ ih =>
    intro depth
    rw [layoutWith, layoutWith]
    cases hp with
    | same _ => rw [ih]
    | value _ =>
      show "?" ++ layoutWith _ dialect l depth _ = "?" ++ layoutWith _ dialect l depth _
      rw [ih]

theorem parameters_like {ps qs : List Piece} (h : List.Forall₂ (Piece.Like rel) ps qs) :
    List.Forall₂ rel (parameters ps) (parameters qs) := by
  induction h with
  | nil => exact .nil
  | @cons p q ps qs hp _ ih =>
    cases hp with
    | same hv =>
      rw [show parameters (p :: ps) = parameters ps from List.filterMap_cons_none hv,
        show parameters (p :: qs) = parameters qs from List.filterMap_cons_none hv]
      exact ih
    | value hr => exact .cons hr ih

theorem pieces_like_parenthesized {ps qs : List Piece} (h : List.Forall₂ (Piece.Like rel) ps qs) :
    List.Forall₂ (Piece.Like rel) (parenthesized ps) (parenthesized qs) :=
  .cons (.same rfl) (List.rel_append h (.cons (.same rfl) .nil))

end Pieces

/-! ### Frames and expressions -/

section Frames

variable {rel : Value → Value → Prop}

/-- Frames that are the same but for the values in their definitions. -/
def Frame.Like (rel : Value → Value → Prop) (f f' : Frame) : Prop :=
  f' = { f with selects := f'.selects } ∧
    SameFields (fun _ d d' => d.expr.Like (.ofValues rel) d'.expr) f.selects f'.selects

theorem Frame.Like.enter {f f' : Frame} {s s' : Select} (hf : f.Like rel f')
    (hs : s.Like (.ofValues rel) s') : (f.enter s).Like rel (f'.enter s') := by
  have h := Select.like_iff.1 hs
  refine ⟨?_, .cons ⟨h.record, h.definitions.imp fun d d' hd => ⟨hd.1, hd.2.1, hd.2.2.1⟩⟩ hf.2⟩
  unfold Frame.enter
  rw [hf.1]

theorem Expr.Like.isInfix_eq {e e' : Expr} (h : e.Like (.ofValues rel) e') :
    e'.isInfix = e.isInfix := by
  cases e with
  | column c => rw [show e' = .column c from h]
  | literal sql => rw [show e' = .literal sql from h]
  | value v => obtain ⟨_, rfl, _⟩ := h; rfl
  | call name args => obtain ⟨_, rfl, _⟩ := h; rfl
  | epoch e => obtain ⟨_, rfl, _⟩ := h; rfl
  | binary op l r => obtain ⟨_, _, rfl, _⟩ := h; rfl
  | junction op operands => obtain ⟨_, rfl, _⟩ := h; rfl
  | not e => obtain ⟨_, rfl, _⟩ := h; rfl
  | isNull c => obtain ⟨rfl, _⟩ := h; rfl
  | inList c values => obtain ⟨_, rfl, _⟩ := h; rfl
  | «exists» s => obtain ⟨_, rfl, _⟩ := h; rfl
  | fullText record index query => obtain ⟨_, rfl, _⟩ := h; rfl

/-- What stands for a definition is the same but for values. -/
def ExpandsValues (rel : Value → Value → Prop) (expand : Frame → Expr → Rendered) : Prop :=
  ∀ f f' e e', f.Like rel f' → e.Like (.ofValues rel) e' →
    Matches .same (List.Forall₂ (Piece.Like rel)) (expand f e) (expand f' e')

/-- Renderings of expressions that differ in values. -/
def valueSimulation {expand : Frame → Expr → Rendered} (hexp : ExpandsValues rel expand) :
    Simulation (.ofValues rel) :=
  have lookup : ∀ {f f' : Frame} {use c}, f.Like rel f' →
      Lookup (fun d d' => Matches .same (List.Forall₂ (Piece.Like rel)) (expand f d.expr)
        (expand f' d'.expr)) (f.applied? use c) (f'.applied? use c) := fun {f f' use c} hf =>
    (lookup_applied hf.2 use c).mono fun d d' _ hd =>
      hd.elim fun _ he => hexp f f' d.expr d'.expr hf he
  { fails := .same
    rel := fun _ => List.Forall₂ (Piece.Like rel)
    expand := expand
    expand' := expand
    alike := Frame.Like rel
    kept := fun _ => True
    keeps := fun _ _ => True
    rel_nil := .nil
    rel_piece := fun hp => .cons (.same hp) .nil
    rel_value := fun hv => .cons (.value hv) .nil
    rel_append := fun h h' => List.rel_append h h'
    rel_operand := by
      intro _ e e' ps qs he h
      rw [he.isInfix_eq]
      split
      · exact pieces_like_parenthesized h
      · exact h
    keeps_iff := keeps_all
    base := fun hf => hf.1
    enter := fun hf hs => hf.enter hs
    column := fun hf hc => .inl ⟨hc, lookup hf⟩
    reference := fun hf _ => lookup hf
    key := fun hf _ _ => lookup hf
    projection := fun hf _ _ => lookup hf }

theorem expandsValues_expandWith : ∀ n, ExpandsValues rel (expandWith n)
  | 0 => fun _ _ _ _ _ _ => rfl
  | n + 1 => fun _ _ _ _ hf he => (valueSimulation (expandsValues_expandWith n)).expr hf he

end Frames

/-! ### Statements -/

section Statements

variable {rel : Value → Value → Prop} {f : Frame}

/-- Frames outside of all selects. -/
theorem Frame.like_refl (h : f.selects = []) : f.Like rel f :=
  ⟨rfl, by rw [h]; exact .nil⟩

theorem condition_like {c c' : Condition} (n : Nat) (hf : f.selects = [])
    (hc : c.Like (.ofValues rel) c') :
    Matches .same (List.Forall₂ (Piece.Like rel)) (conditionPieces (expandWith n) f c)
      (conditionPieces (expandWith n) f c') :=
  Simulation.condition_follows (S := valueSimulation (expandsValues_expandWith n)) (Frame.like_refl hf) hc
    fun e _ => (Simulation.follow_cases _).expr e

theorem pieces_like_refl {ps : List Piece} (h : ∀ p ∈ ps, p.value? = none) :
    List.Forall₂ (Piece.Like rel) ps ps :=
  List.forall₂_same.2 fun p hp => .same (h p hp)

theorem pieces_like_separated {separator : String} : ∀ {pss qss : List (List Piece)},
    List.Forall₂ (List.Forall₂ (Piece.Like rel)) pss qss →
    List.Forall₂ (Piece.Like rel) (separated separator pss) (separated separator qss)
  | _, _, .nil => .nil
  | _, _, .cons h .nil => h
  | _, _, .cons h (.cons h' hs) =>
    List.rel_append h (.cons (.same rfl) (pieces_like_separated (.cons h' hs)))

/-- A column gets its value, or the database's, in both inserts. -/
theorem insertSlot_like {i : Insert} {values : FieldValues}
    (h : FieldValues.Related rel i.values values) (identity : List String) (field : FieldSchema) :
    Matches .same (List.Forall₂ (Piece.Like rel)) (insertSlot i identity field)
      (insertSlot { i with values := values } identity field) := by
  have hv := Simulation.value?_related field.name h
  unfold insertSlot
  split
  · exact pieces_like_refl (by decide)
  · dsimp only
    cases hi : i.values.value? field.name with
    | none =>
      rw [hi] at hv
      rw [show values.value? field.name = none from hv]
      exact Failures.same.agree_self _
    | some v =>
      rw [hi] at hv
      obtain ⟨v', hv', hr⟩ := hv
      rw [hv']
      exact .cons (.value hr) .nil

theorem insert_like {i : Insert} {values : FieldValues} (h : FieldValues.Related rel i.values values) :
    Matches .same (List.Forall₂ (Piece.Like rel)) (insertPieces f i)
      (insertPieces f { i with values := values }) := by
  refine Matches.bindSame fun schema _ => ?_
  cases schema.table with
  | none => exact Failures.same.agree_self _
  | some table =>
    refine (Matches.mapM fun field _ => insertSlot_like h _ field).bind fun pss qss hs => ?_
    refine List.rel_append (List.rel_append (pieces_like_refl ?_) (pieces_like_separated hs))
      (.cons (.same rfl) .nil)
    have columns : ∀ fields : List FieldSchema,
        ∀ p ∈ separated ", " (fields.map fun c => [Piece.ident c.columnName]), p.value? = none := by
      intro fields
      induction fields with
      | nil => exact List.forall_mem_nil _
      | cons c fields ih =>
        cases fields with
        | nil => simp [separated, Piece.value?]
        | cons c' fields =>
          exact List.forall_mem_append.2 ⟨by simp [Piece.value?], List.forall_mem_cons.2 ⟨rfl, ih⟩⟩
    refine List.forall_mem_append.2 ⟨List.forall_mem_append.2 ⟨?_, columns _⟩, ?_⟩
    · simp [Piece.value?]
    · simp [Piece.value?]

theorem assignment_like {e e' : Expr} (n : Nat) (hf : f.selects = []) (record : RecordType)
    (schema : RecordSchema) (name : String) (he : e.Like (.ofValues rel) e') :
    Matches .same (List.Forall₂ (Piece.Like rel))
      (assignmentPieces (expandWith n) f record schema name e)
      (assignmentPieces (expandWith n) f record schema name e') := by
  refine Matches.bindSame fun field _ => ?_
  cases field.isComputed with
  | true => exact Failures.same.agree_self _
  | false =>
    have sim := (valueSimulation (expandsValues_expandWith n)).expr (Frame.like_refl hf) he
    exact sim.bind fun ps qs h => .cons (.same rfl) (.cons (.same rfl) h)

theorem assignments_like (n : Nat) (hf : f.selects = []) (record : RecordType) (schema : RecordSchema) :
    ∀ {as as' : List (String × Expr)},
      List.Forall₂ (fun a a' => a'.1 = a.1 ∧ a.2.Like (.ofValues rel) a'.2) as as' →
      Matches .same (List.Forall₂ (List.Forall₂ (Piece.Like rel)))
        (as.mapM fun a => assignmentPieces (expandWith n) f record schema a.1 a.2)
        (as'.mapM fun a => assignmentPieces (expandWith n) f record schema a.1 a.2)
  | [], [], .nil => .nil
  | a :: as, a' :: as', .cons h hs => by
    rw [List.mapM_cons, List.mapM_cons, h.1]
    refine (assignment_like n hf record schema a.1 h.2).bind fun ps qs hp => ?_
    exact (assignments_like n hf record schema hs).bind fun pss qss hps => .cons hp hps

/-- Alike statements of the same shape fail alike, or have alike pieces. -/
theorem statementPieces_like {s t : Statement} (hs : s.SameShape t) (h : s.Like (.ofValues rel) t)
    (dialect : Dialect) (g : Registry) :
    Matches .same (List.Forall₂ (Piece.Like rel)) (statementPieces dialect g s)
      (statementPieces dialect g t) := by
  cases s with
  | select s =>
    obtain ⟨s', rfl, hl⟩ := h
    obtain ⟨_, heq, hshape⟩ := hs
    cases heq
    show Matches _ _ (selectPieces (expandWith (expansionDepth s.definitionCount)) _ s)
      (selectPieces (expandWith (expansionDepth s'.definitionCount)) _ s')
    rw [hshape.checked.count]
    exact (valueSimulation (expandsValues_expandWith (expansionDepth s.definitionCount))).select
      (Frame.like_refl (f := { dialect := dialect, registry := g }) rfl) hl
  | insert i =>
    obtain ⟨values, rfl, hv⟩ := h
    exact insert_like hv
  | update u =>
    obtain ⟨record, assignments, condition⟩ := u
    obtain ⟨assignments', condition', rfl, ha, hc⟩ := h
    obtain ⟨_, _, heq, hashape, hcshape⟩ := hs
    cases heq
    cases condition with
    | none =>
      rw [show condition' = none from hc]
      exact Failures.same.agree_self _
    | some c =>
      obtain ⟨c', rfl, hc⟩ := hc
      obtain ⟨_, heq, hcshape⟩ := hcshape
      cases heq
      have hcount := (checkedCondition (fun e _ e' he => he.checked) hcshape).2.1
      have hassigned := (checkedAssignments hashape).count
      cases ha with
      | nil => exact Failures.same.agree_self _
      | @cons a a' as as' h hs =>
        show Matches _ _ (updatePieces _ ⟨record, a :: as, some c⟩)
          (updatePieces _ ⟨record, a' :: as', some c'⟩)
        unfold updatePieces
        dsimp only
        rw [hcount, hassigned]
        refine Matches.bindSame fun schema _ => ?_
        cases schema.table with
        | none => exact Failures.same.agree_self _
        | some table =>
          refine Matches.bindSame fun n _ => ?_
          refine (assignments_like _ rfl record schema (.cons h hs)).bind fun pss qss hps => ?_
          refine (condition_like _ rfl hc).bind fun ps qs hp => ?_
          refine List.rel_append (List.rel_append (pieces_like_refl ?_) (pieces_like_separated hps)) hp
          simp [Piece.value?]
  | delete d =>
    obtain ⟨c, rfl, hl⟩ := h
    obtain ⟨_, heq, hshape⟩ := hs
    cases heq
    have hcount := (checkedCondition (fun e _ e' he => he.checked) hshape).2.1
    show Matches _ _ (deletePieces _ d) (deletePieces _ { d with condition := c })
    unfold deletePieces
    dsimp only
    rw [hcount]
    refine Matches.bindSame fun schema _ => ?_
    cases schema.table with
    | none => exact Failures.same.agree_self _
    | some table =>
      dsimp only
      split
      · refine Matches.bindSame fun n _ => ?_
        exact (condition_like _ rfl hl).bind fun ps qs hp =>
          List.rel_append (pieces_like_refl (by simp [Piece.value?])) hp
      · exact (condition_like _ rfl hl).bind fun ps qs hp =>
          List.rel_append (pieces_like_refl (by simp [Piece.value?])) hp

end Statements

/-! ### Compiling -/

/-- Values that come from the same place of two lists. -/
theorem exists_positions {xs ys : List Value} : ∀ {ps qs : List Value},
    List.Forall₂ (fun v v' => ∃ i : Nat, xs[i]? = some v ∧ ys[i]? = some v') ps qs →
    ∃ positions : List Nat, ps.map some = positions.map (xs[·]?) ∧ qs.map some = positions.map (ys[·]?)
  | [], [], .nil => ⟨[], rfl, rfl⟩
  | p :: ps, q :: qs, .cons ⟨i, hp, hq⟩ h => by
    obtain ⟨positions, hps, hqs⟩ := exists_positions h
    refine ⟨i :: positions, ?_, ?_⟩
    · rw [List.map_cons, List.map_cons, hp, hps]
    · rw [List.map_cons, List.map_cons, hq, hqs]

theorem forall₂_positions {xs ys : List Value} (h : xs.length = ys.length) :
    List.Forall₂ (fun v v' => ∃ i : Nat, xs[i]? = some v ∧ ys[i]? = some v') xs ys := by
  rw [List.forall₂_iff_get]
  refine ⟨h, fun i hx hy => ⟨i, ?_, ?_⟩⟩
  · rw [List.get_eq_getElem, List.getElem?_eq_getElem hx]
  · rw [List.get_eq_getElem, List.getElem?_eq_getElem hy]

/-- Two statements that differ in bound values only fail with the same error, or have the same text and
parameters that come from the same places of both trees. -/
theorem compile_sameShape (catalog : Catalog) (options : Options) {s t : Statement} (h : s.SameShape t)
    (σ : Session) :
    ∃ σ', (∃ e, (compile catalog options s).runIn σ = (.error e, σ') ∧
        (compile catalog options t).runIn σ = (.error e, σ')) ∨
      ∃ (c c' : Compiled) (positions : List Nat), (compile catalog options s).runIn σ = (.ok c, σ') ∧
        (compile catalog options t).runIn σ = (.ok c', σ') ∧ c.sql = c'.sql ∧
        c.parameters.map some = positions.map (s.values[·]?) ∧
        c'.parameters.map some = positions.map (t.values[·]?) := by
  obtain ⟨hlen, hlike⟩ := h.like
  have hpositions := hlike _ (forall₂_positions hlen)
  rw [compile_runIn, compile_runIn, h.records_eq]
  rcases (Registry.build catalog s.records).runIn σ with ⟨e | g, σ'⟩
  · exact ⟨σ', .inl ⟨e, rfl, rfl⟩⟩
  · dsimp only [checkedPieces]
    rw [h.verify_eq]
    cases verify g s with
    | error e => exact ⟨σ', .inl ⟨e, rfl, rfl⟩⟩
    | ok _ =>
      have hp := statementPieces_like h hpositions options.dialect g
      rw [ok_bind, ok_bind]
      cases hs : statementPieces options.dialect g s with
      | error e =>
        cases ht : statementPieces options.dialect g t with
        | error e' =>
          rw [hs, ht] at hp
          cases hp
          exact ⟨σ', .inl ⟨e, rfl, rfl⟩⟩
        | ok qs =>
          rw [hs, ht] at hp
          cases hp
      | ok ps =>
        cases ht : statementPieces options.dialect g t with
        | error e' =>
          rw [hs, ht] at hp
          cases hp
        | ok qs =>
          rw [hs, ht] at hp
          have hparams := parameters_like hp
          have hsql : (Compiled.ofPieces options qs).sql = (Compiled.ofPieces options ps).sql :=
            (layout_like hp 0).symm
          have hevent : (Compiled.ofPieces options qs).event options t =
              (Compiled.ofPieces options ps).event options s := by
            unfold Compiled.event
            rw [h.kind_eq, h.record_eq, hsql]
            exact congrArg (Event.statementCompiled _ _ _ · _) hparams.length_eq.symm
          obtain ⟨positions, hsp, htp⟩ := exists_positions hparams
          dsimp only
          rw [hevent]
          exact ⟨_, .inr ⟨_, _, positions, rfl, rfl, hsql.symm, hsp, htp⟩⟩

/-- The books of some numbers that cost more than a bound, each page at a price. -/
def booksAbove (price bound first second : Int64) (limit : Limit) : Select where
  record := book
  fields := ["id", "price"]
  condition := some (.expr (.junction .and
    [.binary .gt (.column (.of book "price")) (.value (.integer bound)),
      .inList (.of book "id") [.integer first, .integer second]]))
  limit := some limit
  definitions :=
    [⟨"price", .binary .mul (.column (.of book "pages")) (.value (.integer price)), .definition⟩]

theorem booksAbove_sameShape :
    (Statement.select (booksAbove 3 10 1 2 ⟨0, 20⟩)).SameShape (.select (booksAbove 4 5 7 8 ⟨30, 6⟩)) ∧
      ∃ σ', (∃ e, (compile {} {} (.select (booksAbove 3 10 1 2 ⟨0, 20⟩))).runIn library = (.error e, σ') ∧
          (compile {} {} (.select (booksAbove 4 5 7 8 ⟨30, 6⟩))).runIn library = (.error e, σ')) ∨
        ∃ (c c' : Compiled) (positions : List Nat),
          (compile {} {} (.select (booksAbove 3 10 1 2 ⟨0, 20⟩))).runIn library = (.ok c, σ') ∧
          (compile {} {} (.select (booksAbove 4 5 7 8 ⟨30, 6⟩))).runIn library = (.ok c', σ') ∧
          c.sql = c'.sql ∧
          c.parameters.map some =
            positions.map ((Statement.select (booksAbove 3 10 1 2 ⟨0, 20⟩)).values[·]?) ∧
          c'.parameters.map some =
            positions.map ((Statement.select (booksAbove 4 5 7 8 ⟨30, 6⟩)).values[·]?) := by
  have hprice : Expr.Like anyValues (.binary .gt (.column (.of book "price")) (.value (.integer 10)))
      (.binary .gt (.column (.of book "price")) (.value (.integer 5))) :=
    ⟨_, _, rfl, rfl, _, rfl, trivial⟩
  have hchoice : Expr.Like anyValues (.inList (.of book "id") [.integer 1, .integer 2])
      (.inList (.of book "id") [.integer 7, .integer 8]) :=
    ⟨_, rfl, trivial, .cons trivial (.cons trivial .nil)⟩
  have hpages : Expr.Like anyValues (.binary .mul (.column (.of book "pages")) (.value (.integer 3)))
      (.binary .mul (.column (.of book "pages")) (.value (.integer 4))) :=
    ⟨_, _, rfl, rfl, _, rfl, trivial⟩
  have h : (Statement.select (booksAbove 3 10 1 2 ⟨0, 20⟩)).SameShape
      (.select (booksAbove 4 5 7 8 ⟨30, 6⟩)) := by
    refine ⟨_, rfl, Select.like_iff.2 ⟨rfl, rfl, rfl, rfl, trivial, .nil, ?_, rfl, rfl, ?_, ?_⟩⟩
    · exact ⟨_, rfl, _, rfl, _, rfl, _, _, rfl, hprice, _, _, rfl, hchoice, rfl⟩
    · exact ⟨_, rfl, trivial, trivial⟩
    · exact .cons ⟨rfl, rfl, hpages, trivial⟩ .nil
  exact ⟨h, compile_sameShape {} {} h library⟩

end RecordSql
