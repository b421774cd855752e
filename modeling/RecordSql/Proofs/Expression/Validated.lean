import RecordSql.Proofs.Binding.Visibility

/-!
# Validated statements

Choices of values and junctions of conditions have constructors that refuse empty lists. In a validated
statement all of them come from these constructors, wherever they stand: in the clauses of its selects, in
their definitions and in the selects inside of them.

- `Expr.Validated`, `Condition.Validated`: what the validating constructors give.
- `inList?_validated`, `junction?_validated`, `make_validated`: they give nothing else.
- `Item.Whole`: all parts of something are validated.
- `Condition.ofPairs_whole`: so are those of a condition from pairs.
- `Statement.Validated`, `Statement.Reaches.validated`: what the writing of a validated statement comes by
  is validated.
-/

namespace RecordSql

/-! ### Validating constructors -/

/-- An expression that comes from the constructor that validates it, if there is one. -/
def Expr.Validated : Expr → Prop
  | .inList c values => Expr.inList? c values = .ok (.inList c values)
  | .junction op operands => Expr.junction? op operands = .ok (.junction op operands)
  | _ => True

/-- A condition that comes from the constructor that validates it, if there is one. -/
def Condition.Validated : Condition → Prop
  | .multiKey k => MultiKey.make k.record k.fixed k.field k.values = .ok k
  | _ => True

/-- Something to write that comes from the constructor that validates it. -/
def Item.Validated : Item → Prop
  | .expr e => e.Validated
  | .condition c => c.Validated
  | _ => True

/-- A constructor that refuses an empty list gives what it is given with any other one. -/
theorem refusal_eq_ok {α β : Type} {l : List α} {e : Error} {b b' : β} :
    (if l.isEmpty then .error e else .ok b : Except Error β) = .ok b' ↔ l ≠ [] ∧ b = b' := by
  cases l with
  | nil => simp
  | cons a l => simp

section Constructors

variable {c : FieldRef} {values : List Value} {op : Junction} {operands : List Expr} {k : MultiKey}

theorem Expr.inList_validated_iff : (Expr.inList c values).Validated ↔ values ≠ [] :=
  refusal_eq_ok.trans (and_iff_left rfl)

theorem Expr.junction_validated_iff : (Expr.junction op operands).Validated ↔ operands ≠ [] :=
  refusal_eq_ok.trans (and_iff_left rfl)

theorem Condition.multiKey_validated_iff : (Condition.multiKey k).Validated ↔ k.values ≠ [] :=
  refusal_eq_ok.trans (and_iff_left rfl)

theorem inList?_validated {e : Expr} (h : Expr.inList? c values = .ok e) : e.Validated := by
  obtain ⟨hvalues, rfl⟩ := refusal_eq_ok.1 h
  exact Expr.inList_validated_iff.2 hvalues

theorem junction?_validated {e : Expr} (h : Expr.junction? op operands = .ok e) : e.Validated := by
  obtain ⟨hoperands, rfl⟩ := refusal_eq_ok.1 h
  exact Expr.junction_validated_iff.2 hoperands

theorem make_validated {record : RecordType} {fixed : FieldValues} {field : String}
    (h : MultiKey.make record fixed field values = .ok k) : (Condition.multiKey k).Validated := by
  obtain ⟨hvalues, rfl⟩ := refusal_eq_ok.1 h
  exact Condition.multiKey_validated_iff.2 hvalues

end Constructors

/-! ### Parts -/

/-- What stands directly inside of something, wherever this stands. -/
def Item.Part (i j : Item) : Prop :=
  ∃ around inside, Site.Part ⟨around, i⟩ ⟨inside, j⟩

/-- Something to write with validated parts only. -/
def Item.Whole (i : Item) : Prop :=
  ∀ j, Relation.ReflTransGen Item.Part i j → j.Validated

theorem Item.Whole.part {i j : Item} (h : i.Whole) (hpart : Item.Part i j) : j.Whole :=
  fun l hl => h l (.head hpart hl)

theorem Item.Whole.of_parts {i : Item} (hi : i.Validated) (h : ∀ j, Item.Part i j → j.Whole) :
    i.Whole := by
  intro j hj
  rcases Relation.ReflTransGen.cases_head hj with rfl | ⟨next, hnext, hrest⟩
  · exact hi
  · exact h next hnext j hrest

/-- An expression that is not put together of others is whole if it is validated itself. -/
theorem Expr.whole_of_leaf {e : Expr} (hnone : e.operands = []) (hno : ∀ s, e ≠ .exists s)
    (he : e.Validated) : (Item.expr e).Whole := by
  refine .of_parts he fun j hj => ?_
  obtain ⟨around, inside, hpart⟩ := hj
  cases hpart with
  | operand ha =>
    rw [hnone] at ha
    cases ha
  | subSelect => exact absurd rfl (hno _)

theorem Condition.whole_of_expr {e : Expr} (h : (Item.expr e).Whole) :
    (Item.condition (.expr e)).Whole := by
  refine .of_parts trivial fun j hj => ?_
  obtain ⟨around, inside, hpart⟩ := hj
  cases hpart with
  | condition => exact h

theorem Expr.whole_of_select {t : Select} (h : (Item.select t).Whole) : (Item.expr (.exists t)).Whole := by
  refine .of_parts trivial fun j hj => ?_
  obtain ⟨around, inside, hpart⟩ := hj
  cases hpart with
  | operand ha => cases ha
  | subSelect => exact h

/-- The parts of a select are its definitions, its restriction and the expressions in its clauses. -/
theorem Select.whole_of_parts {t : Select} (hdefinitions : ∀ d ∈ t.definitions, (Item.expr d.expr).Whole)
    (hrestriction : ∀ c, t.condition = some c → (Item.condition c).Whole)
    (hclauses : ∀ e ∈ t.clauses, (Item.expr e).Whole) : (Item.select t).Whole := by
  refine .of_parts trivial fun j hj => ?_
  obtain ⟨around, inside, hpart⟩ := hj
  cases hpart with
  | definition hd => exact hdefinitions _ hd
  | restriction hc => exact hrestriction _ hc
  | clause he => exact hclauses _ he

/-- An equation and a comparison with null have no parts to validate. -/
theorem Expr.equals_whole (c : FieldRef) (v : Value) : (Item.expr (.equals c v)).Whole := by
  unfold Expr.equals
  split
  · exact whole_of_leaf rfl nofun trivial
  · refine .of_parts trivial fun j hj => ?_
    obtain ⟨around, inside, hpart⟩ := hj
    cases hpart with
    | operand ha =>
      obtain rfl | ha := List.mem_cons.1 ha
      · exact whole_of_leaf rfl nofun trivial
      · obtain rfl := List.mem_singleton.1 ha
        exact whole_of_leaf rfl nofun trivial

/-- All parts of a condition that pairs give are validated. -/
theorem Condition.ofPairs_whole {pairs : List (FieldRef × Value)} {c : Condition}
    (h : Condition.ofPairs pairs = .ok c) : (Item.condition c).Whole := by
  unfold Condition.ofPairs at h
  split at h
  · rename_i c v
    cases h
    exact whole_of_expr (Expr.equals_whole c v)
  · obtain ⟨e, he, rfl⟩ := map_eq_ok h
    have hvalid : e.Validated := junction?_validated he
    obtain ⟨-, rfl⟩ := refusal_eq_ok.1 he
    refine whole_of_expr (.of_parts hvalid fun j hj => ?_)
    obtain ⟨around, inside, hpart⟩ := hj
    cases hpart with
    | operand ha =>
      obtain ⟨p, -, rfl⟩ := List.mem_map.1 ha
      exact Expr.equals_whole p.1 p.2

/-! ### Statements -/

/-- All choices, junctions and keys in a statement come from the constructors that validate them. -/
def Statement.Validated (s : Statement) : Prop :=
  (Item.statement s).Whole

theorem Statement.validated_of_select {t : Select} (h : (Item.select t).Whole) :
    (Statement.select t).Validated := by
  refine .of_parts trivial fun j hj => ?_
  obtain ⟨around, inside, hpart⟩ := hj
  cases hpart with
  | select => exact h

/-- A step of the writing leads to a part, to a reference, or to a definition of a select around. -/
theorem Frame.Leads.part {f : Frame} {p q : Site} (h : f.Leads p q) :
    Site.Part p q ∨ (∃ use c, q = ⟨p.around, .reference use c⟩) ∨
      ∃ use c d, (f.within p.around).applied? use c = some d ∧ q = ⟨p.around, .expr d.expr⟩ := by
  cases h with
  | select => exact .inl .select
  | assignment ha => exact .inl (.assignment ha)
  | update hc => exact .inl (.update hc)
  | delete => exact .inl .delete
  | restriction hc => exact .inl (.restriction hc)
  | clause he => exact .inl (.clause he)
  | condition => exact .inl .condition
  | operand ha => exact .inl (.operand ha)
  | subSelect => exact .inl .subSelect
  | projection | key | multiKey | reference => exact .inr (.inl ⟨_, _, rfl⟩)
  | definition hd => exact .inr (.inr ⟨_, _, _, hd, rfl⟩)

/-- If all parts of what is written at a site and of the selects around it are validated, then they still
are after a step. -/
theorem Frame.Leads.whole {f : Frame} {p q : Site} (hf : f.selects = []) (hpq : f.Leads p q)
    (h : (∀ t ∈ p.around, (Item.select t).Whole) ∧ p.item.Whole) :
    (∀ t ∈ q.around, (Item.select t).Whole) ∧ q.item.Whole := by
  obtain ⟨haround, hitem⟩ := h
  obtain hpart | ⟨use, c, rfl⟩ | ⟨use, c, d, hd, rfl⟩ := hpq.part
  · have hq : q.item.Whole := hitem.part ⟨p.around, q.around, hpart⟩
    obtain hsame | ⟨t, rfl⟩ := hpart.around
    · rw [hsame]
      exact ⟨haround, hq⟩
    · exact ⟨List.forall_mem_cons.2 ⟨hq, haround⟩, hq⟩
  · refine ⟨haround, .of_parts trivial fun j hj => ?_⟩
    obtain ⟨around, inside, hpart⟩ := hj
    cases hpart
  · obtain ⟨t, ht, -, hmem, -⟩ := applied?_within hf hd
    exact ⟨haround, (haround t ht).part ⟨p.around, p.around, .definition hmem⟩⟩

/-- Whatever the writing of a validated statement comes by is validated. -/
theorem Statement.Reaches.validated {s : Statement} {f : Frame} {p : Site} (hs : s.Validated)
    (hf : f.selects = []) (h : s.Reaches f p) : p.item.Validated := by
  suffices hwhole : (∀ t ∈ p.around, (Item.select t).Whole) ∧ p.item.Whole from hwhole.2 p.item .refl
  induction h with
  | start => exact ⟨List.forall_mem_nil _, hs⟩
  | step _ hpq ih => exact hpq.whole hf ih

end RecordSql
