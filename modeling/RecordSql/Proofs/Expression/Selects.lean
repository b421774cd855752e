import RecordSql.Proofs.Rendering.Sites

/-!
# Sub-selects

The selects that stand inside of an expression or a statement, at any depth and in definitions too.

- `Expr.selects`, `Select.nested`: the selects inside of an expression, and those inside of a select.
- `Expr.mem_selects`, `Select.mem_nested`: they are those of the operands, clauses and definitions.
- `ExprCases.ofOperands`: an induction that does not tell operators from calls.
- `Statement.Reaches.selects`: the selects around a site are selects of the statement.
-/

namespace RecordSql

mutual

/-- The selects inside of an expression, each before those inside of it. -/
def Expr.selects : Expr → List Select
  | .column _ | .literal _ | .value _ | .isNull _ | .inList .. | .fullText .. => []
  | .call _ args => exprsSelects args
  | .epoch e | .not e => e.selects
  | .binary _ l r => l.selects ++ r.selects
  | .junction _ operands => exprsSelects operands
  | .exists s => s :: s.nested
termination_by structural x => x

/-- The selects inside of several expressions. -/
def exprsSelects : List Expr → List Select
  | [] => []
  | e :: es => e.selects ++ exprsSelects es
termination_by structural x => x

/-- The selects inside of a condition. -/
def Condition.selects : Condition → List Select
  | .expr e => e.selects
  | .key _ | .multiKey _ => []
termination_by structural x => x

/-- The selects inside of join conditions. -/
def joinsSelects : List Join → List Select
  | [] => []
  | ⟨_, condition, _, _⟩ :: js => condition.selects ++ joinsSelects js
termination_by structural x => x

/-- The selects inside of the terms of an order. -/
def orderSelects : List OrderTerm → List Select
  | [] => []
  | ⟨e, _⟩ :: ts => e.selects ++ orderSelects ts
termination_by structural x => x

/-- The selects inside of definitions. -/
def definitionsSelects : List Definition → List Select
  | [] => []
  | ⟨_, e, _⟩ :: ds => e.selects ++ definitionsSelects ds
termination_by structural x => x

/-- The selects inside of a restriction. -/
def whereSelects : Option Condition → List Select
  | some c => c.selects
  | none => []
termination_by structural x => x

/-- The selects inside of groups. -/
def groupsSelects : Option (List Expr) → List Select
  | some es => exprsSelects es
  | none => []
termination_by structural x => x

/-- The selects inside of an order. -/
def ordersSelects : Option (List OrderTerm) → List Select
  | some ts => orderSelects ts
  | none => []
termination_by structural x => x

/-- The selects inside of a select. -/
def Select.nested : Select → List Select
  | ⟨_, _, _, joins, condition, groupBy, orderBy, _, _, definitions⟩ =>
    definitionsSelects definitions ++
      ((joinsSelects joins ++ groupsSelects groupBy ++ ordersSelects orderBy) ++ whereSelects condition)
termination_by structural x => x

end

theorem exprsSelects_eq (es : List Expr) : exprsSelects es = es.flatMap Expr.selects := by
  induction es with
  | nil => rfl
  | cons e es ih => exact congrArg (e.selects ++ ·) ih

theorem joinsSelects_eq (js : List Join) : joinsSelects js = js.flatMap fun j => j.condition.selects := by
  induction js with
  | nil => rfl
  | cons j js ih =>
    cases j
    exact congrArg (_ ++ ·) ih

theorem orderSelects_eq (ts : List OrderTerm) : orderSelects ts = ts.flatMap fun t => t.expr.selects := by
  induction ts with
  | nil => rfl
  | cons t ts ih =>
    cases t
    exact congrArg (_ ++ ·) ih

theorem definitionsSelects_eq (ds : List Definition) :
    definitionsSelects ds = ds.flatMap fun d => d.expr.selects := by
  induction ds with
  | nil => rfl
  | cons d ds ih =>
    cases d
    exact congrArg (_ ++ ·) ih

theorem whereSelects_eq : ∀ c : Option Condition, whereSelects c = c.toList.flatMap Condition.selects
  | some c => (List.flatMap_singleton Condition.selects c).symm
  | none => rfl

/-- The selects inside of the clauses. -/
theorem clauses_selects (s : Select) :
    s.clauses.flatMap Expr.selects =
      joinsSelects s.joins ++ groupsSelects s.groupBy ++ ordersSelects s.orderBy := by
  have groups : (s.groupBy.getD []).flatMap Expr.selects = groupsSelects s.groupBy := by
    cases s.groupBy with
    | none => rfl
    | some es => exact (exprsSelects_eq es).symm
  have orders : (s.orderBy.getD []).flatMap (fun t => t.expr.selects) = ordersSelects s.orderBy := by
    cases s.orderBy with
    | none => rfl
    | some ts => exact (orderSelects_eq ts).symm
  rw [Select.clauses, List.flatMap_append, List.flatMap_append, List.flatMap_map, List.flatMap_map,
    groups, orders, ← joinsSelects_eq]

/-- The selects inside of a select are those of its definitions, of its clauses and of its restriction. -/
theorem Select.mem_nested {s t : Select} :
    t ∈ s.nested ↔ (∃ d ∈ s.definitions, t ∈ d.expr.selects) ∨ (∃ e ∈ s.clauses, t ∈ e.selects) ∨
      ∃ c, s.condition = some c ∧ t ∈ c.selects := by
  have hnested : s.nested = definitionsSelects s.definitions ++
      ((joinsSelects s.joins ++ groupsSelects s.groupBy ++ ordersSelects s.orderBy) ++
        whereSelects s.condition) := by
    cases s
    rfl
  rw [hnested, ← clauses_selects, definitionsSelects_eq, whereSelects_eq]
  simp only [List.mem_append, List.mem_flatMap, Option.mem_toList]

/-- The selects inside of an expression are those of its operands, or it is a sub-select itself. -/
theorem Expr.mem_selects {e : Expr} {t : Select} :
    t ∈ e.selects ↔ (∃ a ∈ e.operands, t ∈ a.selects) ∨ ∃ s, e = .exists s ∧ t ∈ s :: s.nested := by
  cases e with
  | call _ es | junction _ es =>
    show t ∈ exprsSelects es ↔ _
    rw [exprsSelects_eq, List.mem_flatMap]
    exact ⟨.inl, fun h => h.resolve_right nofun⟩
  | epoch | not =>
    refine ⟨fun h => .inl ⟨_, List.mem_singleton_self _, h⟩, ?_⟩
    rintro (⟨a, ha, ht⟩ | ⟨s, hs, -⟩)
    · cases List.mem_singleton.1 ha
      exact ht
    · cases hs
  | binary op l r =>
    show t ∈ l.selects ++ r.selects ↔ _
    simp [operands]
  | column | literal | value | isNull | inList | fullText => exact ⟨nofun, by simp [operands]⟩
  | «exists» s => exact ⟨fun h => .inr ⟨s, rfl, h⟩, by simp [operands, selects]⟩

/-- The selects inside of an operand are inside of the expression. -/
theorem Expr.selects_operand {e a : Expr} (h : a ∈ e.operands) : a.selects ⊆ e.selects :=
  fun _ ht => mem_selects.2 (.inl ⟨a, h, ht⟩)

/-- An induction in which all expressions but sub-selects are treated alike: a property of the operands
is one of the expression, and a property of the clauses, the restriction and the definitions is one of the
select. -/
theorem ExprCases.ofOperands {P : Expr → Prop} {Q : Select → Prop}
    (hexpr : ∀ e : Expr, (∀ a ∈ e.operands, P a) → (∀ s, e = .exists s → Q s) → P e)
    (hselect : ∀ s : Select, (∀ d ∈ s.definitions, P d.expr) → (∀ e ∈ s.clauses, P e) →
      (∀ e, s.condition = some (.expr e) → P e) → Q s) : ExprCases P Q := by
  have leaf : ∀ e : Expr, e.operands = [] → (∀ s, e ≠ .exists s) → P e := fun e hnone hno =>
    hexpr e (by rw [hnone]; exact List.forall_mem_nil _) fun s hs => absurd hs (hno s)
  refine ⟨fun _ => leaf _ rfl nofun, fun _ => leaf _ rfl nofun, fun _ => leaf _ rfl nofun,
    fun _ _ ih => hexpr _ ih nofun, fun _ ih => hexpr _ (List.forall_mem_singleton.2 ih) nofun,
    fun _ _ _ ihl ihr => ?binary, fun _ _ ih => hexpr _ ih nofun,
    fun _ ih => hexpr _ (List.forall_mem_singleton.2 ih) nofun, fun _ => leaf _ rfl nofun,
    fun _ _ => leaf _ rfl nofun, fun _ ih => ?subSelect, fun _ _ _ => leaf _ rfl nofun, ?select⟩
  case binary =>
    refine hexpr _ (List.forall_mem_cons.2 ⟨ihl, List.forall_mem_singleton.2 ihr⟩) nofun
  case subSelect =>
    refine hexpr _ (List.forall_mem_nil _) fun s hs => ?_
    cases hs
    exact ih
  case select =>
    intro s hdefinitions hjoins hcondition hgroupBy horderBy
    refine hselect s hdefinitions ?_ hcondition
    refine List.forall_mem_append.2 ⟨List.forall_mem_append.2 ⟨?_, ?_⟩, ?_⟩
    · exact List.forall_mem_map.2 hjoins
    · cases hs : s.groupBy with
      | none => exact List.forall_mem_nil _
      | some es => exact hgroupBy es hs
    · refine List.forall_mem_map.2 ?_
      cases hs : s.orderBy with
      | none => exact List.forall_mem_nil _
      | some ts => exact horderBy ts hs

/-! ### Statements -/

/-- The selects of a statement, each before those inside of it. -/
def Statement.selects : Statement → List Select
  | .select s => s :: s.nested
  | .insert _ => []
  | .update u => u.assignments.flatMap (fun a => a.2.selects) ++ whereSelects u.condition
  | .delete d => d.condition.selects

/-- The selects inside of something to write. -/
def Item.selects : Item → List Select
  | .statement s => s.selects
  | .select s => s.nested
  | .condition c => c.selects
  | .expr e => e.selects
  | .reference .. => []

/-- A step leads to a part, to a select that is entered, or to the definition of a reference. -/
theorem Frame.Leads.selects {f : Frame} {p q : Site} (h : f.Leads p q) :
    (q.around = p.around ∧ q.item.selects ⊆ p.item.selects) ∨
    (∃ s, q = ⟨s :: p.around, .select s⟩ ∧ s :: s.nested ⊆ p.item.selects) ∨
    ∃ use c d, (f.within p.around).applied? use c = some d ∧ q = ⟨p.around, .expr d.expr⟩ := by
  cases h with
  | select | subSelect => exact .inr (.inl ⟨_, rfl, List.Subset.refl _⟩)
  | assignment ha =>
    refine .inl ⟨rfl, fun t ht => List.mem_append_left _ ?_⟩
    exact List.mem_flatMap.2 ⟨_, ha, ht⟩
  | update hc =>
    refine .inl ⟨rfl, fun t ht => List.mem_append_right _ ?_⟩
    rw [hc]
    exact ht
  | delete | condition => exact .inl ⟨rfl, List.Subset.refl _⟩
  | projection | key | multiKey | reference => exact .inl ⟨rfl, List.nil_subset _⟩
  | restriction hc => exact .inl ⟨rfl, fun t ht => Select.mem_nested.2 (.inr (.inr ⟨_, hc, ht⟩))⟩
  | clause he => exact .inl ⟨rfl, fun t ht => Select.mem_nested.2 (.inr (.inl ⟨_, he, ht⟩))⟩
  | operand ha => exact .inl ⟨rfl, Expr.selects_operand ha⟩
  | definition hd => exact .inr (.inr ⟨_, _, _, hd, rfl⟩)

/-- If the selects around a site and inside of what is written there are some of a list, with all that are
inside of them, then they still are after a step. -/
theorem Frame.Leads.selects_subset {f : Frame} {p q : Site} {all : List Select} (hf : f.selects = [])
    (hpq : f.Leads p q) (h : (∀ t ∈ p.around, t :: t.nested ⊆ all) ∧ p.item.selects ⊆ all) :
    (∀ t ∈ q.around, t :: t.nested ⊆ all) ∧ q.item.selects ⊆ all := by
  obtain ⟨haround, hitem⟩ := h
  obtain ⟨hsame, hsub⟩ | ⟨t, rfl, hsub⟩ | ⟨use, c, d, happlied, rfl⟩ := hpq.selects
  · rw [hsame]
    exact ⟨haround, List.Subset.trans hsub hitem⟩
  · have hall := List.Subset.trans hsub hitem
    exact ⟨List.forall_mem_cons.2 ⟨hall, haround⟩, List.Subset.trans (List.subset_cons_self t _) hall⟩
  · obtain ⟨t, ht, -, hd, -⟩ := Frame.applied?_within hf happlied
    refine ⟨haround, fun u hu => haround t ht (List.mem_cons_of_mem t ?_)⟩
    exact Select.mem_nested.2 (.inl ⟨d, hd, hu⟩)

/-- The selects around a site and inside of what is written there are selects of the statement, with all
that are inside of them. -/
theorem Statement.Reaches.selects {s : Statement} {f : Frame} {p : Site} (hf : f.selects = [])
    (h : s.Reaches f p) :
    (∀ t ∈ p.around, t :: t.nested ⊆ s.selects) ∧ p.item.selects ⊆ s.selects := by
  induction h with
  | start => exact ⟨List.forall_mem_nil _, List.Subset.refl _⟩
  | step _ hpq ih => exact hpq.selects_subset hf ih

end RecordSql
