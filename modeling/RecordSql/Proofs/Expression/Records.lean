import RecordSql.Proofs.Rendering.Sites

/-!
# Records that are referred to

The records of a select or of an expression include those of its parts.

- `Select.records_eq`: the records of a select, clause by clause.
- `Expr.records_operand`, `Expr.records_reference`: the records of the parts of an expression.
- `Select.records_definition` to `Select.records_clause`: the records of the parts of a select.
- `Update.records_assignment`, `Update.records_restriction`: the records of the parts of an update.
- `Statement.Reaches.records`: whatever the writing of a statement comes by refers to its records.
-/

namespace RecordSql

/-! ### Expressions -/

theorem exprsRecords_eq (es : List Expr) : exprsRecords es = es.flatMap Expr.records := by
  induction es with
  | nil => rfl
  | cons e es ih => rw [exprsRecords, ih, List.flatMap_cons]

theorem joinsRecords_eq (js : List Join) :
    joinsRecords js = js.flatMap fun j => j.record :: j.condition.records := by
  induction js with
  | nil => rfl
  | cons j js ih =>
    obtain ⟨record, condition, kind, tableAlias⟩ := j
    rw [joinsRecords, ih, List.flatMap_cons]

theorem orderRecords_eq (ts : List OrderTerm) :
    orderRecords ts = ts.flatMap fun t => t.expr.records := by
  induction ts with
  | nil => rfl
  | cons t ts ih =>
    obtain ⟨e, direction⟩ := t
    rw [orderRecords, ih, List.flatMap_cons]

theorem definitionsRecords_eq (ds : List Definition) :
    definitionsRecords ds = ds.flatMap fun d => d.expr.records := by
  induction ds with
  | nil => rfl
  | cons d ds ih =>
    obtain ⟨field, e, kind⟩ := d
    rw [definitionsRecords, ih, List.flatMap_cons]

/-- The records of an operand are records of the expression. -/
theorem Expr.records_operand {e a : Expr} (h : a ∈ e.operands) : a.records ⊆ e.records := by
  have among : ∀ {es : List Expr}, a ∈ es → a.records ⊆ exprsRecords es := by
    intro es ha r hr
    rw [exprsRecords_eq]
    exact List.mem_flatMap.2 ⟨a, ha, hr⟩
  cases e with
  | call name args => exact among h
  | junction op operands => exact among h
  | epoch e | not e =>
    rw [List.mem_singleton.1 h]
    exact List.Subset.refl _
  | binary op l r =>
    rcases List.mem_cons.1 h with rfl | h
    · exact List.subset_append_left _ _
    · rw [List.mem_singleton.1 h]
      exact List.subset_append_right _ _
  | column | literal | value | isNull | inList | fullText | «exists» => cases h

/-- The record of the field that an expression refers to is a record of the expression. -/
theorem Expr.records_reference {e : Expr} {c : FieldRef} (h : e.reference? = some c) :
    c.records ⊆ e.records := by
  cases e with
  | column | isNull | inList =>
    cases h
    exact List.Subset.refl _
  | literal | value | call | epoch | binary | junction | not | «exists» | fullText => cases h

/-! ### Selects -/

/-- The records of a restriction. -/
def whereRecords : Option Condition → List RecordType
  | some c => c.records
  | none => []

/-- The records of groups. -/
def groupsRecords : Option (List Expr) → List RecordType
  | some es => exprsRecords es
  | none => []

/-- The records of an order. -/
def ordersRecords : Option (List OrderTerm) → List RecordType
  | some ts => orderRecords ts
  | none => []

theorem Select.records_eq (s : Select) :
    s.records = s.record :: definitionsRecords s.definitions ++ s.sources.getD [] ++
      joinsRecords s.joins ++ whereRecords s.condition ++ groupsRecords s.groupBy ++
      ordersRecords s.orderBy := by
  obtain ⟨record, names, sources, joins, condition, groupBy, orderBy, limit, forUpdate, definitions⟩ := s
  cases condition <;> cases groupBy <;> cases orderBy <;> rfl

namespace Select

variable {s : Select}

theorem record_mem_records (s : Select) : s.record ∈ s.records := by
  rw [records_eq]
  simp

/-- The records of a definition are records of the select. -/
theorem records_definition {d : Definition} (h : d ∈ s.definitions) : d.expr.records ⊆ s.records := by
  intro r hr
  have hmem : r ∈ definitionsRecords s.definitions := by
    rw [definitionsRecords_eq]
    exact List.mem_flatMap.2 ⟨d, h, hr⟩
  rw [records_eq]
  simp [hmem]

/-- The records of the tables that a select reads are records of the select. -/
theorem records_source : s.sources.getD [s.record] ⊆ s.records := by
  intro r hr
  cases hs : s.sources with
  | none =>
    rw [hs] at hr
    rw [List.mem_singleton.1 hr]
    exact s.record_mem_records
  | some rs =>
    rw [hs] at hr
    have hmem : r ∈ rs := hr
    rw [records_eq, hs]
    simp [hmem]

theorem records_joins {j : Join} (h : j ∈ s.joins) : j.record :: j.condition.records ⊆ s.records := by
  intro r hr
  have hmem : r ∈ joinsRecords s.joins := by
    rw [joinsRecords_eq]
    exact List.mem_flatMap.2 ⟨j, h, hr⟩
  rw [records_eq]
  simp [hmem]

/-- The records of the restriction are records of the select. -/
theorem records_restriction {c : Condition} (h : s.condition = some c) : c.records ⊆ s.records := by
  intro r hr
  rw [records_eq, h]
  simp [whereRecords, hr]

theorem records_group {es : List Expr} {e : Expr} (hs : s.groupBy = some es) (h : e ∈ es) :
    e.records ⊆ s.records := by
  intro r hr
  have hmem : r ∈ groupsRecords s.groupBy := by
    rw [hs]
    show r ∈ exprsRecords es
    rw [exprsRecords_eq]
    exact List.mem_flatMap.2 ⟨e, h, hr⟩
  rw [records_eq]
  simp [hmem]

theorem records_order {ts : List OrderTerm} {t : OrderTerm} (hs : s.orderBy = some ts) (h : t ∈ ts) :
    t.expr.records ⊆ s.records := by
  intro r hr
  have hmem : r ∈ ordersRecords s.orderBy := by
    rw [hs]
    show r ∈ orderRecords ts
    rw [orderRecords_eq]
    exact List.mem_flatMap.2 ⟨t, h, hr⟩
  rw [records_eq]
  simp [hmem]

/-- The records of the clauses are records of the select. -/
theorem records_clause {e : Expr} (h : e ∈ s.clauses) : e.records ⊆ s.records := by
  rcases List.mem_append.1 h with h | horder
  · rcases List.mem_append.1 h with hjoin | hgroup
    · obtain ⟨j, hj, rfl⟩ := List.mem_map.1 hjoin
      exact List.Subset.trans (List.subset_cons_self _ _) (records_joins hj)
    · cases hs : s.groupBy with
      | none =>
        rw [hs] at hgroup
        cases hgroup
      | some es =>
        rw [hs] at hgroup
        exact records_group hs hgroup
  · obtain ⟨t, ht, rfl⟩ := List.mem_map.1 horder
    cases hs : s.orderBy with
    | none =>
      rw [hs] at ht
      cases ht
    | some ts =>
      rw [hs] at ht
      exact records_order hs ht

end Select

/-! ### Updates -/

namespace Update

variable {u : Update}

/-- The records of an assigned expression are records of the update. -/
theorem records_assignment {a : String × Expr} (h : a ∈ u.assignments) :
    a.2.records ⊆ (Statement.update u).records := by
  intro r hr
  simp only [Statement.records, List.cons_append, List.mem_cons, List.mem_append, List.mem_flatMap]
  exact .inr (.inl ⟨a, h, hr⟩)

/-- The records of the restriction are records of the update. -/
theorem records_restriction {c : Condition} (h : u.condition = some c) :
    c.records ⊆ (Statement.update u).records := by
  intro r hr
  simp only [Statement.records, h, List.cons_append, List.mem_cons, List.mem_append]
  exact .inr (.inr hr)

end Update

/-! ### Collected records -/

/-- The records that something to write refers to. -/
def Item.records : Item → List RecordType
  | .statement s => s.records
  | .select s => s.records
  | .condition c => c.records
  | .expr e => e.records
  | .reference _ c => c.records

/-- What a step leads to refers to records of what it comes from, or it is a definition. -/
theorem Frame.Leads.records {f : Frame} {p q : Site} (h : f.Leads p q) :
    (q.item.records ⊆ p.item.records ∧
        (q.around = p.around ∨ ∃ t, q.around = t :: p.around ∧ t.records ⊆ p.item.records)) ∨
      ∃ use c d, (f.within p.around).applied? use c = some d ∧ q = ⟨p.around, .expr d.expr⟩ := by
  cases h with
  | select | subSelect =>
    exact .inl ⟨List.Subset.refl _, .inr ⟨_, rfl, List.Subset.refl _⟩⟩
  | assignment ha => exact .inl ⟨Update.records_assignment ha, .inl rfl⟩
  | update hc => exact .inl ⟨Update.records_restriction hc, .inl rfl⟩
  | delete => exact .inl ⟨List.subset_cons_self _ _, .inl rfl⟩
  | @projection around s name _ =>
    refine .inl ⟨fun r hr => ?_, .inl rfl⟩
    rw [List.mem_singleton.1 hr]
    exact s.record_mem_records
  | restriction hc => exact .inl ⟨Select.records_restriction hc, .inl rfl⟩
  | clause he => exact .inl ⟨Select.records_clause he, .inl rfl⟩
  | condition => exact .inl ⟨List.Subset.refl _, .inl rfl⟩
  | key | multiKey => exact .inl ⟨List.Subset.refl _, .inl rfl⟩
  | operand ha => exact .inl ⟨Expr.records_operand ha, .inl rfl⟩
  | reference hc => exact .inl ⟨Expr.records_reference hc, .inl rfl⟩
  | definition hd => exact .inr ⟨_, _, _, hd, rfl⟩

/-- Whatever the writing of a statement comes by refers to collected records only: in the clauses, in
sub-selects, and in definitions wherever they are expanded. -/
theorem Statement.Reaches.records {s : Statement} {f : Frame} {p : Site} (hf : f.selects = [])
    (h : s.Reaches f p) :
    (∀ t ∈ p.around, t.records ⊆ s.records) ∧ p.item.records ⊆ s.records := by
  induction h with
  | start => exact ⟨List.forall_mem_nil _, List.Subset.refl _⟩
  | @step p q _ hpq ih =>
    obtain ⟨haround, hitem⟩ := ih
    rcases hpq.records with ⟨hsub, hsame | ⟨t, hinner, ht⟩⟩ | ⟨use, c, d, happlied, rfl⟩
    · exact ⟨hsame ▸ haround, List.Subset.trans hsub hitem⟩
    · refine ⟨?_, List.Subset.trans hsub hitem⟩
      rw [hinner]
      exact List.forall_mem_cons.2 ⟨List.Subset.trans ht hitem, haround⟩
    · -- a definition belongs to a select around it, whose records include those of the definition
      obtain ⟨t, ht, -, hd, -⟩ := Frame.applied?_within hf happlied
      exact ⟨haround, List.Subset.trans (Select.records_definition hd) (haround t ht)⟩

end RecordSql
