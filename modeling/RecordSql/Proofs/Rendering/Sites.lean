import RecordSql.Proofs.Rendering.Simulation
import RecordSql.Proofs.Rendering.Surroundings

/-!
# Sites of a rendering

Writing a statement leads from one thing to the next: from a select to its clauses, from an expression to
its operands, from a reference to the definition that stands for it. What is written depends on the
selects around it, and these are the selects entered on the way.

- `tablePiece_label`, `joinTable_label`: the labels that tables are declared by.
- `Site`: something to write, and the selects around it.
- `Frame.Leads`: what writing something leads to next.
- `Statement.Reaches`: all that the writing of a statement comes by.
- `Statement.surroundings`: the pieces of a statement with the labels of the tables around them.
- `Frame.Writes`: the columns that are written at a site.
-/

namespace RecordSql

/-! ### Tables -/

/-- The tables that a select reads, by the records that stand for them, with the aliases of joins. -/
def Select.tables (s : Select) : List (RecordType × Option String) :=
  (s.sources.getD [s.record]).map (·, none) ++ s.joins.map fun j => (j.record, j.tableAlias)

/-- The label that a table is declared by. -/
def Registry.declaredAs? (g : Registry) (r : RecordType) : Option String → Option TableLabel
  | some a => some (.named a)
  | none => ((g.tableOf r >>= g.abbreviation).map .abbreviation).toOption

/-- A table that is read is declared by the label that it is known by. -/
theorem tablePiece_label {f : Frame} {r : RecordType} {p : Piece} (h : f.tablePiece r = .ok p) :
    ∃ name label, p = .table name label ∧ f.registry.declaredAs? r none = some label := by
  obtain ⟨t, ht, h⟩ := bind_eq_ok h
  obtain ⟨name, -, h⟩ := bind_eq_ok h
  obtain ⟨n, hn, h⟩ := bind_eq_ok h
  cases h
  refine ⟨name, .abbreviation n, rfl, ?_⟩
  rw [Registry.declaredAs?, ht, ok_bind, hn]
  rfl

/-- The table of a join is declared by the label that it is known by. -/
theorem joinTable_label {f : Frame} {record : RecordType} {tableAlias : Option String} {p : Piece}
    (h : joinTable f record tableAlias = .ok p) :
    ∃ name label, p = .table name label ∧ f.registry.declaredAs? record tableAlias = some label := by
  cases tableAlias with
  | some a =>
    obtain ⟨t, -, h⟩ := bind_eq_ok h
    obtain ⟨name, -, h⟩ := bind_eq_ok h
    cases h
    exact ⟨name, .named a, rfl, rfl⟩
  -- without alias, a join declares its table as a source does
  | none => exact tablePiece_label h

/-- The labels that a select declares. -/
def Registry.labels (g : Registry) (s : Select) : List TableLabel :=
  s.tables.filterMap fun t => g.declaredAs? t.1 t.2

namespace Statement

/-- The label of the table that a statement writes to. -/
def targetLabel (dialect : Dialect) (g : Registry) (s : Statement) : Except Error TableLabel :=
  match s with
  | .delete d =>
    if dialect.deleteTakesAlias then (g.abbreviation d.record).map .abbreviation
    else (g.tableName d.record).map .named
  | _ => (g.abbreviation s.record).map .abbreviation

/-- What a statement declares around its selects: the table that it updates or deletes from. -/
def target (dialect : Dialect) (g : Registry) (s : Statement) : Surroundings :=
  match s with
  | .select _ => []
  | .insert _ => [[]]
  | .update _ | .delete _ => [(s.targetLabel dialect g).toOption.toList]

/-- The name under which columns of a target without alias are written. -/
def ownName (dialect : Dialect) (g : Registry) : Statement → List TableLabel
  | .delete d =>
    if dialect.deleteTakesAlias then [] else ((g.tableName d.record).map .named).toOption.toList
  | _ => []

/-- The pieces of a statement with the labels of the tables around them. A target without alias is known
by its own name. -/
def surroundings (dialect : Dialect) (g : Registry) (s : Statement) (ps : List Piece) :
    List (Piece × Surroundings) :=
  withSurroundings [s.ownName dialect g ++ declaredLabels 0 ps] ps

/-- What a statement is written in. -/
def frame (dialect : Dialect) (g : Registry) : Statement → Frame
  | .delete d =>
    { dialect := dialect, registry := g,
      unaliased := if dialect.deleteTakesAlias then none else some d.record }
  | _ => { dialect := dialect, registry := g }

@[simp] theorem frame_registry (dialect : Dialect) (g : Registry) (s : Statement) :
    (s.frame dialect g).registry = g := by
  cases s <;> rfl

theorem frame_delete_aliased {dialect : Dialect} {g : Registry} {d : Delete}
    (h : dialect.deleteTakesAlias = true) :
    (Statement.delete d).frame dialect g = { dialect := dialect, registry := g } := by
  rw [frame, if_pos h]

theorem frame_delete_unaliased {dialect : Dialect} {g : Registry} {d : Delete}
    (h : dialect.deleteTakesAlias = false) : (Statement.delete d).frame dialect g =
      { dialect := dialect, registry := g, unaliased := some d.record } := by
  rw [frame, if_neg (Bool.eq_false_iff.1 h)]

@[simp] theorem frame_selects (dialect : Dialect) (g : Registry) (s : Statement) :
    (s.frame dialect g).selects = [] := by
  cases s <;> rfl

end Statement

/-! ### Sites -/

/-- The expressions that an expression is put together of; a sub-select is none. -/
def Expr.operands : Expr → List Expr
  | .call _ args => args
  | .epoch e | .not e => [e]
  | .binary _ l r => [l, r]
  | .junction _ operands => operands
  | .column _ | .literal _ | .value _ | .isNull _ | .inList .. | .exists _ | .fullText .. => []

/-- The field that an expression refers to itself. -/
def Expr.reference? : Expr → Option FieldRef
  | .column c | .isNull c | .inList c _ => some c
  | _ => none

/-- The expressions in the clauses of a select that is no restriction. -/
def Select.clauses (s : Select) : List Expr :=
  s.joins.map (·.condition) ++ s.groupBy.getD [] ++ (s.orderBy.getD []).map (·.expr)

theorem Select.join_mem_clauses {s : Select} {j : Join} (h : j ∈ s.joins) : j.condition ∈ s.clauses :=
  List.mem_append_left _ (List.mem_append_left _ (List.mem_map_of_mem h))

theorem Select.group_mem_clauses {s : Select} {es : List Expr} {e : Expr} (hs : s.groupBy = some es)
    (h : e ∈ es) : e ∈ s.clauses := by
  refine List.mem_append_left _ (List.mem_append_right _ ?_)
  rw [hs]
  exact h

theorem Select.order_mem_clauses {s : Select} {ts : List OrderTerm} {t : OrderTerm}
    (hs : s.orderBy = some ts) (h : t ∈ ts) : t.expr ∈ s.clauses := by
  refine List.mem_append_right _ (List.mem_map_of_mem ?_)
  rw [hs]
  exact h

/-- Something to write. -/
inductive Item
  | statement (s : Statement)
  | select (s : Select)
  | condition (c : Condition)
  | expr (e : Expr)
  | reference (use : ColumnUse) (c : FieldRef)

/-- Something to write, and the selects around it, the innermost first. -/
structure Site where
  around : List Select
  item : Item

/-- What stands inside of some selects is written in. -/
def Frame.within (f : Frame) (around : List Select) : Frame :=
  around.foldr (fun s f => f.enter s) f

theorem Frame.within_eq (f : Frame) (around : List Select) :
    f.within around =
      { f with selects := around.map (fun s => (s.record, s.definitions)) ++ f.selects } := by
  induction around with
  | nil => rfl
  | cons s around ih =>
    show (f.within around).enter s = _
    rw [ih]
    rfl

@[simp] theorem Frame.within_registry (f : Frame) (around : List Select) :
    (f.within around).registry = f.registry := by
  rw [within_eq]

theorem Frame.label_within (f : Frame) (around : List Select) (t : RecordType) :
    (f.within around).label t = f.label t := by
  rw [within_eq]
  rfl

/-- What writing something leads to next. -/
inductive Frame.Leads (f : Frame) : Site → Site → Prop
  | select {around s} : Leads f ⟨around, .statement (.select s)⟩ ⟨s :: around, .select s⟩
  | assignment {around u a} : a ∈ u.assignments →
      Leads f ⟨around, .statement (.update u)⟩ ⟨around, .expr a.2⟩
  | update {around u c} : u.condition = some c →
      Leads f ⟨around, .statement (.update u)⟩ ⟨around, .condition c⟩
  | delete {around d} : Leads f ⟨around, .statement (.delete d)⟩ ⟨around, .condition d.condition⟩
  | projection {around s name} : name ∈ f.registry.projected s.record s.fields →
      Leads f ⟨around, .select s⟩ ⟨around, .reference .projection (.of s.record name)⟩
  | restriction {around s c} : s.condition = some c →
      Leads f ⟨around, .select s⟩ ⟨around, .condition c⟩
  | clause {around s e} : e ∈ s.clauses → Leads f ⟨around, .select s⟩ ⟨around, .expr e⟩
  | condition {around e} : Leads f ⟨around, .condition (.expr e)⟩ ⟨around, .expr e⟩
  | key {around k name} : name ∈ f.registry.keyFields k.record →
      Leads f ⟨around, .condition (.key k)⟩ ⟨around, .reference .key (.of k.record name)⟩
  | multiKey {around k name} : name ∈ f.registry.keyFields k.record →
      Leads f ⟨around, .condition (.multiKey k)⟩ ⟨around, .reference .key (.of k.record name)⟩
  | operand {around e a} : a ∈ e.operands → Leads f ⟨around, .expr e⟩ ⟨around, .expr a⟩
  | reference {around e c} : e.reference? = some c →
      Leads f ⟨around, .expr e⟩ ⟨around, .reference .plain c⟩
  | subSelect {around s} : Leads f ⟨around, .expr (.exists s)⟩ ⟨s :: around, .select s⟩
  | definition {around use c d} : (f.within around).applied? use c = some d →
      Leads f ⟨around, .reference use c⟩ ⟨around, .expr d.expr⟩

/-- All that the writing of a statement comes by. -/
inductive Statement.Reaches (s : Statement) (f : Frame) : Site → Prop
  | start : Reaches s f ⟨[], .statement s⟩
  | step {p q} : Reaches s f p → f.Leads p q → Reaches s f q

/-- The labels of the tables around a site. -/
def Site.surroundings (g : Registry) (target : Surroundings) (p : Site) : Surroundings :=
  p.around.map g.labels ++ target

/-- The columns that are written at a site: the one that a reference stands for, and those of a full-text
match. -/
inductive Frame.Writes (f : Frame) : Site → TableLabel → String → Prop
  | reference {around use c label name} :
      (f.within around).resolve use c = .ok (.column label name) →
      Writes f ⟨around, .reference use c⟩ label name
  | fullText {around record index query t label name} : f.registry.tableOf record = .ok t →
      f.label t = .ok label → Writes f ⟨around, .expr (.fullText record index query)⟩ label name

/-! ### Definitions around a site -/

/-- A definition that stands for a reference is one of a select around it. -/
theorem Frame.applied?_within {f : Frame} {around : List Select} {use : ColumnUse} {c : FieldRef}
    {d : Definition} (hf : f.selects = []) (h : (f.within around).applied? use c = some d) :
    ∃ s ∈ around, c.record = some s.record ∧ d ∈ s.definitions ∧ d.field = c.field := by
  obtain ⟨p, hp, hr, hd, hfield⟩ := mem_of_applied? h
  rw [within_eq, hf, List.append_nil] at hp
  obtain ⟨s, hs, rfl⟩ := List.mem_map.1 hp
  exact ⟨s, hs, hr, hd, hfield⟩

end RecordSql
