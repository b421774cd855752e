import RecordSql.Expression

/-!
# Statements

- `Statement`: selects, inserts, updates and deletes.
- `SelectClause`, `Select.ofClauses`: a select from its clauses in any order.
- `Insert.ofInstance`, `Update.ofInstance`: writes of the current values of a record.
-/

namespace RecordSql

/-- An insert of one row. -/
structure Insert where
  record : RecordType
  values : FieldValues
  identityFields : List String := []

/-- An update of one table. -/
structure Update where
  record : RecordType
  assignments : List (String × Expr) := []
  condition : Option Condition := none

/-- A delete from one table. -/
structure Delete where
  record : RecordType
  condition : Condition

/-- A statement. -/
inductive Statement
  | select (s : Select)
  | insert (i : Insert)
  | update (u : Update)
  | delete (d : Delete)

/-- An insert of a record's values. -/
def Insert.ofInstance (i : Instance) : Insert :=
  { record := i.record, values := i.values }

/-- An update of the named fields to a record's values, in the order of the record. -/
def Update.ofInstance (i : Instance) (fields : List String) : Update :=
  { record := i.record
    assignments := (i.values.filter fun p => fields.contains p.1).map fun p => (p.1, .value p.2) }

namespace Statement

/-- The kind of a statement. -/
def kind : Statement → StatementKind
  | .select _ => .select
  | .insert _ => .insert
  | .update _ => .update
  | .delete _ => .delete

/-- The record that a statement reads or writes. -/
def record : Statement → RecordType
  | .select s => s.record
  | .insert i => i.record
  | .update u => u.record
  | .delete d => d.record

/-- The records that a statement refers to, in the order of their mention. -/
def records : Statement → List RecordType
  | .select s => s.records
  | .insert i => [i.record]
  | .update u =>
    u.record :: u.assignments.flatMap (fun a => a.2.records) ++
      (match u.condition with
        | some c => c.records
        | none => [])
  | .delete d => d.record :: d.condition.records

end Statement

/-! ### Selects from clauses -/

/-- A clause of a select. -/
inductive SelectClause
  | condition (c : Condition)
  | sources (records : List RecordType)
  | join (j : Join)
  | groupBy (terms : List Expr)
  | orderBy (terms : List OrderTerm)
  | limit (l : Limit)
  | forUpdate
  | definition (d : Definition)

namespace SelectClause

/-- The clauses that a select has at most once. -/
def single? : SelectClause → Option SingleClause
  | .condition _ => some .condition
  | .sources _ => some .source
  | .groupBy _ => some .groupBy
  | .orderBy _ => some .orderBy
  | .limit _ => some .limit
  | .forUpdate => some .forUpdate
  | .join _ | .definition _ => none

/-- A value for a clause that has none yet. -/
def atMostOnce {α : Type} (slot : Option α) (value : α) (clause : SingleClause) :
    Except Error (Option α) :=
  if slot.isSome then .error (.duplicateClause clause) else .ok (some value)

end SelectClause

namespace Select

/-- A select with one more clause; joins and definitions add up, any other may come only once. -/
def addClause (s : Select) : SelectClause → Except Error Select
  | .condition c => do
    return { s with condition := ← SelectClause.atMostOnce s.condition c .condition }
  | .sources rs => do
    return { s with sources := ← SelectClause.atMostOnce s.sources rs .source }
  | .groupBy ts => do
    return { s with groupBy := ← SelectClause.atMostOnce s.groupBy ts .groupBy }
  | .orderBy ts => do
    return { s with orderBy := ← SelectClause.atMostOnce s.orderBy ts .orderBy }
  | .limit l => do
    return { s with limit := ← SelectClause.atMostOnce s.limit l .limit }
  | .forUpdate =>
    if s.forUpdate then .error (.duplicateClause .forUpdate) else .ok { s with forUpdate := true }
  | .join j => .ok { s with joins := s.joins ++ [j] }
  | .definition d => .ok { s with definitions := s.definitions ++ [d] }

/-- The select with the given clauses, in any order. -/
def ofClauses (record : RecordType) (fields : List String) (clauses : List SelectClause) :
    Except Error Select :=
  clauses.foldlM addClause { record := record, fields := fields }

end Select

end RecordSql
