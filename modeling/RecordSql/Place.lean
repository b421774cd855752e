import RecordSql.Record

/-!
# Places in statements

Error texts say where in a statement a reference stands.

- `StatementKind`: the four kinds of statements.
- `Target`: the statement or sub-select a place belongs to.
- `Place`: the clause of it.
-/

namespace RecordSql

/-- The kinds of statements. -/
inductive StatementKind
  | select
  | insert
  | update
  | delete
  deriving DecidableEq, Repr

/-- The keyword of a kind. -/
def StatementKind.text : StatementKind → String
  | .select => "select"
  | .insert => "insert"
  | .update => "update"
  | .delete => "delete"

/-- A statement, or a sub-select, by the record it reads or writes. -/
inductive Target
  | select (record : RecordType)
  | update (record : RecordType)
  | delete (record : RecordType)
  deriving DecidableEq, Repr

/-- How error texts name a statement. -/
def Target.text : Target → String
  | .select r => "select on " ++ r.ticked
  | .update r => "update of " ++ r.ticked
  | .delete r => "delete from " ++ r.ticked

/-- A clause of a statement. -/
inductive Place
  | whole (target : Target)
  | join (record : RecordType) (target : Target)
  | definition (field : String) (target : Target)
  | assignment (field : String) (target : Target)
  | condition (target : Target)
  | groupBy (target : Target)
  | orderBy (target : Target)
  deriving DecidableEq, Repr

/-- How error texts name a clause. -/
def Place.text : Place → String
  | .whole t => t.text
  | .join r t => "join on " ++ r.ticked ++ " in " ++ t.text
  | .definition f t => "definition of `" ++ f ++ "` in " ++ t.text
  | .assignment f t => "assignment to `" ++ f ++ "` in " ++ t.text
  | .condition t => "where clause of " ++ t.text
  | .groupBy t => "group by of " ++ t.text
  | .orderBy t => "order by of " ++ t.text

end RecordSql
