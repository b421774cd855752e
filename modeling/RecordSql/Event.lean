import RecordSql.Dialect
import RecordSql.Place
import RecordSql.Json.Document

/-!
# Log events

What the program tells its log, in order.

- `Event`: the events with their data.
- `Event.level`, `Event.message`, `Event.fields`: how an event is reported.
-/

namespace RecordSql

open RecordSql.Json

/-- The levels of events. -/
inductive EventLevel
  | debug
  | info
  | warn
  deriving DecidableEq, Repr

/-- The name of a level. -/
def EventLevel.name : EventLevel → String
  | .debug => "debug"
  | .info => "info"
  | .warn => "warn"

/-- An event. -/
inductive Event
  | schemaPublished (record : RecordType)
  | statementCompiled (kind : StatementKind) (record : RecordType) (dialect : Dialect)
      (parameters : Nat) (sql : String)
  | executingBriefly (sql : String)
  | executing (kind : String) (sql : String) (parameters : Nat)
  | parameter (index : Nat) (kind value : String)
  | parametersAsJson (text : String)
  | finished (success : Bool)
  | executionError (context error : String)
  deriving DecidableEq, Repr

namespace Event

/-- The level of an event. -/
def level : Event → EventLevel
  | .schemaPublished _ | .statementCompiled .. | .parametersAsJson _ => .debug
  | .executingBriefly _ | .executing .. | .parameter .. | .finished _ => .info
  | .executionError .. => .warn

/-- The message of an event. -/
def message : Event → String
  | .schemaPublished _ => "published record schema"
  | .statementCompiled .. => "compiled statement"
  | .executingBriefly _ | .executing .. => "depot: executing"
  | .parameter .. => "depot: param"
  | .parametersAsJson _ => "depot: params as json"
  | .finished true => "depot: execution completed"
  | .finished false => "depot: execution failed"
  | .executionError .. => "depot: execution error"

/-- The named data of an event. -/
def fields : Event → List (String × Document)
  | .schemaPublished r => [("record", .string r.name)]
  | .statementCompiled kind r dialect n sql =>
    [("kind", .string kind.text), ("record", .string r.name), ("dialect", .string dialect.name),
      ("params", .ofNat n), ("sql", .string sql)]
  | .executingBriefly sql => [("sql", .string sql)]
  | .executing kind sql n =>
    [("kind", .string kind), ("sql", .string sql), ("params", .ofNat n)]
  | .parameter index kind value =>
    [("index", .ofNat index), ("kind", .string kind), ("value", .string value)]
  | .parametersAsJson text => [("params", .string text)]
  | .finished _ => []
  | .executionError context error => [("context", .string context), ("error", .string error)]

end Event

end RecordSql
