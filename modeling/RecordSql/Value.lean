import RecordSql.Calendar
import RecordSql.Json.Document

/-!
# Bound values

A statement carries its values beside its text, each one standing for a placeholder.

- `Value`: the kinds of bound values.
- `Value.ofDocument`: the value that a plain document stands for.
-/

namespace RecordSql

open RecordSql.Calendar RecordSql.Decimal RecordSql.Json

/-- A value bound to a placeholder. -/
inductive Value
  | null
  | bool (b : Bool)
  | integer (n : Int64)
  | float (x : Binary64)
  | string (s : String)
  | bytes (bs : List UInt8)
  | date (d : Date)
  | timestamp (t : Timestamp)
  | json (d : Document)

namespace Value

/-- Whether this is the null value. -/
def isNull : Value → Bool
  | .null => true
  | _ => false

/-- The name of a value's kind. -/
def kind : Value → String
  | .null => "null"
  | .bool _ => "bool"
  | .integer _ => "integer"
  | .float _ => "float"
  | .string _ => "string"
  | .bytes _ => "bytes"
  | .date _ => "date"
  | .timestamp _ => "timestamp"
  | .json _ => "json"

/-- A whole number that a signed 64-bit integer holds. -/
def ofInt? (n : Int) : Option Value :=
  if -(twoTo 63) ≤ n ∧ n < twoTo 63 then some (.integer (Int64.ofInt n)) else none

/-- A whole number as an integer if it fits, else as the nearest binary word. -/
def ofInt (n : Int) : Value :=
  (ofInt? n).getD (.float (Binary64.ofDecimal (n < 0) n.natAbs 0))

/-- The value that a plain document stands for: scalars by their kind, lists and objects as they are. -/
def ofDocument : Document → Value
  | .null => .null
  | .bool b => .bool b
  | .number (.integer n) => .ofInt n
  | .number (.float x) => .float x
  | .string s => .string s
  | d => .json d

end Value

/-- The values bound so far, in the order of their placeholders. -/
abbrev Parameters := List Value

namespace Parameters

/-- Binds one more value. -/
def push (ps : Parameters) (v : Value) : Parameters :=
  ps ++ [v]

/-- The number of a placeholder written after these. -/
def nextPosition (ps : Parameters) : Nat :=
  ps.length + 1

end Parameters

end RecordSql
