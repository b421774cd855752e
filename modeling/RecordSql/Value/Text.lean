import RecordSql.Json.Writer
import RecordSql.Text.Quoted
import RecordSql.Value

/-!
# Values in log output

- `Value.debug`: a value with its kind, for readers of a log.
- `Value.document`: the JSON payload of a value.
-/

namespace RecordSql

open RecordSql.Decimal RecordSql.Json RecordSql.Text

mutual

/-- A document with the kinds of its parts. -/
def documentDebug : Document → String
  | .null => "Null"
  | .bool b => "Bool(" ++ toString b ++ ")"
  | .number n => "Number(" ++ n.text ++ ")"
  | .string s => "String(" ++ debugQuoted s ++ ")"
  | .array items => "Array [" ++ documentItems items ++ "]"
  | .object members => "Object \x7b" ++ documentMembers members ++ "\x7d"

/-- The items of an array, separated by commas. -/
def documentItems : List Document → String
  | [] => ""
  | [d] => documentDebug d
  | d :: rest => documentDebug d ++ ", " ++ documentItems rest

/-- The members of an object, separated by commas. -/
def documentMembers : List (String × Document) → String
  | [] => ""
  | [(k, d)] => debugQuoted k ++ ": " ++ documentDebug d
  | (k, d) :: rest =>
    debugQuoted k ++ ": " ++ documentDebug d ++ ", " ++ documentMembers rest

end

/-- A value with its kind. -/
def Value.debug : Value → String
  | .null => "Null"
  | .bool b => "Bool(" ++ toString b ++ ")"
  | .integer n => "Integer(" ++ toString n.toInt ++ ")"
  | .float x => "Float(" ++ debugLayout.write x ++ ")"
  | .string s => "String(" ++ debugQuoted s ++ ")"
  | .bytes bs => "Bytes([" ++ ", ".intercalate (bs.map fun b => toString b.toNat) ++ "])"
  | .date d => "Date(" ++ d.text ++ ")"
  | .timestamp t => "Timestamp(" ++ t.text ++ ")"
  | .json d => "Json(" ++ documentDebug d ++ ")"

/-- The payload of a value as a document: bytes as a list of numbers, dates and timestamps as text. -/
def Value.document : Value → Document
  | .null => .null
  | .bool b => .bool b
  | .integer n => .number (.integer n.toInt)
  | .float x => .number (.float x)
  | .string s => .string s
  | .bytes bs => .array (bs.map fun b => .ofNat b.toNat)
  | .date d => .string d.text
  | .timestamp t => .string t.text
  | .json d => d

end RecordSql
