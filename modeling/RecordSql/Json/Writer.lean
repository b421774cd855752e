import RecordSql.Json.Document
import RecordSql.Text.Numeral

/-!
# Written documents

- `Document.compact`: JSON text without blanks; characters beyond ASCII stand for themselves.
-/

namespace RecordSql.Json

open RecordSql.Decimal RecordSql.Text

/-- A hexadecimal digit in lower case. -/
def hexDigit (n : Nat) : Char :=
  Nat.digitChar n

/-- One character inside of a JSON string. -/
def escapeChar (c : Char) : List Char :=
  if c = '"' then ['\\', '"']
  else if c = '\\' then ['\\', '\\']
  else if c = '\n' then ['\\', 'n']
  else if c = '\r' then ['\\', 'r']
  else if c = '\t' then ['\\', 't']
  else if c = '\x08' then ['\\', 'b']
  else if c = '\x0c' then ['\\', 'f']
  else if c.val < 0x20 then
    ['\\', 'u', '0', '0', hexDigit (c.toNat / 16), hexDigit (c.toNat % 16)]
  else [c]

/-- A JSON string with its quotes. -/
def quoted (s : String) : String :=
  "\"" ++ String.ofList (s.toList.flatMap escapeChar) ++ "\""

/-- A number as documents write it. -/
def Number.text : Number → String
  | .integer n => toString n
  | .float x => if x.isFinite then documentLayout.write x else "null"

mutual

/-- JSON text without blanks. -/
def Document.compact : Document → String
  | .null => "null"
  | .bool b => if b then "true" else "false"
  | .number n => n.text
  | .string s => quoted s
  | .array items => "[" ++ compactItems items ++ "]"
  | .object members => "\x7b" ++ compactMembers members ++ "\x7d"

/-- The items of an array, separated by commas. -/
def compactItems : List Document → String
  | [] => ""
  | [d] => d.compact
  | d :: rest => d.compact ++ "," ++ compactItems rest

/-- The members of an object, separated by commas. -/
def compactMembers : List (String × Document) → String
  | [] => ""
  | [(k, d)] => quoted k ++ ":" ++ d.compact
  | (k, d) :: rest => quoted k ++ ":" ++ d.compact ++ "," ++ compactMembers rest

end

end RecordSql.Json
