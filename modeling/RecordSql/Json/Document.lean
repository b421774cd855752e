import RecordSql.Decimal.Notation

/-!
# JSON documents

- `Document`: null, truth values, numbers, strings, arrays, and objects whose keys ascend.
- `Document.ofMembers`: the object with the given members, the last value of a repeated key.
- `Document.member?`: look-up of a key.
-/

namespace RecordSql.Json

open RecordSql.Decimal

/-- Whole numbers keep their exact value; all other numbers are binary words. -/
inductive Number
  | integer (n : Int)
  | float (x : Binary64)
  deriving DecidableEq

/-- A JSON document. -/
inductive Document
  | null
  | bool (b : Bool)
  | number (n : Number)
  | string (s : String)
  | array (items : List Document)
  | object (members : List (String × Document))

/-- Members of an object with one added at the place of its key, over an earlier value. -/
def insertMember (key : String) (value : Document) :
    List (String × Document) → List (String × Document)
  | [] => [(key, value)]
  | (k, v) :: rest =>
    if key < k then (key, value) :: (k, v) :: rest
    else if key = k then (key, value) :: rest
    else (k, v) :: insertMember key value rest

namespace Document

/-- The object with the given members, in the order of their keys. -/
def ofMembers (members : List (String × Document)) : Document :=
  .object (members.foldl (fun sorted m => insertMember m.1 m.2 sorted) [])

/-- The value of a key of an object. A null member counts as absent. -/
def member? (key : String) : Document → Option Document
  | .object members =>
    match members.lookup key with
    | some .null => none
    | found => found
  | _ => none

/-- The document of a natural number. -/
def ofNat (n : Nat) : Document :=
  .number (.integer n)

/-- The string or null. -/
def ofString? : Option String → Document
  | some s => .string s
  | none => .null

end Document

end RecordSql.Json
