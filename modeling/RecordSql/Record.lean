/-!
# Record types

A record type is named by its full path; error texts show it without the path of its module.

- `RecordType.name`: the shown name.
-/

namespace RecordSql

/-- A type of records, identified by its full path. -/
structure RecordType where
  path : String
  deriving DecidableEq, Repr, Inhabited

/-- The last segment of a path together with its type arguments. `segment` is the text from the last
separator met so far; separators inside of type arguments do not count. -/
def lastSegment (segment : List Char) : List Char → List Char
  | [] => segment
  | '<' :: _ => segment
  | ':' :: ':' :: rest => lastSegment rest rest
  | _ :: rest => lastSegment segment rest

/-- The name without the module path, type arguments kept whole. -/
def RecordType.name (r : RecordType) : String :=
  String.ofList (lastSegment r.path.toList r.path.toList)

/-- The name between backticks, as error texts show it. -/
def RecordType.ticked (r : RecordType) : String :=
  "`" ++ r.name ++ "`"

end RecordSql
