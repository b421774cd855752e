import RecordSql.Generate.Marker
import RecordSql.Text.Words

/-!
# Generated text

Each text here consists of whole lines behind an indentation.

- `DeclaredField`: a field as its record declares it.
- `fieldMembers`, `keyMembers`: what stands between the markers of a region.
- `regionText`: a region with its markers.
- `implementationText`: both regions in an implementation of their own.
-/

namespace RecordSql.Generate

open RecordSql.Text

/-- A persistent field as it is declared. The type is text with single blanks. -/
structure DeclaredField where
  name : String
  type : String
  id : Bool
  deriving DecidableEq, Repr

/-- One level of indentation. -/
def indentUnit : String := "    "

/-- One level deeper. -/
def nested (indent : String) : String := indent ++ indentUnit

/-- The constant that holds the name of a field. -/
def constantOf (field : String) : String := shoutyCase field

/-- The declaration of the constant that holds the name of a field. -/
def nameConstant (indent field : String) : String :=
  indent ++ "pub const " ++ constantOf field ++ ": &'static str = \"" ++ field ++ "\";\n"

/-- The function that gives the column of a field. -/
def columnFunction (indent field : String) : String :=
  indent ++ "pub fn " ++ field ++ "_c() -> ::depot::ColumnExp \x7b\n" ++
    nested indent ++ "::depot::ColumnExp::new::<Self>(Self::" ++ constantOf field ++ ")\n" ++
    indent ++ "\x7d\n"

/-- A parameter of the constructor of keys. -/
def keyParameter (f : DeclaredField) : String := f.name ++ ": " ++ f.type

/-- The part of a key that a parameter gives. -/
def keyValue (f : DeclaredField) : String :=
  "(Self::" ++ constantOf f.name ++ ", ::depot::Value::from(" ++ f.name ++ "))"

/-- The constructor of keys from the values of some fields. -/
def keyConstructor (indent : String) (ids : List DeclaredField) : String :=
  indent ++ "pub fn get_key(" ++ ", ".intercalate (ids.map keyParameter) ++
    ") -> ::depot::Key \x7b\n" ++
    nested indent ++ "::depot::Key::new::<Self>(vec![" ++ ", ".intercalate (ids.map keyValue) ++
    "])\n" ++ indent ++ "\x7d\n"

/-- The constants of all fields, then the columns, each behind an empty line. -/
def fieldMembers (indent : String) (fields : List DeclaredField) : String :=
  "".intercalate (fields.map fun f => nameConstant indent f.name) ++
    "".intercalate (fields.map fun f => "\n" ++ columnFunction indent f.name)

/-- The constructor of keys from the key fields, in the order of their declaration; nothing if there are
none. -/
def keyMembers (indent : String) (fields : List DeclaredField) : String :=
  let ids := fields.filter DeclaredField.id
  if ids.isEmpty then "" else keyConstructor indent ids

/-- What stands between the markers of a region. -/
def Region.body (r : Region) (indent : String) (fields : List DeclaredField) : String :=
  match r with
  | .fields => fieldMembers indent fields
  | .methods => keyMembers indent fields

/-- A region with its markers. -/
def regionText (r : Region) (indent : String) (fields : List DeclaredField) : String :=
  indent ++ r.marker .start ++ "\n" ++ r.body indent fields ++ indent ++ r.marker .stop ++ "\n"

/-- An implementation that holds both regions; no line end follows it. -/
def implementationText (record : String) (fields : List DeclaredField) : String :=
  "impl " ++ record ++ " \x7b\n" ++ regionText .fields indentUnit fields ++ "\n" ++
    regionText .methods indentUnit fields ++ "\x7d"

end RecordSql.Generate
