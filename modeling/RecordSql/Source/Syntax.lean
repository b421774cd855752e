import RecordSql.Source.Token

/-!
# Declarations

What is kept of a source file: its data types with their fields and attributes, and where the bodies of
their implementations stand. Everything else is only checked for its form.

- `Attribute`, `Ty`, `Field`: the parts of a data type.
- `DataItem`, `Implementation`, `Item`: the items of a file or a module.
-/

namespace RecordSql.Source

/-- A path without arguments. -/
structure PlainPath where
  leading : Bool
  segments : List Ident
  deriving DecidableEq, Repr, Inhabited

namespace PlainPath

/-- Whether a path is a single word. -/
def isWord (p : PlainPath) (w : String) : Bool :=
  match p.segments with
  | [i] => !p.leading && i.isWord w
  | _ => false

/-- A path as it is written. -/
def text (p : PlainPath) : String :=
  (if p.leading then "::" else "") ++ "::".intercalate (p.segments.map Ident.text)

end PlainPath

/-- What follows the path of an attribute. -/
inductive AttributeInput
  | absent
  | list (delimiter : Delimiter) (tokens : List Tree)
  | value
  deriving Repr, Inhabited

/-- An attribute in front of what it belongs to. -/
structure Attribute where
  path : PlainPath
  input : AttributeInput
  deriving Repr, Inhabited

/-- A type. A path has segments, each with the types among its arguments if it has any in angle
brackets; a qualified one begins with a type in angle brackets. Any other type is kept as written. -/
inductive Ty
  | path (qualified leading : Bool) (segments : List (Ident × Option (List Ty)))
  | other (tokens : List Tree)
  deriving Inhabited

/-- Whether a type is a single word. -/
def Ty.isWord (t : Ty) (w : String) : Bool :=
  match t with
  | .path false false [(i, none)] => i.isWord w
  | _ => false

/-- A named field, with the place of its type. -/
structure Field where
  attributes : List Attribute
  name : Ident
  type : Ty
  typeSpan : Span
  deriving Inhabited

/-- The form of a data type; named fields end at a closing brace. -/
inductive Shape
  | named (fields : List Field) (stop : Position)
  | unnamed
  | enumeration
  | union
  deriving Inhabited

/-- A data type. -/
structure DataItem where
  attributes : List Attribute
  name : Ident
  shape : Shape
  deriving Inhabited

/-- An implementation of a type, of a trait or inherent, with the place of its braces. -/
structure Implementation where
  ofTrait : Bool
  subject : Ty
  body : Span
  deriving Inhabited

/-- An item of a file or a module. -/
inductive Item
  | data (item : DataItem)
  | module (content : List Item)
  | implementation (item : Implementation)
  | other
  deriving Inhabited

end RecordSql.Source
