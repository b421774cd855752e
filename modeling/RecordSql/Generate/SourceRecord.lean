import RecordSql.Generate.Snippet
import RecordSql.Source.File
import RecordSql.Source.Meta

/-!
# Records in a source file

- `SourceRecord`: a record with its fields and the places where text can be generated for it.
- `sourceRecords?`: the records of a source file, also those in modules inside it.
-/

namespace RecordSql.Generate

open RecordSql.Source RecordSql.Text

/-- The offsets of the braces around the body of an implementation. -/
structure Body where
  opening : Nat
  closing : Nat
  deriving DecidableEq, Repr

/-- A record: its fields, the offset behind its closing brace, and the bodies of what is implemented for
it alone in the same module. -/
structure SourceRecord where
  name : String
  fields : List DeclaredField
  stop : Nat
  bodies : List Body
  deriving DecidableEq, Repr

/-! ### Attributes -/

/-- What a data type derives if it is a record. -/
def recordTrait : String := "PersistentRecord"

/-- The attribute that says what a record or a field is. -/
def recordAttribute : String := "depot"

/-- Whether the trait of records is among the entries of a list, up to the first fault in it. -/
def namesTrait : Nat → List Tree → Bool
  | 0, _ => false
  | n + 1, ts =>
    match ListReader.path.run ts with
    | .error _ => false
    | .ok (path, rest) =>
      (path.segments.getLast?.any fun i => i.isWord recordTrait) ||
        match dropOp? [','] rest with
        | some more => namesTrait n more
        | none => false

/-- Whether attributes make a data type a record. -/
def isRecord (attributes : List Attribute) : Bool :=
  attributes.any fun a =>
    a.path.isWord "derive" &&
      match a.input with
      | .list _ tokens => namesTrait (tokens.length + 1) tokens
      | _ => false

/-- Whether a word stands in the list of an attribute, not counting lists inside it. -/
def hasFlag (w : String) (attributes : List Attribute) : Bool :=
  attributes.any fun a =>
    a.path.isWord recordAttribute &&
      match a.input with
      | .list _ tokens => tokens.any fun t => atWord w [t]
      | _ => false

/-! ### Records -/

/-- Words with single blanks between them. `gap` says that blanks have been read since the last word. -/
def joinWords : Bool → List Char → List Char
  | _, [] => []
  | gap, c :: cs =>
    if isBlank c then joinWords true cs
    else (if gap then [' ', c] else [c]) ++ joinWords false cs

/-- A text without blanks in front and behind, and with single blanks in place of all others. -/
def collapseBlanks (cs : List Char) : List Char := joinWords false (trimLeft cs)

/-- The text between two positions. -/
def textAt (l : Lines) (s : Span) : List Char :=
  let start := l.offset s.start
  let stop := l.offset s.stop
  l.slice start stop

/-- A field of a record; one that is transient is none. -/
def declaredField? (l : Lines) (f : Field) : Option DeclaredField :=
  if hasFlag "transient" f.attributes then none
  else some {
    name := f.name.name
    type := String.ofList (collapseBlanks (textAt l f.typeSpan))
    id := hasFlag "id" f.attributes }

/-- The body of an implementation for a type alone. -/
def bodyOf? (l : Lines) (name : String) : Item → Option Body
  | .implementation i =>
    if !i.ofTrait && i.subject.isWord name then
      let closing : Position := ⟨i.body.stop.line, i.body.stop.column - 1⟩
      some ⟨l.offset i.body.start, l.offset closing⟩
    else none
  | _ => none

/-- The record that a data type is, given the items beside it. -/
def sourceRecord? (l : Lines) (siblings : List Item) (d : DataItem) : Option SourceRecord :=
  if isRecord d.attributes then
    match d.shape with
    | .named fields stop => some {
        name := d.name.name
        fields := fields.filterMap (declaredField? l)
        stop := l.offset stop
        bodies := siblings.filterMap (bodyOf? l d.name.name) }
    | _ => none
  else none

mutual

/-- The records that an item is or holds, given the items beside it. -/
def recordsOfItem (l : Lines) (siblings : List Item) : Item → List SourceRecord
  | .data d => (sourceRecord? l siblings d).toList
  | .module content => recordsOfItems l content content
  | _ => []

/-- The records of some items, given all items beside them. -/
def recordsOfItems (l : Lines) (siblings : List Item) : List Item → List SourceRecord
  | [] => []
  | i :: is => recordsOfItem l siblings i ++ recordsOfItems l siblings is

end

/-- The records of a source file; nothing if it is malformed. -/
def sourceRecords? (l : Lines) : Option (List SourceRecord) :=
  (parseItems? l.text).map fun items => recordsOfItems l items items

end RecordSql.Generate
