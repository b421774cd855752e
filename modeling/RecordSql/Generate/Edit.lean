import RecordSql.Text.Bytes

/-!
# Edits of a text

- `Edit`: the replacement of the text between two offsets.
- `Edit.replaceIn?`: one replacement.
- `applyEdits?`: several replacements, each by its offsets in the text as it was.
-/

namespace RecordSql.Generate

open RecordSql.Text

/-- The replacement of the text between two offsets, which count bytes. -/
structure Edit where
  start : Nat
  stop : Nat
  text : List Char
  deriving DecidableEq, Repr

namespace Edit

/-- The insertion of a text. -/
def insert (offset : Nat) (text : List Char) : Edit := ⟨offset, offset, text⟩

/-- A text with one replacement; nothing if an offset cuts a character or lies past the end. -/
def replaceIn? (e : Edit) (text : List Char) : Option (List Char) :=
  if e.start ≤ e.stop then
    match splitAtByte? e.start text, splitAtByte? e.stop text with
    | some (front, _), some (_, back) => some (front ++ e.text ++ back)
    | _, _ => none
  else none

end Edit

/-- Puts an edit in front of all that do not start behind it. -/
def insertEdit (e : Edit) : List Edit → List Edit
  | [] => [e]
  | d :: ds => if d.start ≤ e.start then e :: d :: ds else d :: insertEdit e ds

/-- Edits from the last start to the first; of those with one start the later ones come first. -/
def backToFront (edits : List Edit) : List Edit :=
  edits.foldl (fun sorted e => insertEdit e sorted) []

/-- A text with replacements one after the other. -/
def replaceAll? : List Edit → List Char → Option (List Char)
  | [], text => some text
  | e :: es, text => (e.replaceIn? text).bind (replaceAll? es)

/-- A text with all edits. They are done from back to front, so that no edit moves the offsets of the
next one, and insertions at one offset end up in the given order. Nothing results if edits that overlap
leave an offset outside the text or within a character. -/
def applyEdits? (edits : List Edit) (text : List Char) : Option (List Char) :=
  replaceAll? (backToFront edits) text

end RecordSql.Generate
