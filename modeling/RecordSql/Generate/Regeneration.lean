import RecordSql.Generate.Edit
import RecordSql.Generate.SourceRecord

/-!
# Generated regions of a source file

- `editsOf`: what has to be replaced and inserted for one record.
- `updateRegions`: a text with the regions of its records brought up to date.
- `regenerated?`: the same for a whole file, or nothing if there is nothing to change.
-/

namespace RecordSql.Generate

open RecordSql.Source RecordSql.Text

/-- Why nothing can be generated for a text: it is malformed, a marker lacks its counterpart, or regions
overlap so that one is gone before it is replaced. -/
inductive Fault
  | malformed
  | unbalanced (i : Imbalance)
  | overlapping
  deriving DecidableEq, Repr

/-- Wording of a fault. -/
def Fault.message : Fault → String
  | .malformed => "failed to parse source"
  | .unbalanced i => i.message
  | .overlapping => "generated regions overlap"

/-! ### Edits of a record -/

/-- The lines between the braces of a body: the first one, and the one after the last. -/
def innerLines (l : Lines) (b : Body) : Nat × Nat :=
  (l.lineOf b.opening + 1, l.lineOf b.closing)

/-- The region of a kind in a body. -/
def regionIn? (l : Lines) (b : Body) (r : Region) : Option MarkedLines :=
  let (first, stop) := innerLines l b
  firstPair? l r first stop

/-- The body that holds the regions of a record: the first one that holds any, else the first one. -/
def chosenBody? (l : Lines) (bodies : List Body) : Option Body :=
  (bodies.find? fun b => (regionIn? l b .fields).isSome || (regionIn? l b .methods).isSome) <|>
    bodies.head?

/-- The blanks in front of a line as text. -/
def indentOf (l : Lines) (line : Nat) : String := String.ofList (l.indentation line)

/-- The indentation of what stands in a body. -/
def innerIndent (l : Lines) (b : Body) : String := nested (indentOf l (l.lineOf b.opening))

/-- Replaces what stands between the markers of a region. It is indented like the first of them. -/
def replaceRegion (l : Lines) (r : Region) (pair : MarkedLines) (fields : List DeclaredField) : Edit where
  start := l.start (pair.start + 1)
  stop := l.start pair.stop
  text := (r.body (indentOf l pair.start) fields).toList

/-- Inserts the region of field names behind the opening brace. -/
def insertFields (l : Lines) (b : Body) (fields : List DeclaredField) : Edit :=
  .insert (b.opening + 1) ("\n" ++ regionText .fields (innerIndent l b) fields).toList

/-- Whether only blanks stand in front of the closing brace, on a line behind the opening one. -/
def closesOnOwnLine (l : Lines) (b : Body) : Bool :=
  let line := l.lineOf b.closing
  l.lineOf b.opening < line && b.closing - l.start line = byteLength (l.indentation line)

/-- Inserts the region of methods in front of the line of the closing brace, or else in front of the brace
itself. -/
def insertMethods (l : Lines) (b : Body) (fields : List DeclaredField) : Edit :=
  let text := "\n" ++ regionText .methods (innerIndent l b) fields
  if closesOnOwnLine l b then .insert (l.start (l.lineOf b.closing)) text.toList
  else .insert b.closing (text ++ indentOf l (l.lineOf b.opening)).toList

/-- The edit that brings a region up to date. -/
def regionEdit (l : Lines) (b : Body) (r : Region) (fields : List DeclaredField) : Edit :=
  match regionIn? l b r with
  | some pair => replaceRegion l r pair fields
  | none =>
    match r with
    | .fields => insertFields l b fields
    | .methods => insertMethods l b fields

/-- The edits that bring the regions of a record up to date. A record without a body gets one behind its
declaration. -/
def editsOf (l : Lines) (r : SourceRecord) : List Edit :=
  match chosenBody? l r.bodies with
  | none => [.insert r.stop ("\n\n" ++ implementationText r.name r.fields).toList]
  | some b => [regionEdit l b .fields r.fields, regionEdit l b .methods r.fields]

/-! ### Whole texts -/

/-- The first marker of either kind without its counterpart. -/
def anyImbalance? (l : Lines) : Option Imbalance :=
  imbalance? l .fields <|> imbalance? l .methods

/-- A text with the regions of its records brought up to date. -/
def updateRegions (l : Lines) (records : List SourceRecord) : Except Fault (List Char) :=
  match anyImbalance? l with
  | some i => .error (.unbalanced i)
  | none =>
    match applyEdits? (records.flatMap (editsOf l)) l.text with
    | some text => .ok text
    | none => .error .overlapping

/-- What becomes of a text: it has no records, its regions are up to date, or they become so. -/
inductive Outcome
  | skipped
  | unchanged
  | updated (text : List Char)
  deriving DecidableEq, Repr

/-- What becomes of a text. -/
def regenerate (text : List Char) : Except Fault Outcome :=
  let l := Lines.ofText text
  match sourceRecords? l with
  | none => .error .malformed
  | some [] => .ok .skipped
  | some records =>
    match updateRegions l records with
    | .error f => .error f
    | .ok output => .ok (if output = text then .unchanged else .updated output)

/-- A text with its regions brought up to date, or nothing if there is nothing to change. -/
def regenerated? (text : List Char) : Except Fault (Option (List Char)) :=
  (regenerate text).map fun
    | .updated output => some output
    | _ => none

end RecordSql.Generate
