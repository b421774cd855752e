import RecordSql.Source.Lines

/-!
# Marker lines

A region of a source file that is generated stands between two marker lines. Everything else in the file
is written by hand.

- `Region`: the two kinds of regions, with the texts of their markers.
- `markers`: the marker lines of a text, in order.
- `imbalance?`: the first marker without its counterpart, if there is one.
- `firstPair?`: the first region among some lines.
-/

namespace RecordSql.Generate

open RecordSql.Source RecordSql.Text

/-- A generated region: field names and columns, or the constructor of keys. -/
inductive Region
  | fields
  | methods
  deriving DecidableEq, Repr

/-- The end of a region that a marker stands for. -/
inductive Side
  | start
  | stop
  deriving DecidableEq, Repr

/-- The counterpart. -/
def Side.opposite : Side → Side
  | .start => .stop
  | .stop => .start

/-- What every marker begins with. -/
def markerFront : String := "// AUTO-GENERATED: "

namespace Region

/-- What a marker says. -/
def label : Region → Side → String
  | .fields, .start => "FIELDS START"
  | .fields, .stop => "FIELDS END"
  | .methods, .start => "METHODS START"
  | .methods, .stop => "METHODS END"

/-- The text of a marker. -/
def marker (r : Region) (s : Side) : String := markerFront ++ r.label s

end Region

/-- The side of a region that a line marks: its text, blanks aside, is the marker. -/
def sideOf? (r : Region) (line : List Char) : Option Side :=
  let text := trim line
  if text = (r.marker .start).toList then some .start
  else if text = (r.marker .stop).toList then some .stop
  else none

/-- The marker lines of a region, in order. -/
def markers (l : Lines) (r : Region) : List (Nat × Side) :=
  (List.range l.count).filterMap fun (n : Nat) => (sideOf? r (l.line n)).map fun s => (n, s)

/-- A marker whose counterpart is missing. -/
structure Imbalance where
  region : Region
  found : Side
  line : Nat
  deriving DecidableEq, Repr

/-- The wording of an imbalance; it counts lines from one. -/
def Imbalance.message (i : Imbalance) : String :=
  "found " ++ i.region.label i.found ++ " marker (at line " ++ toString (i.line + 1) ++
    ") but no " ++ i.region.label i.found.opposite ++ " marker"

/-- The first marker without its counterpart. `opened` is the line of a start that is not closed yet. -/
def imbalanceIn? (r : Region) : Option Nat → List (Nat × Side) → Option Imbalance
  | none, [] => none
  | some line, [] => some ⟨r, .start, line⟩
  | none, (line, .start) :: ms => imbalanceIn? r (some line) ms
  | some line, (_, .start) :: _ => some ⟨r, .start, line⟩
  | some _, (_, .stop) :: ms => imbalanceIn? r none ms
  | none, (line, .stop) :: _ => some ⟨r, .stop, line⟩

/-- The first marker of a text without its counterpart. -/
def imbalance? (l : Lines) (r : Region) : Option Imbalance :=
  imbalanceIn? r none (markers l r)

/-- The lines of the two markers of a region. -/
structure MarkedLines where
  start : Nat
  stop : Nat
  deriving DecidableEq, Repr

/-- The first of some lines that marks a side of a region. -/
def findSide? (l : Lines) (r : Region) (s : Side) (first stop : Nat) : Option Nat :=
  (List.range' first (stop - first)).find? fun n => sideOf? r (l.line n) = some s

/-- The first region among the lines from one up to another one. -/
def firstPair? (l : Lines) (r : Region) (first stop : Nat) : Option MarkedLines := do
  let a ← findSide? l r .start first stop
  let b ← findSide? l r .stop (a + 1) stop
  return ⟨a, b⟩

end RecordSql.Generate
