/-!
# Positions

- `Position`: a place in a text by line and column.
- `Position.after`: the place behind a character.
-/

namespace RecordSql.Source

/-- A place in a text: the line, counted from one, and the number of characters before it on that
line. -/
structure Position where
  line : Nat
  column : Nat
  deriving DecidableEq, Repr, Inhabited

namespace Position

/-- The beginning of a text. -/
def origin : Position := ⟨1, 0⟩

/-- The place behind a character: a line ends with its line feed. -/
def after (p : Position) (c : Char) : Position :=
  if c = '\n' then ⟨p.line + 1, 0⟩ else ⟨p.line, p.column + 1⟩

/-- The place behind some characters. -/
def afterAll (p : Position) (cs : List Char) : Position :=
  cs.foldl after p

theorem afterAll_append (p : Position) (cs ds : List Char) :
    p.afterAll (cs ++ ds) = (p.afterAll cs).afterAll ds :=
  List.foldl_append

end Position

/-- The places where something begins and where it has ended. -/
structure Span where
  start : Position
  stop : Position
  deriving DecidableEq, Repr, Inhabited

end RecordSql.Source
