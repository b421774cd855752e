import RecordSql.Source.Position
import RecordSql.Text.Blank
import RecordSql.Text.Bytes

/-!
# Lines of a text

Lines are counted from zero here. A line starts at the beginning of the text or behind a line feed, so
there is always at least one, and the last one may be empty.

- `Lines`: a text with the offsets of its lines.
- `Lines.lineOf`, `Lines.offset`: from offsets to lines, and from positions to offsets.
- `Lines.line`, `Lines.indentation`: what stands on a line.
-/

namespace RecordSql.Source

open RecordSql.Text

/-- The offsets behind the line feeds of a text that itself starts at an offset. -/
def offsetsBehindFeeds (offset : Nat) : List Char → List Nat
  | [] => []
  | c :: cs =>
    let next := offset + c.utf8Size
    if c = '\n' then next :: offsetsBehindFeeds next cs else offsetsBehindFeeds next cs

/-- The offsets where the lines of a text start. -/
def lineStarts (text : List Char) : List Nat :=
  0 :: offsetsBehindFeeds 0 text

/-- A text with the offsets where its lines start. -/
structure Lines where
  text : List Char
  starts : List Nat := lineStarts text
  starts_eq : starts = lineStarts text := by rfl

namespace Lines

/-- The lines of a text. -/
def ofText (text : List Char) : Lines where
  text := text

/-- How many lines there are. -/
def count (l : Lines) : Nat := l.starts.length

/-- Where a line starts; behind the last line, the end of the text. -/
def start (l : Lines) (line : Nat) : Nat :=
  l.starts.getD line (byteLength l.text)

/-- A line without its line feed and the carriage returns before it. -/
def line (l : Lines) (line : Nat) : List Char :=
  let cs := (dropBytes (l.start line) l.text).takeWhile (· ≠ '\n')
  (cs.reverse.dropWhile (· = '\r')).reverse

/-- The line that holds an offset. -/
def lineOf (l : Lines) (offset : Nat) : Nat :=
  l.starts.countP (· ≤ offset) - 1

/-- The offset of a position; one that is not in the text stands for its end. -/
def offset (l : Lines) (p : Position) : Nat :=
  let start := l.start (p.line - 1)
  let rest := dropBytes start l.text
  if p.column < rest.length then start + byteLength (rest.take p.column) else byteLength l.text

/-- The text between two offsets. -/
def slice (l : Lines) (start stop : Nat) : List Char :=
  takeBytes (stop - start) (dropBytes start l.text)

/-- The blanks in front of a line. -/
def indentation (l : Lines) (line : Nat) : List Char :=
  (l.line line).takeWhile isBlank

/-- The first line starts at the beginning. -/
theorem start_zero (l : Lines) : l.start 0 = 0 := by
  simp [start, l.starts_eq, lineStarts]

end Lines

end RecordSql.Source
