import RecordSql.Source.Grammar.Item
import RecordSql.Source.Lexer
import RecordSql.Source.Lines

/-!
# Source files

- `parseItems?`: the items of a source file; nothing if it is malformed.
- `parseData?`: the data type that a text declares.
-/

namespace RecordSql.Source

open RecordSql.Text Parse

/-- The mark that may stand in front of a text to tell its byte order. -/
def byteOrderMark : Char := '\ufeff'

/-- A text without a byte order mark. -/
def dropByteOrderMark : List Char → List Char
  | [] => []
  | c :: cs => if c = byteOrderMark then cs else c :: cs

/-- A text without a first line that names the program to run it; the end of that line is kept. An
attribute may begin with the same characters. -/
def dropInterpreterLine (text : List Char) : List Char :=
  match text with
  | '#' :: '!' :: rest =>
    match skipBlanks (rest.length + 1) rest with
    | '[' :: _ => text
    | _ => text.dropWhile (· ≠ '\n')
  | _ => text

/-- Reads trees to their end. Nothing nests deeper than there are trees. -/
def parseAll? {α : Type} (p : Grammar → Parse α) (trees : List Tree) : Option α :=
  match (p (Grammar.upToDepth (Tree.sizeList trees + 1))).run trees with
  | some (a, []) => some a
  | _ => none

/-- The token trees of a text that a byte order mark may precede. Columns count from behind the mark, but
a second mark takes a column. -/
def markedTrees? (text : List Char) : Option (List Tree) :=
  match text with
  | c :: cs =>
    if c = byteOrderMark then
      (lexemesFrom? (cs.length + 1) [] (Position.origin.after c) cs).bind (nest? [] [])
    else trees? text
  | [] => trees? []

/-- The items of a source file. -/
def parseItems? (text : List Char) : Option (List Item) := do
  let trees ← markedTrees? (dropInterpreterLine (dropByteOrderMark text))
  parseAll? (fun g => do g.innerAttributes; toEnd g.item) trees

/-- A data type with its attributes. -/
def Grammar.declaration (g : Grammar) : Parse DataItem := do
  let attributes ← g.outerAttributes
  let _ ← visibility
  require (atAnyWord ["struct", "enum", "union"] (← ahead))
  g.dataItem attributes

/-- The data type that a text declares, and nothing else. -/
def parseData? (text : List Char) : Option DataItem := do
  let trees ← markedTrees? text
  parseAll? Grammar.declaration trees

end RecordSql.Source
