import RecordSql.Dialect
import RecordSql.Registry
import RecordSql.Value

/-!
# Pieces of SQL text

Statements are written as sequences of pieces. Pieces do not depend on the layout, and a placeholder is
one piece together with its value, so that text and parameters can not drift apart.

- `Piece`: words, names, placeholders and breaks.
- `layout`: the text of pieces, in one line or with a line for each clause.
- `parameters`: the bound values in the order of their placeholders.
-/

namespace RecordSql

/-- What a table is known by: its generated abbreviation, or a name. -/
inductive TableLabel
  | abbreviation (n : Nat)
  | named (name : String)
  deriving DecidableEq, Repr

/-- The text of a label; abbreviations are never quoted. -/
def TableLabel.text (dialect : Dialect) : TableLabel → String
  | .abbreviation n => abbreviationText n
  | .named name => dialect.quote name

/-- A piece of SQL text. -/
inductive Piece
  /-- Keywords and punctuation. -/
  | word (s : String)
  /-- SQL text that the statement brings along. -/
  | verbatim (s : String)
  /-- An identifier on its own. -/
  | ident (name : String)
  /-- A table with the label it is known by from here on. -/
  | table (name : String) (label : TableLabel)
  /-- A column of the table known by a label. -/
  | column (label : TableLabel) (name : String)
  /-- A placeholder and the value bound to it. -/
  | value (v : Value)
  /-- A break in front of a clause. -/
  | clauseBreak
  /-- The beginning of a sub-select. -/
  | openSelect
  /-- The end of a sub-select. -/
  | closeSelect

/-- Whether clauses stand on lines of their own. -/
inductive Layout
  | compact
  | pretty
  deriving DecidableEq, Repr

/-- A new line, indented by four spaces for each sub-select around it. -/
def newLine (depth : Nat) : String :=
  "\n" ++ String.join (List.replicate depth "    ")

/-- A break in front of a clause. -/
def Layout.clauseBreak : Layout → Nat → String
  | .compact, _ => " "
  | .pretty, depth => newLine depth

/-- A break at either end of a sub-select. -/
def Layout.selectBreak : Layout → Nat → String
  | .compact, _ => ""
  | .pretty, depth => newLine depth

namespace Piece

/-- The number of sub-selects around what follows a piece. -/
def depthAfter (depth : Nat) : Piece → Nat
  | .openSelect => depth + 1
  | .closeSelect => depth - 1
  | _ => depth

/-- The text of a piece inside of `depth` sub-selects; `showValue` writes the bound values. -/
def text (showValue : Value → String) (dialect : Dialect) (l : Layout) (depth : Nat) :
    Piece → String
  | .word s => s
  | .verbatim s => s
  | .ident name => dialect.quote name
  | .table name label => dialect.quote name ++ " as " ++ label.text dialect
  | .column label name => label.text dialect ++ "." ++ dialect.quote name
  | .value v => showValue v
  | .clauseBreak => l.clauseBreak depth
  | .openSelect => "exists (" ++ l.selectBreak (depth + 1)
  | .closeSelect => l.selectBreak (depth - 1) ++ ")"

/-- The value that a piece binds. -/
def value? : Piece → Option Value
  | .value v => some v
  | _ => none

end Piece

/-- The text of pieces that stand inside of `depth` sub-selects. -/
def layoutWith (showValue : Value → String) (dialect : Dialect) (l : Layout) :
    Nat → List Piece → String
  | _, [] => ""
  | depth, p :: ps =>
    p.text showValue dialect l depth ++
      layoutWith showValue dialect l (p.depthAfter depth) ps

/-- The text of a statement's pieces, a question mark for each bound value. -/
def layout (dialect : Dialect) (l : Layout) (ps : List Piece) : String :=
  layoutWith (fun _ => "?") dialect l 0 ps

/-- The bound values in the order of their placeholders. -/
def parameters (ps : List Piece) : Parameters :=
  ps.filterMap Piece.value?

/-- Pieces of a list's items, with a word between any two. -/
def separated (separator : String) : List (List Piece) → List Piece
  | [] => []
  | [ps] => ps
  | ps :: rest => ps ++ .word separator :: separated separator rest

end RecordSql
