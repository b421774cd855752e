import RecordSql.Source.Position

/-!
# Token trees

Source text as a reader of declarations sees it: identifiers, punctuation, literals, and groups of
these in delimiters.

- `Ident`: an identifier, perhaps in the raw form that lets it be a reserved word.
- `Tree`: a token, or a group of trees.
- `Tree.render`: trees as text, one blank between any two that are not joint.
-/

namespace RecordSql.Source

/-- The brackets around a group. -/
inductive Delimiter
  | parenthesis
  | bracket
  | brace
  deriving DecidableEq, Repr

namespace Delimiter

/-- The character that begins a group. -/
def opening : Delimiter → Char
  | .parenthesis => '('
  | .bracket => '['
  | .brace => '\x7b'

/-- The character that ends a group. -/
def closing : Delimiter → Char
  | .parenthesis => ')'
  | .bracket => ']'
  | .brace => '\x7d'

end Delimiter

/-- An identifier. A raw one is written with a mark in front. -/
structure Ident where
  raw : Bool
  name : String
  deriving DecidableEq, Repr, Inhabited

namespace Ident

/-- An identifier without the mark of raw ones. -/
def plain (name : String) : Ident := ⟨false, name⟩

/-- An identifier as it is written. -/
def text (i : Ident) : String := if i.raw then "r#" ++ i.name else i.name

/-- Whether an identifier is written as a word, without the mark of raw ones. -/
def isWord (i : Ident) (w : String) : Bool := !i.raw && i.name == w

/-- The words that are no names: keywords, words kept for later, and the underscore. -/
def reserved : List String :=
  ["_", "abstract", "as", "async", "await", "become", "box", "break", "const", "continue", "crate",
    "do", "dyn", "else", "enum", "extern", "false", "final", "fn", "for", "if", "impl", "in", "let",
    "loop", "macro", "match", "mod", "move", "mut", "override", "priv", "pub", "ref", "return",
    "Self", "self", "static", "struct", "super", "trait", "true", "try", "type", "typeof", "unsafe",
    "unsized", "use", "virtual", "where", "while", "yield"]

/-- Whether an identifier may name something. -/
def isName (i : Ident) : Bool := i.raw || !reserved.contains i.name

end Ident

/-- A token, or a group of trees. A punctuation mark is joint if another one follows at once; the
apostrophe of a lifetime is joint to the identifier behind it. -/
inductive Tree
  | ident (name : Ident) (span : Span)
  | punct (mark : Char) (joint : Bool) (span : Span)
  | literal (text : List Char) (span : Span)
  | group (delimiter : Delimiter) (content : List Tree) (span : Span)
  deriving Repr, Inhabited

namespace Tree

/-- Where a tree stands. -/
def span : Tree → Span
  | .ident _ s | .punct _ _ s | .literal _ s | .group _ _ s => s

/-- Whether what follows a tree is written right behind it. -/
def isJoint : Tree → Bool
  | .punct _ joint _ => joint
  | _ => false

mutual

/-- How many trees a tree consists of. -/
def size : Tree → Nat
  | .group _ content _ => sizeList content + 1
  | _ => 1

/-- How many trees a list of trees consists of. -/
def sizeList : List Tree → Nat
  | [] => 0
  | t :: ts => t.size + sizeList ts

end

mutual

/-- A tree as text. Braces are set off by blanks. -/
def render : Tree → String
  | .ident i _ => i.text
  | .punct c _ _ => String.singleton c
  | .literal t _ => String.ofList t
  | .group .parenthesis content _ => "(" ++ renderList content ++ ")"
  | .group .bracket content _ => "[" ++ renderList content ++ "]"
  | .group .brace [] _ => "\x7b \x7d"
  | .group .brace (t :: ts) _ => "\x7b " ++ renderList (t :: ts) ++ " \x7d"

/-- Trees as text. -/
def renderList : List Tree → String
  | [] => ""
  | [t] => t.render
  | t :: ts => t.render ++ (if t.isJoint then "" else " ") ++ renderList ts

end

end Tree

end RecordSql.Source
