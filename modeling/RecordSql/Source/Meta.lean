import RecordSql.Source.Parse
import RecordSql.Source.Syntax

/-!
# Lists inside attributes

The list of an attribute holds paths with commas between them, and each path may be followed by a value
or by a list of its own.

- `ReadFault`: what is wrong with such a list, and its wording.
- `ListReader`: reads a beginning of a list, or says what is wrong.
- `ListReader.path`: the path that an entry begins with.
-/

namespace RecordSql.Source

/-- What is wrong with the list of an attribute: a mark is missing, something is missing, perhaps because
the list ends, a keyword stands in place of a name, or an entry begins with a literal or another token. -/
inductive ReadFault
  | mark (expected : String)
  | expected (what : String) (atEnd : Bool)
  | keyword (found : String)
  | literalEntry
  | tokenEntry
  deriving DecidableEq, Repr

/-- Wording of what is wrong with a list. -/
def ReadFault.message : ReadFault → String
  | .mark m => "expected `" ++ m ++ "`"
  | .expected what atEnd =>
    (if atEnd then "unexpected end of input, " else "") ++ "expected " ++ what
  | .keyword w => "expected identifier, found keyword `" ++ w ++ "`"
  | .literalEntry => "unexpected literal in nested attribute, expected ident"
  | .tokenEntry => "unexpected token in nested attribute, expected ident"

/-- Reads a beginning of a list, or says what is wrong. -/
abbrev ListReader := StateT (List Tree) (Except ReadFault)

namespace ListReader

/-- Fails for want of something, be it that the list ends. -/
def missing {α : Type} (what : String) : ListReader α := do
  throw (.expected what (← get).isEmpty)

/-- Reads a mark. -/
def mark (m : String) : ListReader Unit := do
  match dropOp? m.toList (← get) with
  | some rest => set rest
  | none => throw (.mark m)

/-- Reads any identifier, be it reserved. -/
def ident : ListReader Ident := do
  match ← get with
  | .ident i _ :: rest =>
    set rest
    return i
  | _ => missing "ident"

/-- Reads at most so many further segments of a path. -/
def segments : Nat → ListReader (List Ident)
  | 0 => return []
  | n + 1 => do
    if atOp "::" (← get) then
      mark "::"
      let i ← ident
      return i :: (← segments n)
    else return []

/-- Reads the path that an entry begins with; reserved words may stand in it. -/
def path : ListReader PlainPath := do
  let leading := atOp "::" (← get)
  if leading then mark "::"
  let ts ← get
  if atIdent ts then
    let first ← ident
    return ⟨leading, first :: (← segments (← get).length)⟩
  else if ts.isEmpty then missing "nested attribute"
  else if atLiteral ts then throw .literalEntry
  else throw .tokenEntry

/-- Reads a string, and gives what it stands for. -/
def string : ListReader String := do
  match ← get with
  | .literal t _ :: rest =>
    match stringValue? t with
    | some s =>
      set rest
      return s
    | none => missing "string literal"
  | _ => missing "string literal"

/-- Reads a truth value. -/
def truth : ListReader Bool := do
  let ts ← get
  if atAnyWord ["true", "false"] ts then
    set ts.tail
    return atWord "true" ts
  else missing "boolean literal"

/-- Reads a whole number. -/
def natural : ListReader Nat := do
  match ← get with
  | .literal t _ :: rest =>
    match naturalValue? t with
    | some n =>
      set rest
      return n
    | none => missing "integer literal"
  | _ => missing "integer literal"

/-- Reads a name that may stand for a module around. -/
def segment : ListReader Ident := do
  match ← get with
  | .ident i _ :: rest =>
    if i.isName || ["super", "self", "Self", "crate", "try"].any i.isWord then
      set rest
      return i
    else throw (.keyword i.text)
  | _ => missing "identifier"

/-- Reads the content of parentheses. -/
def parentheses : ListReader (List Tree) := do
  match ← get with
  | .group .parenthesis content _ :: rest =>
    set rest
    return content
  | _ => missing "parentheses"

/-- Reads strings with commas between them, at most so many. -/
def strings : Nat → ListReader (List String)
  | 0 => return []
  | n + 1 => do
    if (← get).isEmpty then return []
    else
      let s ← string
      if (← get).isEmpty then return [s]
      else
        mark ","
        return s :: (← strings n)

end ListReader

end RecordSql.Source
