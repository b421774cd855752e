import RecordSql.Source.Grammar

/-!
# Attributes

- `Grammar.plainPath`: a path without arguments.
- `Grammar.outerAttributes`: the attributes in front of something.
- `Grammar.innerAttributes`: the attributes at the beginning of what they belong to.
-/

namespace RecordSql.Source

open Parse

namespace Grammar

variable (g : Grammar)

/-- A path without arguments; it may name enclosing modules. -/
def plainPath : Parse PlainPath := do
  let leading ← op? "::"
  require (atSegment (← ahead))
  let first ← anyIdent
  let rest ← collect do
    if ← op? "::" then
      require (atSegment (← ahead))
      return some (← anyIdent)
    else return none
  return ⟨leading, first :: rest⟩

/-- What follows the path of an attribute. A value is a literal or another expression. -/
def attributeInput : Parse AttributeInput := do
  match ← ahead with
  | .group d tokens _ :: _ =>
    let _ ← anyTree
    return .list d tokens
  | ts =>
    if atOp "=" ts then
      op "="
      if atLiteral (← ahead) && (behind (← ahead)).isEmpty then literal
      else
        require (!atOp "#" (← ahead))
        let _ ← g.expression true
      return .value
    else return .absent

/-- What stands between the brackets of an attribute. -/
def attributeBody : Parse Attribute := do
  let path ← if atWord "unsafe" (← ahead) then do
      let i ← anyIdent
      pure ⟨false, [i]⟩
    else plainPath
  return ⟨path, ← g.attributeInput⟩

/-- The attributes in front of something. -/
def outerAttributes : Parse (List Attribute) :=
  collect do
    let ts ← ahead
    if atOp "#" ts && atGroup .bracket (behind ts) then
      op "#"
      return some (← group .bracket g.attributeBody)
    else
      require (!atOp "#" ts)
      return none

/-- The attributes in front of something, of which nothing is kept. -/
def attributes : Parse Unit := do
  let _ ← g.outerAttributes

/-- The attributes at the beginning of what they belong to. -/
def innerAttributes : Parse Unit :=
  repeating do
    let ts ← ahead
    if atOp "#" ts && atOp "!" (behind ts) then
      op "#"
      op "!"
      let _ ← group .bracket g.attributeBody
      return true
    else return false

end Grammar

end RecordSql.Source
