import RecordSql.Source.Grammar.Type

/-!
# Patterns

- `Grammar.readPattern`: a single pattern.
- `Grammar.alternatives`: patterns with bars between them.
-/

namespace RecordSql.Source

open Parse

namespace Grammar

variable (g : Grammar)

/-- Patterns with bars between them; a bar may stand in front. -/
def alternatives : Parse Unit := do
  let _ ← op? "|"
  g.pattern
  repeating do
    let ts ← ahead
    if atOp "|" ts && !atOp "||" ts && !atOp "|=" ts then
      op "|"
      g.pattern
      return true
    else return false

/-- Whether a range has no bound here. -/
def endsRange (ts : List Tree) : Bool :=
  ts.isEmpty || atAnyOp ["|", "=", ",", ";"] ts || (atOp ":" ts && !atOp "::" ts) || atWord "if" ts

/-- A block that is evaluated in advance. -/
def constantBlock : Parse Unit := do
  word "const"
  group .brace g.statements

/-- The bound of a range; whether there is one. -/
def rangeBound : Parse Bool := do
  let ts ← ahead
  if endsRange ts then return false
  else if atLiteral ts then
    literal
    return true
  else if atWord "const" ts then
    g.constantBlock
    return true
  else
    require (atPath ts)
    let _ ← g.qualifiedPath true
    return true

/-- The dots of a range; whether its end belongs to it. -/
def rangeDots : Parse Bool := do
  if ← op? "..=" then return true
  else if ← op? "..." then return true
  else
    op ".."
    return false

/-- The name or number of a field. -/
def member : Parse Unit := do
  match ← anyTree with
  | .ident i _ => require i.isName
  | .literal t _ => require (isIndex t)
  | _ => failure

/-- The pattern of a field. -/
def fieldPattern : Parse Unit := do
  let boxed ← word? "box"
  let reference ← word? "ref"
  let mutable_ ← word? "mut"
  let ts ← ahead
  if boxed || reference || mutable_ then do
    let _ ← name
  else
    member
    if atOp ":" (← ahead) || !atName ts then
      op ":"
      g.alternatives

/-- The patterns of fields; the last may stand for all others. -/
def structurePattern : Parse Unit :=
  group .brace do
    let _ ← terminated do
      g.attributes
      if atOp ".." (← ahead) then
        op ".."
        require (← ahead).isEmpty
      else g.fieldPattern

/-- A pattern that begins with a path. -/
def pathPattern : Parse Unit := do
  let t ← g.qualifiedPath true
  let ts ← ahead
  let plain := match t with
    | .path false _ segments => !hasArguments segments
    | _ => false
  if plain && atOp "!" ts && !atOp "!=" ts then
    op "!"
    let _ ← anyGroup
  else if atGroup .brace ts then g.structurePattern
  else if atGroup .parenthesis ts then do
    let _ ← group .parenthesis (terminated g.alternatives)
  else if atOp ".." ts then
    let _ ← rangeDots
    let _ ← g.rangeBound

/-- A pattern that begins with a literal or a constant. -/
def literalPattern : Parse Unit := do
  require (← g.rangeBound)
  if atOp ".." (← ahead) then
    let _ ← rangeDots
    let _ ← g.rangeBound

/-- A name for what is matched, perhaps with a pattern of its own. -/
def namePattern : Parse Unit := do
  let _ ← word? "ref"
  let _ ← word? "mut"
  if atWord "self" (← ahead) then word "self" else do let _ ← name
  if ← op? "@" then g.pattern

/-- The rest of a list, or a range without a beginning. -/
def restPattern : Parse Unit := do
  let closed ← rangeDots
  let bounded ← g.rangeBound
  require (bounded || !closed)

/-- Whether a pattern begins with a path rather than with a new name. -/
def atPathPattern (ts : List Tree) : Bool :=
  let next := behind ts
  (atName ts &&
      (atAnyOp ["::", "!", ".."] next || atGroup .brace next || atGroup .parenthesis next)) ||
    (atWord "self" ts && atOp "::" next) ||
    atAnyOp ["::", "<"] ts || atAnyWord ["Self", "super", "crate"] ts

/-- A pattern without bars. -/
def readPattern : Parse Unit := do
  let ts ← ahead
  if atPathPattern ts then g.pathPattern
  else if atWord "_" ts then word "_"
  else if atWord "box" ts then
    word "box"
    g.pattern
  else if atOp "-" ts || atLiteral ts || atWord "const" ts then g.literalPattern
  else if atAnyWord ["ref", "mut", "self"] ts || atName ts then g.namePattern
  else if atOp "&" ts then
    op "&"
    let _ ← word? "mut"
    g.pattern
  else if atGroup .parenthesis ts then do
    let _ ← group .parenthesis (terminated g.alternatives)
  else if atGroup .bracket ts then do
    let _ ← group .bracket (terminated g.alternatives)
  else if atOp ".." ts && !atOp "..." ts then g.restPattern
  else failure

end Grammar

end RecordSql.Source
