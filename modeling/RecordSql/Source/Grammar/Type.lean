import RecordSql.Source.Grammar.Attribute

/-!
# Paths and types

- `Grammar.qualifiedPath`: a path with arguments, perhaps behind a qualifying type.
- `Grammar.readBound`, `Grammar.bounds`: a bound of a type, and lists of these.
- `Grammar.readType`: a type.
-/

namespace RecordSql.Source

open Parse

/-- The segments of a path with the types among their arguments. -/
abbrev Segments := List (Ident × Option (List Ty))

namespace Grammar

variable (g : Grammar)

/-! ### Paths -/

/-- Whether a path may not be called like a macro: it has arguments. -/
def hasArguments (segments : Segments) : Bool :=
  segments.any fun s => s.2.isSome

/-- A constant among the arguments of a path. -/
def constantArgument : Parse Unit := do
  let ts ← ahead
  if atLiteral ts then literal
  else if atName ts then do let _ ← name
  else group .brace g.statements

/-- A bound that lets only some lifetimes and types be captured. -/
def capture : Parse Unit := do
  word "use"
  op "<"
  let _ ← separated "," (atOp ">") do
    if atLifetime (← ahead) then lifetime else do let _ ← anyIdent
  op ">"

/-- Arguments in parentheses with the type of the result, as bounds on functions have them. -/
def parenthesizedArguments : Parse Unit := do
  let _ ← group .parenthesis (terminated (g.type true))
  whenever (atOp "->") do
    op "->"
    let _ ← g.type false

/-- Whether the lifetimes of a binder come first. -/
def atBinder (ts : List Tree) : Bool := atWord "for" ts

/-- The lifetimes that a type or bound introduces. -/
def binder : Parse Unit := do
  word "for"
  op "<"
  let _ ← separated "," (atOp ">") do
    lifetime
    if ← op? ":" then do
      let _ ← joined "+" (atAnyOp [",", ">"]) lifetime
  op ">"

/-- The path of a segment may be followed by arguments in angle brackets: at once in a type, behind a
double colon in an expression. -/
def atArguments (inExpression : Bool) (ts : List Tree) : Bool :=
  (!inExpression && atOp "<" ts && !atOp "<=" ts && !atOp "<<=" ts) ||
    (atOp "::" ts && atOp "<" (behind (behind ts)))

/-- Whether a type may be the name of an associated type or constant. -/
def isAssociatedName : Ty → Bool
  | .path false false [_] => true
  | _ => false

/-- A list of bounds up to a comma or the end of the arguments. -/
def argumentBounds : Parse Unit := do
  let _ ← joined "+" (atAnyOp [",", ">"]) g.bound

/-- An argument of a path; the types among the arguments are given back. -/
def argument : Parse (Option Ty) := do
  let ts ← ahead
  if atLifetime ts && !atOp "+" (behind ts) then
    lifetime
    return none
  else if atLiteral ts || atGroup .brace ts then
    g.constantArgument
    return none
  else
    let t ← g.type true
    if isAssociatedName t then
      if ← op? "=" then
        let ts ← ahead
        if atLiteral ts || atGroup .brace ts then g.constantArgument
        else do let _ ← g.type true
        return none
      else if ← op? ":" then
        g.argumentBounds
        return none
      else return some t
    else return some t

/-- Arguments in angle brackets. -/
def arguments : Parse (List Ty) := do
  op "<"
  let args ← separated "," (atOp ">") g.argument
  op ">"
  return args.filterMap id

/-- A segment of a path. -/
def segment (inExpression : Bool) : Parse (Ident × Option (List Ty)) := do
  if atAnyWord moduleWords (← ahead) then
    return (← anyIdent, none)
  else
    let i ← if atWord "Self" (← ahead) then anyIdent else name
    if atArguments inExpression (← ahead) then
      let _ ← op? "::"
      return (i, some (← g.arguments))
    else return (i, none)

/-- The segments of a path. A double colon before parentheses belongs to what follows. -/
def segments (inExpression : Bool) : Parse Segments := do
  let first ← g.segment inExpression
  let rest ← collect do
    let ts ← ahead
    if atOp "::" ts && !atGroup .parenthesis (behind (behind ts)) then
      op "::"
      return some (← g.segment inExpression)
    else return none
  return first :: rest

/-! ### Bounds -/

/-- The mark of a bound that holds only in constants, or not always. -/
def boundModifiers : Parse Unit := do
  if atGroup .bracket (← ahead) then group .bracket (word "const")
  else if ← op? "~" then word "const"
  else do let _ ← word? "const"
  if ← op? "?" then whenever atBinder binder

/-- A bound by a trait. -/
def traitBound : Parse Unit := do
  whenever atBinder binder
  boundModifiers
  let _ ← op? "::"
  let path ← g.segments false
  let ts ← ahead
  let open_ := atGroup .parenthesis ts ||
    (atOp "::" ts && atGroup .parenthesis (behind (behind ts)))
  if open_ && (path.getLast?.bind Prod.snd).isNone then
    let _ ← op? "::"
    g.parenthesizedArguments

/-- A bound; whether it names a trait. -/
def readBound : Parse Bool := do
  let ts ← ahead
  if atLifetime ts then
    lifetime
    return false
  else if atWord "use" ts then
    capture
    return false
  else if atGroup .parenthesis ts then
    group .parenthesis g.traitBound
    return true
  else
    g.traitBound
    return true

/-- Whether another bound follows a plus sign. -/
def atBound (ts : List Tree) : Bool :=
  atIdent ts || atOp "::" ts || atOp "?" ts || atLifetime ts || atGroup .parenthesis ts ||
    atGroup .bracket ts

/-- Bounds joined by plus signs, one of them by a trait. -/
def bounds (plus : Bool) : Parse Unit := do
  let first ← g.bound
  let rest ← collect do
    if plus && atOp "+" (← ahead) then
      op "+"
      if atBound (← ahead) then return some (← g.bound)
      else return none
    else return none
  require (first || rest.any id)

/-- Further bounds, each behind a plus sign. -/
def moreBounds : Parse Unit :=
  repeating do
    if ← op? "+" then
      if atBound (← ahead) then
        let _ ← g.bound
        return true
      else return false
    else return false

/-! ### Types -/

/-- A path with arguments, perhaps behind a qualifying type. -/
def qualifiedPath (inExpression : Bool) : Parse Ty := do
  if ← op? "<" then
    let _ ← g.type true
    let outer ← if ← word? "as" then do
        let leading ← op? "::"
        let path ← g.segments false
        pure (leading, path)
      else pure (true, [])
    op ">"
    op "::"
    let first ← g.segment inExpression
    let rest ← collect do
      if ← op? "::" then return some (← g.segment inExpression)
      else return none
    return .path true outer.1 (outer.2 ++ first :: rest)
  else
    let leading ← op? "::"
    return .path false leading (← g.segments inExpression)

/-- The convention in which a function is called. -/
def convention : Parse Unit := do
  if ← word? "extern" then
    if atString (← ahead) then do let _ ← anyTree

/-- Dots for further parameters. Only a comma may follow them. -/
def dots : Parse Unit := do
  op "..."
  let ts ← ahead
  require (ts.isEmpty || (atOp "," ts && (behind ts).isEmpty))

/-- A parameter of the type of a function. -/
def functionTypeParameter : Parse Unit := do
  g.attributes
  let ts ← ahead
  if atOp "..." ts then dots
  else
    let _ ← if atWord "mut" ts && atWord "self" (behind ts) then word? "mut" else pure false
    let ts ← ahead
    let named := (atName ts || atAnyWord ["_", "self"] ts) && atOp ":" (behind ts) &&
      !atOp "::" (behind ts)
    if named then
      let _ ← anyIdent
      op ":"
      if atOp "..." (← ahead) then dots else do let _ ← g.type true
    else do let _ ← g.type true

/-- The type of a function. -/
def functionType : Parse Unit := do
  let _ ← word? "unsafe"
  convention
  word "fn"
  let _ ← group .parenthesis (terminated (g.functionTypeParameter))
  whenever (atOp "->") do
    op "->"
    let _ ← g.type false

/-- Whether a type in parentheses may be joined to further bounds. -/
inductive Extension
  | never
  | withPlus
  | always
  deriving DecidableEq, Repr

/-- A type in parentheses, or a tuple. -/
def parenthesizedType (plus : Bool) : Parse Unit := do
  let extension ← group .parenthesis do
    let ts ← ahead
    if ts.isEmpty then return Extension.never
    else if atLifetime ts then
      g.bounds true
      return .never
    else if atOp "?" ts then
      let _ ← g.bound
      return .always
    else
      let first ← g.type true
      if ← op? "," then
        let _ ← terminated (g.type true)
        return .never
      else
        match first with
        | .path false _ _ => return .withPlus
        | _ => return .never
  if extension = .always || (extension = .withPlus && plus) then g.moreBounds

/-- A type that is no path. -/
def otherType (plus : Bool) : Parse Unit := do
  let ts ← ahead
  if atGroup .parenthesis ts then g.parenthesizedType plus
  else if atAnyWord ["fn", "unsafe", "extern"] ts then g.functionType
  else if atWord "dyn" ts then
    word "dyn"
    let _ ← op? "*"
    g.bounds plus
  else if atGroup .bracket ts then
    group .bracket do
      let _ ← g.type true
      if ← op? ";" then do let _ ← g.expression true
  else if atOp "*" ts then
    op "*"
    if !(← word? "const") then word "mut"
    let _ ← g.type false
  else if atOp "&" ts then
    op "&"
    whenever atLifetime lifetime
    let _ ← word? "mut"
    let _ ← g.type false
  else if atOp "!" ts && !atOp "=" ts then op "!"
  else if atWord "impl" ts then
    word "impl"
    g.bounds plus
  else if atWord "_" ts then word "_"
  else if atLifetime ts then g.bounds true
  else failure

/-- Whether a path comes first. -/
def atPath (ts : List Tree) : Bool := atSegment ts || atOp "::" ts || atOp "<" ts

/-- A type, or nothing but its being read if it is no path. -/
def typeForm (plus : Bool) : Parse (Option Ty) := do
  let bound ← looking atBinder
  if bound then
    binder
    let ts ← ahead
    require (atSegment ts || atAnyWord ["fn", "unsafe", "extern"] ts)
  if atPath (← ahead) then
    let t ← g.qualifiedPath false
    let ts ← ahead
    match t with
    | .path false _ segments =>
      if atOp "!" ts && !atOp "!=" ts && !hasArguments segments then
        op "!"
        let _ ← anyGroup
        return none
      else if bound || (plus && atOp "+" ts) then
        if plus then g.moreBounds
        return none
      else return some t
    | _ => return some t
  else
    g.otherType plus
    return none

/-- A type. One that is no path is given back as it is written. -/
def readType (plus : Bool) : Parse Ty := do
  let (path?, trees) ← withTrees (g.typeForm plus)
  match path? with
  | some t => return t
  | none => return .other trees

end Grammar

end RecordSql.Source
