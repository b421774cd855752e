import RecordSql.Source.Grammar.Type

/-!
# Parameters of declarations

- `Grammar.generics`: the parameters in angle brackets, if there are any.
- `Grammar.conditions`: what is required of them, if anything is.
- `Grammar.visibility`: who may use a declaration.
-/

namespace RecordSql.Source

open Parse

namespace Grammar

variable (g : Grammar)

/-- A parameter that stands for a lifetime. -/
def lifetimeParameter : Parse Unit := do
  lifetime
  if ← op? ":" then do
    let _ ← joined "+" (atAnyOp [",", ">"]) lifetime

/-- A parameter that stands for a type, with bounds and a default. -/
def typeParameter : Parse Unit := do
  let _ ← name
  if ← op? ":" then do
    let _ ← joined "+" (atAnyOp [",", ">", "="]) g.readBound
  if ← op? "=" then do
    let _ ← g.type true

/-- A parameter that stands for a constant, with its type and a default. -/
def constantParameter : Parse Unit := do
  word "const"
  let _ ← name
  op ":"
  let _ ← g.type true
  if ← op? "=" then g.constantArgument

/-- A parameter of a declaration. -/
def genericParameter : Parse Unit := do
  g.attributes
  let ts ← ahead
  if atLifetime ts then lifetimeParameter
  else if atName ts then g.typeParameter
  else if atWord "const" ts then g.constantParameter
  else word "_"

/-- The parameters of a declaration. -/
def generics : Parse Unit := do
  if ← op? "<" then
    let _ ← separated "," (atOp ">") g.genericParameter
    op ">"

/-- Whether the conditions of a declaration end here. -/
def endsConditions (ts : List Tree) : Bool :=
  ts.isEmpty || atGroup .brace ts || atAnyOp [",", ";", "="] ts || (atOp ":" ts && !atOp "::" ts)

/-- A condition: a lifetime or a type with its bounds. -/
def condition : Parse Unit := do
  let ts ← ahead
  if atLifetime ts && atOp ":" (behind ts) then
    lifetime
    op ":"
    let _ ← joined "+" endsConditions lifetime
  else
    whenever atBinder binder
    let _ ← g.type true
    op ":"
    let _ ← joined "+" endsConditions g.readBound

/-- The conditions on the parameters of a declaration. -/
def conditions : Parse Unit := do
  if ← word? "where" then do
    let _ ← joined "," endsConditions g.condition

/-- Whether the parentheses behind the word for public say where. -/
def isRestriction : List Tree → Bool
  | [t] => atAnyWord ["crate", "self", "super"] [t]
  | ts => atWord "in" ts

/-- Who may use a declaration; whether anything is said about it. -/
def visibility : Parse Bool := do
  if ← word? "pub" then
    match ← ahead with
    | .group .parenthesis content _ :: _ =>
      if isRestriction content then
        group .parenthesis do
          if ← word? "in" then do
            let _ ← plainPath
          else do
            let _ ← anyIdent
    | _ => pure ()
    return true
  else return false

/-- Whether angle brackets behind the word of an implementation hold parameters, and do not begin a
qualified path. -/
def atGenerics (ts : List Tree) : Bool :=
  let second := behind ts
  let third := behind second
  atOp "<" ts &&
    (atOp ">" second || atOp "#" second || atWord "const" second ||
      ((atLifetime second || atName second) &&
        (atAnyOp [">", ",", "="] third || (atOp ":" third && !atOp "::" third))))

end Grammar

end RecordSql.Source
