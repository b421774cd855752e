import RecordSql.Source.Grammar.Expression

/-!
# Items

- `Grammar.dataItem`: a data type.
- `Grammar.readItem`: any item.
- `Grammar.step`: the grammar that nests as deep as another one, and one level more.
-/

namespace RecordSql.Source

open Parse

namespace Grammar

variable (g : Grammar)

/-! ### Data types -/

/-- A named field. -/
def namedField : Parse Field := do
  let attributes ← g.outerAttributes
  let _ ← visibility
  let fieldName ← if atWord "_" (← ahead) then anyIdent else name
  op ":"
  let (type, trees) ← withTrees (g.type true)
  let first := (trees.head?.map Tree.span).getD default
  let last := (trees.getLast?.map Tree.span).getD default
  return ⟨attributes, fieldName, type, ⟨first.start, last.stop⟩⟩

/-- A field without a name. -/
def unnamedField : Parse Unit := do
  g.attributes
  let _ ← visibility
  let _ ← g.type true

/-- Fields in braces. -/
def namedFields : Parse Shape := do
  let (fields, span) ← groupWithSpan .brace (terminated g.namedField)
  return .named fields span.stop

/-- Fields in parentheses. -/
def unnamedFields : Parse Unit := do
  let _ ← group .parenthesis (terminated g.unnamedField)

/-- The fields of a structure. Conditions stand before braces and behind parentheses. -/
def structureFields : Parse Shape := do
  if atGroup .parenthesis (← ahead) then
    g.unnamedFields
    g.conditions
    op ";"
    return .unnamed
  else
    g.conditions
    if ← op? ";" then return .unnamed else g.namedFields

/-- An alternative of an enumeration. -/
def enumerationCase : Parse Unit := do
  g.attributes
  let _ ← visibility
  let _ ← name
  let ts ← ahead
  if atGroup .brace ts then do
    let _ ← g.namedFields
  else if atGroup .parenthesis ts then g.unnamedFields
  if ← op? "=" then g.value

/-- Whether a data type comes first, behind its visibility. -/
def atData (ts : List Tree) : Bool :=
  atAnyWord ["struct", "enum"] ts || (atWord "union" ts && atName (behind ts))

/-- A data type behind its attributes and visibility. -/
def dataItem (attributes : List Attribute) : Parse DataItem := do
  let kind ← anyIdent
  let typeName ← name
  g.generics
  if kind.isWord "struct" then return ⟨attributes, typeName, ← g.structureFields⟩
  else
    g.conditions
    if kind.isWord "enum" then
      let _ ← group .brace (terminated g.enumerationCase)
      return ⟨attributes, typeName, .enumeration⟩
    else
      let _ ← g.namedFields
      return ⟨attributes, typeName, .union⟩

/-! ### Functions -/

/-- The object that a method belongs to. -/
def receiver : Parse Unit := do
  if ← op? "&" then
    whenever atLifetime lifetime
    let _ ← word? "mut"
    word "self"
  else
    let _ ← word? "mut"
    word "self"
    if ← op? ":" then do let _ ← g.type true

/-- Whether the object that a method belongs to comes first. -/
def atReceiver (ts : List Tree) : Bool :=
  match (g.receiver).run ts with
  | some _ => true
  | none => false

/-- A parameter of a function. Only the first may be the object that a method belongs to, and nothing may
follow dots. -/
def parameter (first : Bool) : Parse Unit := do
  g.attributes
  let ts ← ahead
  if atOp "..." ts then dots
  else if g.atReceiver ts then
    require first
    g.receiver
  else if atName ts && atOp "<" (behind ts) then do
    let _ ← g.type true
  else
    g.pattern
    op ":"
    if atOp "..." (← ahead) then dots else do let _ ← g.type true

/-- The parameters of a function. -/
def parameters : Parse Unit :=
  group .parenthesis do
    if !(← ahead).isEmpty then
      g.parameter true
      if ← op? "," then do
        let _ ← terminated (g.parameter false)

/-- What a function yields. -/
def result : Parse Unit := do
  if atOp "->" (← ahead) then
    op "->"
    let _ ← g.type true

/-- Whether a function comes first. -/
def atFunction (ts : List Tree) : Bool :=
  let front : Parse Unit := do
    let _ ← word? "const"
    let _ ← word? "async"
    let _ ← word? "unsafe"
    convention
    word "fn"
  (front.run ts).isSome

/-- A function up to its body. -/
def signature : Parse Unit := do
  let _ ← word? "const"
  let _ ← word? "async"
  let _ ← word? "unsafe"
  convention
  word "fn"
  let _ ← name
  g.generics
  g.parameters
  g.result
  g.conditions

/-- A function; its body may be left out. -/
def function : Parse Unit := do
  g.signature
  if !(← op? ";") then g.attributedBlock

/-! ### Other items -/

/-- What a `use` makes visible. -/
def useTreeAtMost : Nat → Parse Unit
  | 0 => failure
  | n + 1 => do
    let _ ← op? "::"
    let ts ← ahead
    if atOp "*" ts then op "*"
    else if atGroup .brace ts then do
      let _ ← group .brace (terminated (useTreeAtMost n))
    else
      require (atName ts || atAnyWord ["self", "super", "crate", "try"] ts)
      let _ ← anyIdent
      if ← op? "::" then useTreeAtMost n
      else if ← word? "as" then
        if !(← word? "_") then do let _ ← name

/-- What a `use` makes visible. -/
def useTree : Parse Unit := do useTreeAtMost (Tree.sizeList (← ahead) + 1)

/-- Another library that is used. -/
def externalLibrary : Parse Unit := do
  word "extern"
  word "crate"
  if !(← word? "self") then do let _ ← name
  if ← word? "as" then
    if !(← word? "_") then do let _ ← name
  op ";"

/-- A constant. It may be without a value where a trait asks for it. -/
def constant : Parse Unit := do
  word "const"
  if !(← word? "_") then do let _ ← name
  g.generics
  op ":"
  let _ ← g.type true
  if ← op? "=" then g.value
  g.conditions
  op ";"

/-- A variable that lives as long as the program. -/
def staticVariable : Parse Unit := do
  word "static"
  let _ ← word? "mut"
  let _ ← name
  if ← op? ":" then do let _ ← g.type true
  if ← op? "=" then g.value
  op ";"

/-- A name for a type. It may be without a type where a trait asks for it. -/
def typeAlias : Parse Unit := do
  word "type"
  let _ ← name
  g.generics
  if ← op? ":" then do
    let _ ← joined "+" endsConditions g.readBound
  g.conditions
  if ← op? "=" then do let _ ← g.type true
  g.conditions
  op ";"

/-- A call of a macro in place of an item. -/
def macroItem : Parse Unit := do
  let _ ← plainPath
  op "!"
  let ts ← ahead
  if atName ts || atWord "try" ts then do let _ ← anyIdent
  match ← anyGroup with
  | .brace => pure ()
  | _ => op ";"

/-- The definition of a macro by its parameters and body. -/
def macroDefinition : Parse Unit := do
  word "macro"
  let _ ← name
  if atGroup .parenthesis (← ahead) then do let _ ← anyGroup
  require (atGroup .brace (← ahead))
  let _ ← anyGroup

/-- Whether a call of a macro comes first. -/
def atMacro (ts : List Tree) : Bool :=
  atName ts || atAnyWord ["self", "super", "crate"] ts || atOp "::" ts

/-- An item of a trait or of an implementation. -/
def memberItem : Parse Unit := do
  g.attributes
  let shown ← visibility
  let default_ ← if atWord "default" (← ahead) && !atOp "!" (behind (← ahead)) then word? "default"
    else pure false
  let ts ← ahead
  if atFunction ts then g.function
  else if atWord "const" ts then g.constant
  else if atWord "type" ts then g.typeAlias
  else
    require (!shown && !default_ && atMacro ts)
    macroItem

/-- An item that another library provides. -/
def externalItem : Parse Unit := do
  g.attributes
  let shown ← visibility
  let _ ← if atWord "safe" (← ahead) && atAnyWord ["fn", "static"] (behind (← ahead)) then word? "safe"
    else pure false
  let ts ← ahead
  if atFunction ts then g.function
  else if atWord "static" ts then g.staticVariable
  else if atWord "type" ts then g.typeAlias
  else
    require (!shown && atMacro ts)
    macroItem

/-- Items that another library provides. -/
def externalBlock : Parse Unit := do
  let _ ← word? "unsafe"
  convention
  group .brace do
    g.innerAttributes
    let _ ← toEnd g.externalItem

/-- A module, with its content if that stands here. -/
def moduleItem : Parse Item := do
  let _ ← word? "unsafe"
  word "mod"
  if !(← word? "try") then do let _ ← name
  if ← op? ";" then return .other
  else
    group .brace do
      g.innerAttributes
      return .module (← toEnd g.item)

/-- Whether the bounds of a trait end here. -/
def endsTraitBounds (ts : List Tree) : Bool :=
  atWord "where" ts || atGroup .brace ts || atOp ";" ts

/-- A trait, or a name for bounds. -/
def traitItem : Parse Unit := do
  let special ← looking (atAnyWord ["unsafe", "auto"])
  let _ ← word? "unsafe"
  let _ ← word? "auto"
  word "trait"
  let _ ← name
  g.generics
  if !special && atOp "=" (← ahead) then
    op "="
    let _ ← separated "+" endsTraitBounds g.readBound
    g.conditions
    op ";"
  else
    if ← op? ":" then do
      let _ ← separated "+" endsTraitBounds g.readBound
    g.conditions
    group .brace do
      g.innerAttributes
      let _ ← toEnd g.memberItem

/-- The trait that is implemented and the type that implements it, or the type alone. -/
def implemented (negative : Bool) : Parse (Option (Bool × Ty)) := do
  let first ← g.type true
  if ← word? "for" then
    let subject ← g.type true
    match first with
    | .path false _ _ => return some (true, subject)
    | _ => return none
  else if negative then return none
  else return some (false, first)

/-- An implementation behind its attributes. One that is shown, or that holds only in constants, is
nothing that a type has of its own. -/
def implementationItem (shown : Bool) : Parse Item := do
  let _ ← word? "default"
  let _ ← word? "unsafe"
  word "impl"
  if atGenerics (← ahead) then g.generics
  let ts ← ahead
  let conditional_ := atWord "const" ts || (atOp "?" ts && atWord "const" (behind ts))
  if conditional_ then
    let _ ← op? "?"
    word "const"
  let ts ← ahead
  let negative ← if atOp "!" ts && !atGroup .brace (behind ts) then op? "!" else pure false
  let subject? ← g.implemented negative
  g.conditions
  let (_, body) ← groupWithSpan .brace do
    g.innerAttributes
    let _ ← toEnd g.memberItem
  match subject? with
  | some (ofTrait, subject) =>
    if shown || conditional_ then return .other else return .implementation ⟨ofTrait, subject, body⟩
  | none => return .other

/-- Whether an implementation comes first. -/
def atImplementation (ts : List Tree) : Bool :=
  atWord "impl" ts || (atWord "unsafe" ts && atWord "impl" (behind ts)) ||
    (atWord "default" ts && !atOp "!" (behind ts))

/-- Whether a trait comes first. -/
def atTrait (ts : List Tree) : Bool :=
  let next := behind ts
  atWord "trait" ts || (atWord "auto" ts && atWord "trait" next) ||
    (atWord "unsafe" ts &&
      (atWord "trait" next || (atWord "auto" next && atWord "trait" (behind next))))

/-- Whether a block of items of another library comes first. -/
def atExternalBlock (ts : List Tree) : Bool :=
  let next := behind ts
  (atWord "extern" ts && (atGroup .brace next || (atString next && atGroup .brace (behind next)))) ||
    (atWord "unsafe" ts && atWord "extern" next)

/-- Reads an item of which nothing is kept. -/
def ignoring (p : Parse Unit) : Parse Item := do
  p
  return .other

/-- An item. -/
def readItem : Parse Item := do
  let attributes ← g.outerAttributes
  let shown ← visibility
  let ts ← ahead
  if atFunction ts then ignoring g.function
  else if atWord "extern" ts && atWord "crate" (behind ts) then ignoring externalLibrary
  else if atExternalBlock ts then
    require (!shown)
    ignoring g.externalBlock
  else if atWord "use" ts then
    ignoring do
      word "use"
      useTree
      op ";"
  else if atWord "static" ts then ignoring g.staticVariable
  else if atWord "const" ts then ignoring g.constant
  else if atTrait ts then ignoring g.traitItem
  else if atImplementation ts then g.implementationItem shown
  else if atWord "mod" ts || (atWord "unsafe" ts && atWord "mod" (behind ts)) then g.moduleItem
  else if atWord "type" ts then ignoring g.typeAlias
  else if atData ts then return .data (← g.dataItem attributes)
  else if atWord "macro" ts then ignoring macroDefinition
  else
    require (!shown && atMacro ts)
    ignoring macroItem

/-! ### The whole grammar -/

/-- The grammar that nests as deep as another one, and one level more. -/
def step : Grammar where
  type := g.readType
  bound := g.readBound
  pattern := g.readPattern
  expression := g.readExpression
  boundary := g.readBoundary
  statements := g.readStatements
  item := g.readItem

/-- The grammar that nests to a depth. -/
def upToDepth : Nat → Grammar
  | 0 => empty
  | n + 1 => (upToDepth n).step

end Grammar

end RecordSql.Source
