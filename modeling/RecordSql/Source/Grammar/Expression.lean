import RecordSql.Source.Grammar.Generics
import RecordSql.Source.Grammar.Pattern

/-!
# Expressions and statements

- `Grammar.readExpression`: an expression.
- `Grammar.readBoundary`: an expression at the beginning of a statement or arm, which ends with its
  block if it begins with the word of one.
- `Grammar.readStatements`: the statements of a block.
-/

namespace RecordSql.Source

open Parse

namespace Grammar

variable (g : Grammar)

/-! ### Blocks -/

/-- A block in braces. -/
def block : Parse Unit := group .brace g.statements

/-- A block in braces that may begin with attributes. -/
def attributedBlock : Parse Unit :=
  group .brace do
    g.innerAttributes
    g.statements

/-- An expression that braces end. -/
def subject : Parse Unit := do
  let _ ← g.expression false

/-- An expression anywhere. -/
def value : Parse Unit := do
  let _ ← g.expression true

/-- Conditions with their blocks, and what holds otherwise. -/
def conditional : Parse Unit :=
  repeating do
    word "if"
    g.subject
    g.block
    if ← word? "else" then
      if atWord "if" (← ahead) then return true
      else
        g.block
        return false
    else return false

/-- A loop over what an expression yields. -/
def iteration : Parse Unit := do
  word "for"
  g.alternatives
  word "in"
  g.subject
  g.attributedBlock

/-! ### Atoms -/

/-- Whether the word of a loop over lifetimes of a closure comes first. -/
def atClosureBinder (ts : List Tree) : Bool :=
  let next := behind ts
  atWord "for" ts && atOp "<" next && (atLifetime (behind next) || atOp ">" (behind next))

/-- Whether a closure comes first. -/
def atClosure (ts : List Tree) : Bool :=
  let next := behind ts
  atOp "|" ts || atAnyWord ["move", "static"] ts || atClosureBinder ts ||
    (atWord "const" ts && !atGroup .brace next) ||
    (atWord "async" ts && (atOp "|" next || atWord "move" next))

/-- A parameter of a closure. -/
def closureParameter : Parse Unit := do
  g.attributes
  g.pattern
  if ← op? ":" then do let _ ← g.type true

/-- A closure. One that says what it yields has a block. -/
def closure (braces : Bool) : Parse Unit := do
  whenever atBinder binder
  let _ ← word? "const"
  let _ ← word? "static"
  let _ ← word? "async"
  let _ ← word? "move"
  op "|"
  let _ ← separated "," (atOp "|") g.closureParameter
  op "|"
  if atOp "->" (← ahead) then
    op "->"
    let _ ← g.type true
    g.block
  else do let _ ← g.expression braces

/-- The value of a field, which may be left out if a variable has its name. -/
def fieldValue : Parse Unit := do
  g.attributes
  let named ← looking atName
  member
  if atOp ":" (← ahead) || !named then
    op ":"
    g.value

/-- The fields of a structure, and what the others are taken from. -/
def structureValue : Parse Unit :=
  group .brace do
    let _ ← terminated do
      if atOp ".." (← ahead) then
        op ".."
        if !(← ahead).isEmpty then g.value
        require (← ahead).isEmpty
      else g.fieldValue

/-- A variable, a structure, or a call of a macro. -/
def pathValue (braces : Bool) : Parse Form := do
  let t ← g.qualifiedPath true
  let ts ← ahead
  let plain := match t with
    | .path false _ segments => !hasArguments segments
    | _ => false
  if plain && atOp "!" ts && !atOp "!=" ts then
    op "!"
    return .macroCall (← anyGroup)
  else if braces && atGroup .brace ts then
    g.structureValue
    return .other
  else return .other

/-- A list, or a value that is repeated. -/
def listValue : Parse Unit :=
  group .bracket do
    if !(← ahead).isEmpty then
      g.value
      if ← op? ";" then g.value
      else if ← op? "," then do
        let _ ← terminated g.value

/-- Whether an expression comes first. -/
def atExpression (ts : List Tree) : Bool :=
  atIdent ts || atGroup .parenthesis ts || atGroup .bracket ts || atGroup .brace ts ||
    atLiteral ts || atLifetime ts || atAnyOp ["..", "::", "#"] ts ||
    (atOp "!" ts && !atOp "!=" ts) || (atOp "-" ts && !atAnyOp ["-=", "->"] ts) ||
    (atOp "*" ts && !atOp "*=" ts) || (atOp "|" ts && !atOp "|=" ts) ||
    (atOp "&" ts && !atOp "&=" ts) || (atOp "<" ts && !atAnyOp ["<=", "<<="] ts)

/-- What a jump takes along. -/
def jumpValue (braces : Bool) : Parse Unit := do
  let ts ← ahead
  if atExpression ts && (braces || !atGroup .brace ts) && !atAnyWord ["else", "as"] ts then g.value

/-- A branch of a match. A comma ends it unless it is a block or the last one. -/
def arm : Parse Unit := do
  g.attributes
  g.alternatives
  if ← word? "if" then g.value
  op "=>"
  let form ← g.boundary
  let ended ← op? ","
  require (ended || (← ahead).isEmpty || form = .block)

/-- A choice between patterns. -/
def choice : Parse Unit := do
  word "match"
  g.subject
  group .brace do
    g.innerAttributes
    let _ ← toEnd g.arm

/-- A loop, or a block with a label. -/
def loopOrBlock : Parse Unit := do
  let ts ← ahead
  if atWord "while" ts then
    word "while"
    g.subject
    g.attributedBlock
  else if atWord "for" ts then g.iteration
  else if atWord "loop" ts then
    word "loop"
    g.attributedBlock
  else g.attributedBlock

/-- Whether a block comes first, or the word of an expression that ends with one. -/
def atBlock (ts : List Tree) : Bool :=
  let next := behind ts
  atAnyWord ["if", "while", "loop", "match", "unsafe"] ts ||
    (atWord "for" ts && !atClosureBinder ts) || atGroup .brace ts || atLifetime ts ||
    (atAnyWord ["try", "const"] ts && atGroup .brace next)

/-- An expression that ends with a block. -/
def blockExpression : Parse Unit := do
  let ts ← ahead
  if atWord "if" ts then g.conditional
  else if atWord "match" ts then g.choice
  else if atAnyWord ["unsafe", "try", "const"] ts then
    let _ ← anyIdent
    g.attributedBlock
  else if atLifetime ts then
    lifetime
    op ":"
    g.loopOrBlock
  else g.loopOrBlock

/-- Whether a block that is evaluated later comes first. -/
def atDelayedBlock (ts : List Tree) : Bool :=
  let next := behind ts
  atWord "async" ts &&
    (atGroup .brace next || (atWord "move" next && atGroup .brace (behind next)))

/-- An expression without operators and what follows it. The range that it may be has no beginning, and
`range` reads its end. -/
def atom (braces : Bool) (range : Parse Unit) : Parse Form := do
  let ts ← ahead
  if atLiteral ts then
    literal
    return .other
  else if atDelayedBlock ts then
    word "async"
    let _ ← word? "move"
    g.block
    return .other
  else if atBlock ts then
    g.blockExpression
    return .block
  else if atClosure ts then
    g.closure braces
    return .other
  else if atPath ts || atWord "try" ts then g.pathValue braces
  else if atGroup .parenthesis ts then
    let _ ← group .parenthesis (terminated g.value)
    return .other
  else if atGroup .bracket ts then
    g.listValue
    return .other
  else if atWord "break" ts then
    word "break"
    whenever atLifetime lifetime
    g.jumpValue braces
    return .other
  else if atWord "continue" ts then
    word "continue"
    whenever atLifetime lifetime
    return .other
  else if atAnyWord ["return", "yield", "become"] ts then
    let _ ← anyIdent
    g.jumpValue true
    return .other
  else if atOp ".." ts then
    range
    return .range
  else
    word "_"
    return .other

/-! ### What follows an atom -/

/-- A field, the call of a method, or waiting. -/
def selected : Parse Unit := do
  let ts ← ahead
  if atWord "await" ts then word "await"
  else
    member
    if atName ts then
      if atOp "::" (← ahead) then
        op "::"
        let _ ← g.arguments
        require (atGroup .parenthesis (← ahead))
      if atGroup .parenthesis (← ahead) then do
        let _ ← group .parenthesis (terminated g.value)

/-- What stands behind a dot. Numbers of fields with dots between them look like one number; behind such a
number that ends in a dot another selection follows. -/
def selection : Parse Unit := do
  op "."
  match ← ahead with
  | .literal t _ :: _ =>
    match splitAtDots t with
    | [_] => g.selected
    | parts =>
      let _ ← anyTree
      if parts.getLast? = some [] then
        require (parts.dropLast.all isIndex)
        g.selected
      else require (parts.all isIndex)
  | _ => g.selected

/-- Calls, selections, and what else is written behind an expression; whether there was any. -/
def trailers : Parse Bool := do
  let all ← collect do
    let ts ← ahead
    if atGroup .parenthesis ts then
      let _ ← group .parenthesis (terminated g.value)
      return some ()
    else if atOp "." ts && !atOp ".." ts then
      g.selection
      return some ()
    else if atGroup .bracket ts then
      group .bracket g.value
      return some ()
    else if ← op? "?" then return some ()
    else return none
  return !all.isEmpty

/-- A sign in front of an expression, or a pattern that it has to match; whether there was any. -/
def sign : Parse Bool := do
  g.attributes
  let ts ← ahead
  if atOp "&" ts then
    op "&"
    let ts ← ahead
    if atWord "raw" ts && atAnyWord ["mut", "const"] (behind ts) then
      word "raw"
      let _ ← anyIdent
    else do
      let _ ← word? "mut"
    return true
  else if atAnyOp ["*", "!", "-"] ts then
    let _ ← anyTree
    return true
  else if atWord "let" ts then
    word "let"
    g.alternatives
    op "="
    return true
  else return false

/-- An expression without operators between two values. -/
def operand (braces : Bool) (range : Parse Unit) : Parse Form := do
  let signs ← collect do
    if ← g.sign then return some () else return none
  let form ← g.atom braces range
  if form = .range then return .range
  else
    let trailed ← g.trailers
    return if trailed || !signs.isEmpty then .other else form

/-! ### Operators -/

/-- Operators that change a variable. -/
def assignments : List String := ["+=", "-=", "*=", "/=", "%=", "^=", "&=", "|=", "<<=", ">>="]

/-- Operators that compare. -/
def comparisons : List String := ["==", "<=", "!=", ">=", "<", ">"]

/-- Operators that compute. -/
def computations : List String := ["<<", ">>", "+", "-", "*", "/", "%", "^", "&", "|"]

/-- What may not follow a cast. -/
def atCastEnd (ts : List Tree) : Bool :=
  (atOp "." ts && !atOp ".." ts) || atOp "?" ts || atGroup .bracket ts || atGroup .parenthesis ts

/-- Whether a range has no end here. -/
def endsOpenRange (braces : Bool) (ts : List Tree) : Bool :=
  ts.isEmpty || atAnyOp [",", ";", "?", "=", "+", "/", "%", "^", ">"] ts ||
    (atOp "." ts && !atOp ".." ts) || (!braces && atGroup .brace ts) || atWord "as" ts

/-- The dots of a range; whether its end follows. Only a range without its end may be left open. -/
def rangeMark (braces : Bool) : Parse Bool := do
  require (!atOp "..." (← ahead))
  if ← op? "..=" then return true
  else
    op ".."
    return !endsOpenRange braces (← ahead)

/-- The operators behind an expression, and what they join it to. `ranged` says that it ends a range,
`compared` that it has been compared. -/
def operationsAtMost (braces : Bool) : Nat → (ranged compared : Bool) → Form → Parse Form
  | 0, _, _, _ => failure
  | n + 1, ranged, compared, form => do
    let rangeEnd : Parse Unit := do
      if ← rangeMark braces then
        let first ← g.operand braces failure
        let _ ← operationsAtMost braces n true false first
    let next (o : String) (compared : Bool) : Parse Form := do
      op o
      let _ ← g.operand braces rangeEnd
      operationsAtMost braces n ranged compared .other
    let ts ← ahead
    if form = .range then return .range
    else
      match assignments.find? fun o => atOp o ts with
      | some o => if ranged then return form else next o false
      | none =>
        match ["&&", "||"].find? fun o => atOp o ts with
        | some o => next o false
        | none =>
          match computations.find? fun o => atOp o ts with
          | some o => next o compared
          | none =>
            match comparisons.find? fun o => atOp o ts with
            | some o => if compared then failure else next o true
            | none =>
              if atOp "=" ts && !atOp "=>" ts then
                if ranged then return form else next "=" false
              else if atOp ".." ts then
                if ranged then return form
                else
                  rangeEnd
                  return .range
              else if atWord "as" ts then
                word "as"
                let _ ← g.type false
                require (!atCastEnd (← ahead))
                operationsAtMost braces n ranged compared .other
              else return form

/-- The operators behind an expression, and what they join it to. -/
def operations (braces : Bool) (form : Form) : Parse Form := do
  g.operationsAtMost braces ((← ahead).length + 1) false false form

/-- The end of a range without a beginning. -/
def rangeEnd (braces : Bool) : Parse Unit := do
  if ← rangeMark braces then
    let first ← g.operand braces failure
    let _ ← g.operationsAtMost braces ((← ahead).length + 1) true false first

/-- An expression. -/
def readExpression (braces : Bool) : Parse Form := do
  let form ← g.operand braces (g.rangeEnd braces)
  g.operations braces form

/-- An expression at the beginning of a statement or a branch: a block ends it, unless a selection
follows. -/
def readBoundary : Parse Form := do
  g.attributes
  if atBlock (← ahead) then
    g.blockExpression
    let ts ← ahead
    if (atOp "." ts && !atOp ".." ts) || atOp "?" ts then
      let _ ← g.trailers
      g.operations true .other
    else return .block
  else g.readExpression true

/-! ### Statements -/

/-- Whether an expression needs a semicolon before the next statement. -/
def needsSemicolon : Form → Bool
  | .block => false
  | .macroCall d => d ≠ .brace
  | _ => true

/-- Whether an item comes first, and no expression. -/
def atItem (ts : List Tree) : Bool :=
  let next := behind ts
  let third := behind next
  atAnyWord ["pub", "extern", "use", "fn", "mod", "type", "struct", "enum", "trait", "impl", "macro"]
      ts ||
    (atWord "crate" ts && !atOp "::" next) ||
    (atWord "static" ts && (atWord "mut" next || atName next)) ||
    (atWord "const" ts &&
      !(atGroup .brace next || atAnyWord ["static", "move"] next || atOp "|" next ||
        (atWord "async" next && !atAnyWord ["unsafe", "extern", "fn"] third))) ||
    (atWord "unsafe" ts && !atGroup .brace next) ||
    (atWord "async" ts && atAnyWord ["unsafe", "extern", "fn"] next) ||
    (atWord "union" ts && atName next) ||
    (atWord "auto" ts && atWord "trait" next) ||
    (atWord "default" ts && atAnyWord ["unsafe", "impl"] next)

/-- A variable with its pattern, and perhaps its type and value, and what happens if it does not
match. -/
def localVariable : Parse Unit := do
  word "let"
  g.pattern
  if ← op? ":" then do let _ ← g.type true
  if ← op? "=" then
    g.value
    if ← word? "else" then g.block
  op ";"

/-- The path of a macro that is called as a statement, if such a call comes first; whether it makes an
item. -/
def macroFront? (ts : List Tree) : Option Bool :=
  match plainPath.run ts with
  | some (_, rest) =>
    let named := behind rest
    let third := behind named
    if !atOp "!" rest then none
    else if atName named || atWord "try" named then some true
    else if atGroup .brace named && !(atOp "." third && !atOp ".." third) && !atOp "?" third then
      some false
    else none
  | none => none

/-- A statement; whether it needs a semicolon before the next one. -/
def statement : Parse Bool := do
  let ts ← leaving g.attributes
  match macroFront? ts with
  | some true =>
    let _ ← g.item
    return false
  | some false =>
    g.attributes
    let _ ← plainPath
    op "!"
    let _ ← anyGroup
    let _ ← op? ";"
    return false
  | none =>
    if atItem ts then
      let _ ← g.item
      return false
    else
      g.attributes
      if atWord "let" ts then
        g.localVariable
        return false
      else
        let form ← g.readBoundary
        if ← op? ";" then return false else return needsSemicolon form

/-- The statements of a block, to its end. -/
def readStatements : Parse Unit := do
  let _ ← toEnd do
    if !(← op? ";") then
      let open_ ← g.statement
      require (!open_ || (← ahead).isEmpty)

end Grammar

end RecordSql.Source
