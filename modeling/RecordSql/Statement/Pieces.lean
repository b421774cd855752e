import RecordSql.Piece
import RecordSql.Statement

/-!
# Pieces of statements

Statements as pieces of SQL text. The pieces follow the structure of a statement but for one step: a
reference to a field that is defined stands for the expression of its definition. That step is a
parameter of the structural part, and `expandWith` closes the circle a bounded number of times.

- `Frame`: the dialect, the registry, and the selects around what is written.
- `referencePieces`, `exprPieces`, `selectPieces`: references, expressions and selects.
- `statementPieces`: whole statements.
-/

namespace RecordSql

/-- What a part of a statement is written in. `selects` holds the selects around it with their
definitions, the innermost first; `unaliased` is the record whose table is known by its own name. -/
structure Frame where
  dialect : Dialect
  registry : Registry
  selects : List (RecordType × List Definition) := []
  unaliased : Option RecordType := none

/-- Why a column is written. In a projection overrides apply and what is substituted gets the name of
its field; in a key overrides apply; elsewhere neither does. -/
inductive ColumnUse
  | plain
  | key
  | projection
  deriving DecidableEq, Repr

/-- Pieces, or the reason why there are none. -/
abbrev Rendered := Except Error (List Piece)

namespace Frame

/-- The definition of a field in the innermost select of its record that has one. -/
def definition? (f : Frame) (record : RecordType) (field : String) : Option Definition :=
  f.selects.findSome? fun s =>
    if s.1 = record then s.2.find? fun d => d.field = field else none

/-- The label of a record's table: its name if it is written without alias, else its abbreviation. -/
def label (f : Frame) (t : RecordType) : Except Error TableLabel :=
  if f.unaliased = some t then (f.registry.tableName t).map .named
  else (f.registry.abbreviation t).map .abbreviation

/-- A record's table under its abbreviation. -/
def tablePiece (f : Frame) (r : RecordType) : Except Error Piece := do
  let t ← f.registry.tableOf r
  let name ← f.registry.tableName t
  return .table name (.abbreviation (← f.registry.abbreviation t))

end Frame

/-- Whether a definition replaces its field in some use. -/
def Definition.applies (use : ColumnUse) (d : Definition) : Bool :=
  d.kind = .definition || use != .plain

/-- The name that a substituted field gets. -/
def fieldAlias (use : ColumnUse) (field : String) : List Piece :=
  if use = .projection then [.word " as ", .ident field] else []

/-- A reference to a field: its definition, its literal SQL, or its column in the table that holds it. -/
def referencePieces (expand : Frame → Expr → Rendered) (f : Frame) (use : ColumnUse) (c : FieldRef) :
    Rendered :=
  match c.record with
  | none => .ok [.ident c.field]
  | some record => do
    let schema ← f.registry.schema record
    let field ← schema.getField c.field
    match (f.definition? record c.field).filter (Definition.applies use) with
    | some d => return (← expand f d.expr) ++ fieldAlias use c.field
    | none =>
      match field.literal with
      | some sql => return .verbatim sql :: fieldAlias use c.field
      | none =>
        match field.shadowOf <|> schema.tableOwner with
        | none => throw (.noDefinition record c.field)
        | some t =>
          let label ← match c.qualifier with
            | some a => pure (.named a)
            | none => f.label t
          return [.column label field.columnName]

/-! ### Keys and values -/

/-- Placeholders separated by commas. -/
def valueList (values : List Value) : List Piece :=
  separated ", " (values.map fun v => [.value v])

/-- One component of a key: an equation, or `is null`. -/
def componentPieces (expand : Frame → Expr → Rendered) (f : Frame) (record : RecordType)
    (field : String) (v : Value) : Rendered := do
  let column ← referencePieces expand f .key (.of record field)
  return column ++ if v.isNull then [Piece.word " is null"] else [Piece.word " = ", .value v]

/-- Components of a key. -/
def componentsPieces (expand : Frame → Expr → Rendered) (f : Frame) (record : RecordType)
    (components : List (String × Value)) : Except Error (List (List Piece)) :=
  components.mapM fun p => componentPieces expand f record p.1 p.2

/-- A key, in the order of the primary key. -/
def keyPieces (expand : Frame → Expr → Rendered) (f : Frame) (k : Key) : Rendered := do
  let primaryKey := (← f.registry.schema k.record).primaryKey
  let values ← k.valuesInOrder primaryKey
  return separated " and " (← componentsPieces expand f k.record (primaryKey.zip values))

/-- A key with a choice of values: the fixed components, then the varying one. -/
def multiKeyPieces (expand : Frame → Expr → Rendered) (f : Frame) (k : MultiKey) : Rendered := do
  let primaryKey := (← f.registry.schema k.record).primaryKey
  let values ← k.fixedInOrder primaryKey
  let fixed ← componentsPieces expand f k.record ((k.fixedFields primaryKey).zip values)
  let column ← referencePieces expand f .key (.of k.record k.field)
  return separated " and " (fixed ++ [column ++ .word " in (" :: valueList k.values ++ [Piece.word ")"]])

/-! ### Full text -/

/-- The column that holds the words of a full-text index. -/
def fullTextColumn (index : String) : String :=
  "ftsCol_" ++ index

/-- The columns of a full-text index. -/
def indexPieces (f : Frame) (schema : RecordSchema) (t : RecordType)
    (fields : List String) : Except Error (List (List Piece)) :=
  fields.mapM fun name => do
    let label ← f.label t
    let field ← schema.getField name
    return [.column label field.columnName]

/-- A match against a full-text index. -/
def fullTextPieces (f : Frame) (record : RecordType) (index query : String) : Rendered := do
  let schema ← f.registry.schema record
  match schema.fullTextIndex? index with
  | none => throw (.invalidSchema record.name (.noFullTextIndex index))
  | some i =>
    let t ← f.registry.tableOf record
    match f.dialect with
    | .mySql =>
      let columns ← indexPieces f schema t i.fields
      return .word "match(" :: separated ", " columns ++
        [Piece.word ") against (", .value (.string query), .word " in boolean mode)"]
    | .postgreSql =>
      let label ← f.label t
      return [.column label (fullTextColumn i.name), .word " @@ to_tsquery('default', ",
        .value (.string query), .word ")"]

/-! ### Projections, sources and limits -/

/-- Whether a field is part of a projection: an optional computed field only if something defines it. -/
def Frame.projects (f : Frame) (record : RecordType) (field : FieldSchema) : Bool :=
  !field.isOptional || field.literal.isSome || (f.definition? record field.name).isSome

/-- The fields that a select asks for. -/
def selectedFields (schema : RecordSchema) (names : List String) : Except Error (List FieldSchema) :=
  if names.isEmpty then .ok schema.fields else names.mapM schema.getField

/-- The projection of a select. -/
def projectionPieces (expand : Frame → Expr → Rendered) (f : Frame) (record : RecordType)
    (names : List String) : Rendered := do
  let fields ← selectedFields (← f.registry.schema record) names
  let items ← (fields.filter (f.projects record)).mapM fun field =>
    referencePieces expand f .projection (.of record field.name)
  return separated ", " items

/-- The tables that a select reads. -/
def sourcePieces (f : Frame) (record : RecordType) (sources : Option (List RecordType)) :
    Rendered := do
  let tables ← (sources.getD [record]).mapM f.tablePiece
  return separated ", " (tables.map fun t => [t])

/-- The table of a join, under its alias if it has one. -/
def joinTable (f : Frame) (record : RecordType) (tableAlias : Option String) : Except Error Piece := do
  let t ← f.registry.tableOf record
  let name ← f.registry.tableName t
  match tableAlias with
  | some a => return .table name (.named a)
  | none => return .table name (.abbreviation (← f.registry.abbreviation t))

/-- The greatest whole number that can be bound stands for all above it. -/
def boundedValue (n : UInt64) : Value :=
  .integer (Int64.ofNat (min n.toNat (Decimal.twoTo 63 - 1)))

/-- The limit of a select: the count before the offset. -/
def limitPieces (limit : Option Limit) : List Piece :=
  match limit with
  | none => []
  | some l =>
    [.clauseBreak, .word "limit ", .value (boundedValue l.count), .word " offset ",
      .value (boundedValue l.offset)]

/-- The lock on the rows of a select. -/
def lockPieces (forUpdate : Bool) : List Piece :=
  if forUpdate then [.clauseBreak, .word "for update"] else []

/-- The function that turns a timestamp into seconds. -/
def epochWord : Dialect → String
  | .mySql => "unix_timestamp("
  | .postgreSql => "extract(epoch from "

/-- Pieces between parentheses. -/
def parenthesized (ps : List Piece) : List Piece :=
  .word "(" :: ps ++ [Piece.word ")"]

/-! ### Expressions and selects -/

mutual

/-- An expression. Operands of binary operators get parentheses if they are compound, those of
junctions always. -/
def exprPieces (expand : Frame → Expr → Rendered) (f : Frame) : Expr → Rendered
  | .column c => referencePieces expand f .plain c
  | .literal sql => .ok [.verbatim sql]
  | .value v => .ok [.value v]
  | .call name args => do
    return .verbatim name :: parenthesized (separated ", " (← exprsPieces expand f args))
  | .epoch e => do
    return .word (epochWord f.dialect) :: (← exprPieces expand f e) ++ [Piece.word ")"]
  | .binary op l r => do
    let left ← exprPieces expand f l
    let right ← exprPieces expand f r
    return (if l.isInfix then parenthesized left else left) ++
      [Piece.word (" " ++ op.text ++ " ")] ++ (if r.isInfix then parenthesized right else right)
  | .junction op operands => do
    let items ← exprsPieces expand f operands
    return separated (" " ++ op.text ++ " ") (items.map parenthesized)
  | .not e => do
    return .word "not " :: parenthesized (← exprPieces expand f e)
  | .isNull c => do
    return (← referencePieces expand f .plain c) ++ [Piece.word " is null"]
  | .inList c values => do
    return (← referencePieces expand f .plain c) ++ .word " in (" :: valueList values ++ [Piece.word ")"]
  | .exists s => do
    return .openSelect :: (← selectPieces expand f s) ++ [Piece.closeSelect]
  | .fullText record index query => fullTextPieces f record index query

/-- Several expressions. -/
def exprsPieces (expand : Frame → Expr → Rendered) (f : Frame) :
    List Expr → Except Error (List (List Piece))
  | [] => .ok []
  | e :: es => do
    let first ← exprPieces expand f e
    return first :: (← exprsPieces expand f es)

/-- A condition with its keyword. -/
def conditionPieces (expand : Frame → Expr → Rendered) (f : Frame) : Condition → Rendered
  | .expr e => do return [Piece.clauseBreak, .word "where "] ++ (← exprPieces expand f e)
  | .key k => do return [Piece.clauseBreak, .word "where "] ++ (← keyPieces expand f k)
  | .multiKey k => do return [Piece.clauseBreak, .word "where "] ++ (← multiKeyPieces expand f k)

/-- Joins, each with its condition. -/
def joinPieces (expand : Frame → Expr → Rendered) (f : Frame) : List Join → Rendered
  | [] => .ok []
  | ⟨record, condition, kind, tableAlias⟩ :: js => do
    let table ← joinTable f record tableAlias
    let on ← exprPieces expand f condition
    return [Piece.clauseBreak, .word (kind.text ++ " "), table, .word " on "] ++ on ++
      (← joinPieces expand f js)

/-- The terms of an order. -/
def orderPieces (expand : Frame → Expr → Rendered) (f : Frame) :
    List OrderTerm → Except Error (List (List Piece))
  | [] => .ok []
  | ⟨e, direction⟩ :: ts => do
    let first ← exprPieces expand f e
    return (first ++ [Piece.word (" " ++ direction.text)]) :: (← orderPieces expand f ts)

/-- A select, in the order of SQL's clauses. Its definitions are in force for all of it. -/
def selectPieces (expand : Frame → Expr → Rendered) (f : Frame) : Select → Rendered
  | ⟨record, names, sources, joins, condition, groupBy, orderBy, limit, forUpdate, definitions⟩ => do
    let inner := { f with selects := (record, definitions) :: f.selects }
    if sources.isNone then
      discard <| f.registry.tableOf record
    let projection ← projectionPieces expand inner record names
    let tables ← sourcePieces inner record sources
    let joined ← joinPieces expand inner joins
    let condition ← match condition with
      | some c => conditionPieces expand inner c
      | none => pure []
    let groups ← match groupBy with
      | some es => do
        pure (.clauseBreak :: .word "group by " :: separated ", " (← exprsPieces expand inner es))
      | none => pure []
    let order ← match orderBy with
      | some ts => do
        pure (.clauseBreak :: .word "order by " :: separated ", " (← orderPieces expand inner ts))
      | none => pure []
    return .word "select " :: projection ++ [Piece.clauseBreak, .word "from "] ++ tables ++ joined ++
      condition ++ groups ++ order ++ limitPieces limit ++ lockPieces forUpdate

end

/-! ### Substituting definitions -/

/-- The pieces of an expression with definitions substituted up to some depth. -/
def expandWith : Nat → Frame → Expr → Rendered
  | 0, _, _ => .error .circularDefinition
  | n + 1, f, e => exprPieces (expandWith n) f e

mutual

/-- The number of definitions in an expression. -/
def Expr.definitionCount : Expr → Nat
  | .column _ | .literal _ | .value _ | .isNull _ | .inList _ _ | .fullText .. => 0
  | .call _ args => exprsDefinitionCount args
  | .epoch e | .not e => e.definitionCount
  | .binary _ l r => l.definitionCount + r.definitionCount
  | .junction _ operands => exprsDefinitionCount operands
  | .exists s => s.definitionCount

/-- The number of definitions in some expressions. -/
def exprsDefinitionCount : List Expr → Nat
  | [] => 0
  | e :: es => e.definitionCount + exprsDefinitionCount es

/-- The number of definitions in a condition. -/
def Condition.definitionCount : Condition → Nat
  | .expr e => e.definitionCount
  | .key _ | .multiKey _ => 0

/-- The number of definitions in join conditions. -/
def joinsDefinitionCount : List Join → Nat
  | [] => 0
  | ⟨_, condition, _, _⟩ :: js => condition.definitionCount + joinsDefinitionCount js

/-- The number of definitions in the terms of an order. -/
def orderDefinitionCount : List OrderTerm → Nat
  | [] => 0
  | ⟨e, _⟩ :: ts => e.definitionCount + orderDefinitionCount ts

/-- The number of definitions, with those inside of them. -/
def definitionsCount : List Definition → Nat
  | [] => 0
  | ⟨_, e, _⟩ :: ds => 1 + e.definitionCount + definitionsCount ds

/-- The number of definitions of a select and of the selects inside of it. -/
def Select.definitionCount : Select → Nat
  | ⟨_, _, _, joins, condition, groupBy, orderBy, _, _, definitions⟩ =>
    definitionsCount definitions + joinsDefinitionCount joins +
      (match condition with
        | some c => c.definitionCount
        | none => 0) +
      (match groupBy with
        | some es => exprsDefinitionCount es
        | none => 0) +
      (match orderBy with
        | some ts => orderDefinitionCount ts
        | none => 0)

end

/-- How deep definitions are substituted when there are `n` of them. What a definition comes to depends on
which of them are in force where it is substituted, for which there are `2 ^ n` choices at most. A chain that
meets a definition twice under the same choice never ends, so that all others are no longer than `n * 2 ^ n`;
a free-standing expression takes one more step. -/
def expansionDepth (n : Nat) : Nat :=
  n * Decimal.twoTo n + 1

/-! ### Statements -/

/-- A free-standing expression. -/
def freeExprPieces (dialect : Dialect) (g : Registry) (e : Expr) : Rendered :=
  expandWith (expansionDepth e.definitionCount) { dialect := dialect, registry := g } e

/-- A select statement. -/
def selectStatementPieces (f : Frame) (s : Select) : Rendered :=
  selectPieces (expandWith (expansionDepth s.definitionCount)) f s

/-- The value slot of a column in an insert: `default` for what the database fills in, else the first
value of the field. -/
def insertSlot (i : Insert) (identity : List String) (field : FieldSchema) :
    Except Error (List Piece) :=
  if identity.contains field.name then .ok [.word "default"]
  else
    match i.values.value? field.name with
    | some v => .ok [.value v]
    | none => .error (.missingValue i.record field.name)

/-- An insert of one row. -/
def insertPieces (f : Frame) (i : Insert) : Rendered := do
  let schema ← f.registry.schema i.record
  match schema.table with
  | none => throw (.invalidSchema i.record.name .insertsComputed)
  | some table =>
    let slots ← schema.storedFields.mapM
      (insertSlot i (i.identityFields ++ schema.identityFields))
    return [Piece.word "insert into ", .ident table, .word " ("] ++
      separated ", " (schema.storedFields.map fun c => [.ident c.columnName]) ++
      [Piece.word ")", .clauseBreak, .word "values ("] ++ separated ", " slots ++ [Piece.word ")"]

/-- One assignment of an update. -/
def assignmentPieces (expand : Frame → Expr → Rendered) (f : Frame) (record : RecordType)
    (schema : RecordSchema) (name : String) (e : Expr) : Rendered := do
  let field ← schema.getField name
  if field.isComputed then throw (.invalidDefinition record name .assignsComputed)
  return [Piece.ident field.columnName, .word " = "] ++ (← exprPieces expand f e)

/-- The number of definitions in an optional condition. -/
def conditionDefinitionCount : Option Condition → Nat
  | some c => c.definitionCount
  | none => 0

/-- An update of one table. -/
def updatePieces (f : Frame) (u : Update) : Rendered := do
  match u.condition with
  | none => throw (.missingWhere u.record)
  | some condition =>
    if u.assignments.isEmpty then throw (.unsupported (.emptyUpdate u.record))
    let expand := expandWith (expansionDepth
      (exprsDefinitionCount (u.assignments.map (·.2)) + condition.definitionCount))
    let schema ← f.registry.schema u.record
    match schema.table with
    | none => throw (.invalidSchema u.record.name .updatesComputed)
    | some table =>
      let n ← f.registry.abbreviation u.record
      let assignments ← u.assignments.mapM fun a =>
        assignmentPieces expand f u.record schema a.1 a.2
      return [Piece.word "update ", .table table (.abbreviation n), .clauseBreak, .word "set "] ++
        separated ", " assignments ++ (← conditionPieces expand f condition)

/-- A delete from one table. Where it can have no alias its columns are written under its own name. -/
def deletePieces (f : Frame) (d : Delete) : Rendered := do
  let expand := expandWith (expansionDepth d.condition.definitionCount)
  match (← f.registry.schema d.record).table with
  | none => throw (.invalidSchema d.record.name .deletesComputed)
  | some table =>
    if f.dialect.deleteTakesAlias then
      let n ← f.registry.abbreviation d.record
      return [Piece.word "delete from ", .table table (.abbreviation n)] ++
        (← conditionPieces expand f d.condition)
    else
      return [Piece.word "delete from ", .ident table] ++
        (← conditionPieces expand { f with unaliased := some d.record } d.condition)

/-- A statement. -/
def statementPieces (dialect : Dialect) (g : Registry) : Statement → Rendered
  | .select s => selectStatementPieces { dialect := dialect, registry := g } s
  | .insert i => insertPieces { dialect := dialect, registry := g } i
  | .update u => updatePieces { dialect := dialect, registry := g } u
  | .delete d => deletePieces { dialect := dialect, registry := g } d

end RecordSql
