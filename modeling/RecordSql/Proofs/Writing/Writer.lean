import RecordSql.Compile
import RecordSql.Proofs.Rendering.Parts

/-!
# Writing statements with switches

Here statements are written step by step to one state: text goes to the end of an output, values to the end
of a list of parameters. What a reference is written for is not known where it is written; two switches tell
whether overrides apply and whether what is substituted gets the name of its field. A part that sets the
switches, opens a select or indents has to put everything back. The state remembers each part with the stance
of the writer in front of it and behind it.

- `Writer`, `Writing`: the state, and steps that may fail and keep the state all the same.
- `within`: a part that is written in a changed state; `switched` sets the switches, `inSelect` opens a
  select.
- `passage`: a part that is remembered.
- `writeReference`, `writeExpr`, `writeSelect`: references, expressions and selects.
- `writeStatement`, `writeFreeExpr`: whole statements and free-standing expressions.
-/

namespace RecordSql

/-- What has to be the same behind a part as in front of it: the switches, the selects that are being written
and the number of sub-selects around. -/
structure Stance where
  overrides : Bool
  aliasing : Bool
  selects : List (RecordType × List Definition)
  depth : Nat

/-- A part that has been written: whether it is an expression, the stance in front of it and, unless it has
failed, the stance behind it. -/
structure Passage where
  ofExpr : Bool
  before : Stance
  after : Option Stance

/-- The state of a writer. -/
structure Writer where
  options : Options
  registry : Registry
  output : String := ""
  parameters : Parameters := []
  /-- The number of sub-selects around what comes next. -/
  depth : Nat := 0
  /-- The selects that are being written with their definitions, the innermost first. -/
  selects : List (RecordType × List Definition) := []
  /-- Whether overrides apply to references. -/
  overrides : Bool := false
  /-- Whether what is substituted gets the name of its field. -/
  aliasing : Bool := false
  unaliased : Option RecordType := none
  /-- The parts so far, in the order in which they have ended. -/
  passages : List Passage := []

/-- Steps of a writer; a failure keeps the state reached so far. -/
abbrev Writing := EStateM Error Writer

namespace Writer

/-- A writer that has written nothing. -/
def start (options : Options) (g : Registry) : Writer where
  options := options
  registry := g

/-- What is looked up where a writer stands. -/
def frame (w : Writer) : Frame where
  dialect := w.options.dialect
  registry := w.registry
  selects := w.selects
  unaliased := w.unaliased

/-- The stance of a writer. -/
def stance (w : Writer) : Stance where
  overrides := w.overrides
  aliasing := w.aliasing
  selects := w.selects
  depth := w.depth

/-- Whether a definition replaces its field: an override does where overrides are switched on. -/
def applies (w : Writer) (d : Definition) : Bool :=
  d.kind = .definition || w.overrides

/-- The text and parameters that have been written. -/
def compiled (w : Writer) : Compiled where
  sql := w.output
  parameters := w.parameters

end Writer

/-! ### Steps -/

/-- Appends a text. -/
def write (s : String) : Writing Unit :=
  modify fun w => { w with output := w.output ++ s }

/-- Appends an identifier. -/
def writeIdent (name : String) : Writing Unit :=
  modify fun w => { w with output := w.output ++ w.options.dialect.quote name }

/-- Appends a placeholder and binds its value. -/
def writeValue (v : Value) : Writing Unit :=
  modify fun w => { w with output := w.output ++ "?", parameters := w.parameters ++ [v] }

/-- A break in front of a clause. -/
def breakClause : Writing Unit :=
  modify fun w => { w with output := w.output ++ w.options.layout.clauseBreak w.depth }

/-- A break at either end of a sub-select. -/
def breakSelect : Writing Unit :=
  modify fun w => { w with output := w.output ++ w.options.layout.selectBreak w.depth }

/-- What comes next is inside of one more sub-select. -/
def indent : Writing Unit :=
  modify fun w => { w with depth := w.depth + 1 }

/-- What comes next is inside of one sub-select less. -/
def dedent : Writing Unit :=
  modify fun w => { w with depth := w.depth - 1 }

/-- The beginning of a sub-select. -/
def openSelect : Writing Unit := do
  write "exists ("
  indent
  breakSelect

/-- The end of a sub-select. -/
def closeSelect : Writing Unit := do
  dedent
  breakSelect
  write ")"

/-- Looks something up where the writer stands. -/
def look {α : Type} (lookup : Frame → Except Error α) : Writing α := do
  MonadExcept.ofExcept (lookup (← get).frame)

/-- Writes a part in a changed state, and puts back what has been changed, after a failure too. -/
def within (change : Writer → Writer) (restore : Writer → Writer → Writer) (part : Writing Unit) :
    Writing Unit := fun w =>
  match part (change w) with
  | .ok _ w' => .ok () (restore w w')
  | .error e w' => .error e (restore w w')

/-- Writes a part with the switches set. -/
def switched (overrides aliasing : Bool) : Writing Unit → Writing Unit :=
  within (fun w => { w with overrides := overrides, aliasing := aliasing })
    fun w w' => { w' with overrides := w.overrides, aliasing := w.aliasing }

/-- Writes a part inside of a select. -/
def inSelect (record : RecordType) (definitions : List Definition) : Writing Unit → Writing Unit :=
  within (fun w => { w with selects := (record, definitions) :: w.selects })
    fun _ w' => { w' with selects := w'.selects.tail }

/-- Writes a part in which a table is known by its own name. -/
def withoutAlias (record : RecordType) : Writing Unit → Writing Unit :=
  within (fun w => { w with unaliased := some record }) fun _ w' => { w' with unaliased := none }

/-- Writes a part and remembers it. -/
def passage (ofExpr : Bool) (part : Writing Unit) : Writing Unit := fun w =>
  match part w with
  | .ok _ w' => .ok () { w' with passages := w'.passages ++ [⟨ofExpr, w.stance, some w'.stance⟩] }
  | .error e w' => .error e { w' with passages := w'.passages ++ [⟨ofExpr, w.stance, none⟩] }

/-- Writes several parts with a word between any two. -/
def writeSeparated (separator : String) : List (Writing Unit) → Writing Unit
  | [] => pure ()
  | [part] => part
  | part :: parts => do
    part
    write separator
    writeSeparated separator parts

/-! ### Names and values -/

/-- The label of a table. -/
def writeLabel : TableLabel → Writing Unit
  | .abbreviation n => write (abbreviationText n)
  | .named name => writeIdent name

/-- A table with its label. -/
def writeTable (name : String) (label : TableLabel) : Writing Unit := do
  writeIdent name
  write " as "
  writeLabel label

/-- A column of a table. -/
def writeColumn (label : TableLabel) (name : String) : Writing Unit := do
  writeLabel label
  write "."
  writeIdent name

/-- The name that a substituted field gets. -/
def writeFieldAlias (aliasing : Bool) (field : String) : Writing Unit := do
  if aliasing then
    write " as "
    writeIdent field

/-- Placeholders separated by commas. -/
def writeValues (values : List Value) : Writing Unit :=
  writeSeparated ", " (values.map writeValue)

/-- A record without table needs other sources. -/
def lookReadable (record : RecordType) (sources : Option (List RecordType)) : Writing Unit := do
  if sources.isNone then
    let _ ← look fun f => f.registry.tableOf record

/-- The table of a record under its abbreviation. -/
def writeSource (r : RecordType) : Writing Unit :=
  passage false do
    let t ← look fun f => f.registry.tableOf r
    let name ← look fun f => f.registry.tableName t
    let n ← look fun f => f.registry.abbreviation t
    writeTable name (.abbreviation n)

/-- A match against a full-text index. -/
def writeFullText (record : RecordType) (index query : String) : Writing Unit :=
  passage false do
    let schema ← look fun f => f.registry.schema record
    match schema.fullTextIndex? index with
    | none => throw (.invalidSchema record.name (.noFullTextIndex index))
    | some i =>
      let t ← look fun f => f.registry.tableOf record
      match (← get).options.dialect with
      | .mySql =>
        write "match("
        writeSeparated ", " (i.fields.map fun name => do
          let label ← look fun f => f.label t
          let field ← look fun _ => schema.getField name
          writeColumn label field.columnName)
        write ") against ("
        writeValue (.string query)
        write " in boolean mode)"
      | .postgreSql =>
        let label ← look fun f => f.label t
        writeColumn label (fullTextColumn i.name)
        write " @@ to_tsquery('default', "
        writeValue (.string query)
        write ")"

/-- The limit of a select. -/
def writeLimit : Option Limit → Writing Unit
  | none => pure ()
  | some l => do
    breakClause
    write "limit "
    writeValue (boundedValue l.count)
    write " offset "
    writeValue (boundedValue l.offset)

/-- The lock on the rows of a select. -/
def writeLock (forUpdate : Bool) : Writing Unit := do
  if forUpdate then
    breakClause
    write "for update"

/-! ### References and keys -/

section Parts

variable (fill : Expr → Writing Unit)

/-- A reference to a field. Its definition is written with both switches off. -/
def writeReference (c : FieldRef) : Writing Unit :=
  passage false do
    match c.record with
    | none => writeIdent c.field
    | some record =>
      let schema ← look fun f => f.registry.schema record
      let field ← look fun _ => schema.getField c.field
      let w ← get
      match (w.frame.definition? record c.field).filter w.applies with
      | some d =>
        switched false false (fill d.expr)
        writeFieldAlias w.aliasing c.field
      | none =>
        match field.literal with
        | some sql =>
          write sql
          writeFieldAlias w.aliasing c.field
        | none =>
          match field.shadowOf <|> schema.tableOwner with
          | none => throw (.noDefinition record c.field)
          | some t =>
            match c.qualifier with
            | some a => writeColumn (.named a) field.columnName
            | none =>
              let label ← look fun f => f.label t
              writeColumn label field.columnName

/-- One component of a key. -/
def writeComponent (record : RecordType) (field : String) (v : Value) : Writing Unit :=
  passage false do
    writeReference fill (.of record field)
    if v.isNull then write " is null"
    else
      write " = "
      writeValue v

/-- A key. Overrides apply in it. -/
def writeKey (k : Key) : Writing Unit :=
  passage false do
    let schema ← look fun f => f.registry.schema k.record
    let values ← look fun _ => k.valuesInOrder schema.primaryKey
    switched true false (writeSeparated " and " ((schema.primaryKey.zip values).map fun c =>
      writeComponent fill k.record c.1 c.2))

/-- A key with a choice of values. -/
def writeMultiKey (k : MultiKey) : Writing Unit :=
  passage false do
    let schema ← look fun f => f.registry.schema k.record
    let values ← look fun _ => k.fixedInOrder schema.primaryKey
    switched true false do
      ((k.fixedFields schema.primaryKey).zip values).forM fun c => do
        writeComponent fill k.record c.1 c.2
        write " and "
      writeReference fill (.of k.record k.field)
      write " in ("
      writeValues k.values
      write ")"

/-- The projection of a select. Overrides apply in it, and what is substituted gets the name of its field. -/
def writeProjection (record : RecordType) (names : List String) : Writing Unit :=
  passage false do
    let schema ← look fun f => f.registry.schema record
    let fields ← look fun _ => selectedFields schema names
    let w ← get
    switched true true (writeSeparated ", " ((fields.filter (w.frame.projects record)).map fun field =>
      writeReference fill (.of record field.name)))

/-- An operand, in parentheses if it is compound. -/
def writeOperand (compound : Bool) (part : Writing Unit) : Writing Unit :=
  passage false do
    if compound then
      write "("
      part
      write ")"
    else part

/-- A join up to its condition. -/
def writeJoined (record : RecordType) (kind : JoinKind) (tableAlias : Option String) : Writing Unit := do
  breakClause
  write (kind.text ++ " ")
  let t ← look fun f => f.registry.tableOf record
  let name ← look fun f => f.registry.tableName t
  match tableAlias with
  | some a => writeTable name (.named a)
  | none =>
    let n ← look fun f => f.registry.abbreviation t
    writeTable name (.abbreviation n)
  write " on "

/-! ### Expressions and selects -/

mutual

/-- An expression. -/
def writeExpr : Expr → Writing Unit
  | .column c => passage true (writeReference fill c)
  | .literal sql => passage true (write sql)
  | .value v => passage true (writeValue v)
  | .call name args => passage true do
    write name
    write "("
    writeSeparated ", " (writeExprs args)
    write ")"
  | .epoch e => passage true do
    write (epochWord (← get).options.dialect)
    writeExpr e
    write ")"
  | .binary op l r => passage true do
    writeOperand l.isInfix (writeExpr l)
    write (" " ++ op.text ++ " ")
    writeOperand r.isInfix (writeExpr r)
  | .junction op operands => passage true do
    writeSeparated (" " ++ op.text ++ " ") ((writeExprs operands).map fun operand => do
      write "("
      operand
      write ")")
  | .not e => passage true do
    write "not "
    write "("
    writeExpr e
    write ")"
  | .isNull c => passage true do
    writeReference fill c
    write " is null"
  | .inList c values => passage true do
    writeReference fill c
    write " in ("
    writeValues values
    write ")"
  | .exists s => passage true do
    openSelect
    writeSelect s
    closeSelect
  | .fullText record index query => passage true (writeFullText record index query)

/-- Several expressions. -/
def writeExprs : List Expr → List (Writing Unit)
  | [] => []
  | e :: es => writeExpr e :: writeExprs es

/-- A condition with its keyword. -/
def writeCondition : Condition → Writing Unit
  | .expr e => passage false do
    breakClause
    write "where "
    writeExpr e
  | .key k => passage false do
    breakClause
    write "where "
    writeKey fill k
  | .multiKey k => passage false do
    breakClause
    write "where "
    writeMultiKey fill k

/-- Joins, each with its condition. -/
def writeJoins : List Join → Writing Unit
  | [] => pure ()
  | ⟨record, condition, kind, tableAlias⟩ :: js => do
    writeJoined record kind tableAlias
    writeExpr condition
    writeJoins js

/-- The terms of an order. -/
def writeOrder : List OrderTerm → List (Writing Unit)
  | [] => []
  | ⟨e, direction⟩ :: ts =>
    (do
      writeExpr e
      write (" " ++ direction.text)) :: writeOrder ts

/-- A select. -/
def writeSelect : Select → Writing Unit
  | ⟨record, names, sources, joins, condition, groupBy, orderBy, limit, forUpdate, definitions⟩ =>
    passage false (inSelect record definitions do
      lookReadable record sources
      write "select "
      writeProjection fill record names
      breakClause
      write "from "
      writeSeparated ", " ((sources.getD [record]).map writeSource)
      writeJoins joins
      match condition with
      | some c => writeCondition c
      | none => pure ()
      match groupBy with
      | some es =>
        breakClause
        write "group by "
        writeSeparated ", " (writeExprs es)
      | none => pure ()
      match orderBy with
      | some ts =>
        breakClause
        write "order by "
        writeSeparated ", " (writeOrder ts)
      | none => pure ()
      writeLimit limit
      writeLock forUpdate)

end

end Parts

/-- An expression with definitions filled in up to some depth. -/
def writeWith : Nat → Expr → Writing Unit
  | 0, _ => throw .circularDefinition
  | n + 1, e => writeExpr (writeWith n) e

/-! ### Statements -/

/-- The value slot of a column in an insert. -/
def writeSlot (i : Insert) (identity : List String) (field : FieldSchema) : Writing Unit := do
  if identity.contains field.name then write "default"
  else
    match i.values.value? field.name with
    | some v => writeValue v
    | none => throw (.missingValue i.record field.name)

/-- An insert of one row. -/
def writeInsert (i : Insert) : Writing Unit :=
  passage false do
    let schema ← look fun f => f.registry.schema i.record
    match schema.table with
    | none => throw (.invalidSchema i.record.name .insertsComputed)
    | some table =>
      write "insert into "
      writeIdent table
      write " ("
      writeSeparated ", " (schema.storedFields.map fun c => writeIdent c.columnName)
      write ")"
      breakClause
      write "values ("
      writeSeparated ", " (schema.storedFields.map (writeSlot i (i.identityFields ++ schema.identityFields)))
      write ")"

/-- One assignment of an update. -/
def writeAssignment (fill : Expr → Writing Unit) (record : RecordType) (schema : RecordSchema)
    (name : String) (e : Expr) : Writing Unit := do
  let field ← look fun _ => schema.getField name
  if field.isComputed then throw (.invalidDefinition record name .assignsComputed)
  writeIdent field.columnName
  write " = "
  writeExpr fill e

/-- An update of one table. -/
def writeUpdate (u : Update) : Writing Unit :=
  passage false do
    match u.condition with
    | none => throw (.missingWhere u.record)
    | some condition =>
      if u.assignments.isEmpty then throw (.unsupported (.emptyUpdate u.record))
      let fill := writeWith (expansionDepth
        (exprsDefinitionCount (u.assignments.map (·.2)) + condition.definitionCount))
      let schema ← look fun f => f.registry.schema u.record
      match schema.table with
      | none => throw (.invalidSchema u.record.name .updatesComputed)
      | some table =>
        let n ← look fun f => f.registry.abbreviation u.record
        write "update "
        writeTable table (.abbreviation n)
        breakClause
        write "set "
        writeSeparated ", " (u.assignments.map fun a => writeAssignment fill u.record schema a.1 a.2)
        writeCondition fill condition

/-- A delete from one table. -/
def writeDelete (d : Delete) : Writing Unit :=
  passage false do
    let fill := writeWith (expansionDepth d.condition.definitionCount)
    let schema ← look fun f => f.registry.schema d.record
    match schema.table with
    | none => throw (.invalidSchema d.record.name .deletesComputed)
    | some table =>
      if (← get).options.dialect.deleteTakesAlias then
        let n ← look fun f => f.registry.abbreviation d.record
        write "delete from "
        writeTable table (.abbreviation n)
        writeCondition fill d.condition
      else
        write "delete from "
        writeIdent table
        withoutAlias d.record (writeCondition fill d.condition)

/-- A statement. -/
def writeStatement : Statement → Writing Unit
  | .select s => writeSelect (writeWith (expansionDepth s.definitionCount)) s
  | .insert i => writeInsert i
  | .update u => writeUpdate u
  | .delete d => writeDelete d

/-- A free-standing expression. -/
def writeFreeExpr (e : Expr) : Writing Unit :=
  writeWith (expansionDepth e.definitionCount) e

end RecordSql
