import RecordSql.Compile
import RecordSql.Proofs.Rendering.Nesting
import RecordSql.Proofs.Rendering.Parts

/-!
# Statements with their values in place

Here statements are written as one text, each bound value printed where it stands, and there is neither
a placeholder nor a list of parameters.

- `Printer`: how values are printed and clauses are laid out.
- `exprText`, `selectText`: the text of expressions and selects.
- `statementText`, `freeExprText`: the text of whole statements and of free-standing expressions.
- `writeInPlace`, `writeExpressionInPlace`: the same in a session, records registered and references
  checked as for compiling.
-/

namespace RecordSql

/-- How values are printed and clauses are laid out. -/
structure Printer where
  print : Value → String
  layout : Layout

/-- A text, or the reason why there is none. -/
abbrev Printed := Except Error String

section Text

variable (p : Printer) (expand : Frame → Nat → Expr → Printed) (f : Frame) (depth : Nat)

/-- The name that a substituted field gets. -/
def aliasText (use : ColumnUse) (field : String) : String :=
  if use = .projection then " as " ++ f.dialect.quote field else ""

/-- The text of what a reference stands for. -/
def Resolved.text (use : ColumnUse) (field : String) : Resolved → Printed
  | .name n => .ok (f.dialect.quote n)
  | .definition d => do return (← expand f depth d.expr) ++ aliasText f use field
  | .literal sql => .ok (sql ++ aliasText f use field)
  | .column label n => .ok (label.text f.dialect ++ "." ++ f.dialect.quote n)

/-- A reference to a field. -/
def referenceText (use : ColumnUse) (c : FieldRef) : Printed := do
  (← f.resolve use c).text expand f depth use c.field

/-- Values separated by commas. -/
def valuesText (values : List Value) : String :=
  ", ".intercalate (values.map p.print)

/-- One component of a key. -/
def componentText (record : RecordType) (field : String) (v : Value) : Printed := do
  let column ← referenceText expand f depth .key (.of record field)
  return column ++ if v.isNull then " is null" else " = " ++ p.print v

/-- A key. -/
def keyText (k : Key) : Printed := do
  let primaryKey := (← f.registry.schema k.record).primaryKey
  let values ← k.valuesInOrder primaryKey
  let components ← (primaryKey.zip values).mapM fun c =>
    componentText p expand f depth k.record c.1 c.2
  return " and ".intercalate components

/-- A key with a choice of values. -/
def multiKeyText (k : MultiKey) : Printed := do
  let primaryKey := (← f.registry.schema k.record).primaryKey
  let values ← k.fixedInOrder primaryKey
  let components ← ((k.fixedFields primaryKey).zip values).mapM fun c =>
    componentText p expand f depth k.record c.1 c.2
  let column ← referenceText expand f depth .key (.of k.record k.field)
  return " and ".intercalate (components ++ [column ++ (" in (" ++ valuesText p k.values) ++ ")"])

/-- The columns of a full-text index. -/
def indexText (schema : RecordSchema) (t : RecordType) (fields : List String) :
    Except Error (List String) :=
  fields.mapM fun name => do
    let label ← f.label t
    let field ← schema.getField name
    return label.text f.dialect ++ "." ++ f.dialect.quote field.columnName

/-- A match against a full-text index. -/
def fullTextText (record : RecordType) (index query : String) : Printed := do
  let schema ← f.registry.schema record
  match schema.fullTextIndex? index with
  | none => throw (.invalidSchema record.name (.noFullTextIndex index))
  | some i =>
    let t ← f.registry.tableOf record
    match f.dialect with
    | .mySql =>
      let columns ← indexText f schema t i.fields
      return "match(" ++ ", ".intercalate columns ++
        (") against (" ++ (p.print (.string query) ++ " in boolean mode)"))
    | .postgreSql =>
      let label ← f.label t
      return (label.text f.dialect ++ "." ++ f.dialect.quote (fullTextColumn i.name)) ++
        (" @@ to_tsquery('default', " ++ (p.print (.string query) ++ ")"))

/-- The projection of a select. -/
def projectionText (record : RecordType) (names : List String) : Printed := do
  let fields ← selectedFields (← f.registry.schema record) names
  let items ← (fields.filter (f.projects record)).mapM fun field =>
    referenceText expand f depth .projection (.of record field.name)
  return ", ".intercalate items

/-- A record's table under its abbreviation. -/
def tableText (r : RecordType) : Printed := do
  let t ← f.registry.tableOf r
  let name ← f.registry.tableName t
  return f.dialect.quote name ++ " as " ++ abbreviationText (← f.registry.abbreviation t)

/-- The tables that a select reads. -/
def sourceText (record : RecordType) (sources : Option (List RecordType)) : Printed := do
  return ", ".intercalate (← (sources.getD [record]).mapM (tableText f))

/-- The table of a join. -/
def joinTableText (record : RecordType) (tableAlias : Option String) : Printed := do
  let t ← f.registry.tableOf record
  let name ← f.registry.tableName t
  match tableAlias with
  | some a => return f.dialect.quote name ++ " as " ++ f.dialect.quote a
  | none => return f.dialect.quote name ++ " as " ++ abbreviationText (← f.registry.abbreviation t)

/-- The limit of a select. -/
def limitText : Option Limit → String
  | none => ""
  | some l =>
    p.layout.clauseBreak depth ++ ("limit " ++ (p.print (boundedValue l.count) ++
      (" offset " ++ p.print (boundedValue l.offset))))

/-- The lock on the rows of a select. -/
def lockText (forUpdate : Bool) : String :=
  if forUpdate then p.layout.clauseBreak depth ++ "for update" else ""

/-- A text between parentheses. -/
def parenthesizedText (t : String) : String :=
  "(" ++ t ++ ")"

end Text

section Expressions

variable (p : Printer) (expand : Frame → Nat → Expr → Printed)

mutual

/-- An expression with its values in place, inside of `depth` sub-selects. -/
def exprText (f : Frame) (depth : Nat) : Expr → Printed
  | .column c => referenceText expand f depth .plain c
  | .literal sql => .ok sql
  | .value v => .ok (p.print v)
  | .call name args => do
    return name ++ parenthesizedText (", ".intercalate (← exprTexts f depth args))
  | .epoch e => do
    return epochWord f.dialect ++ (← exprText f depth e) ++ ")"
  | .binary op l r => do
    let left ← exprText f depth l
    let right ← exprText f depth r
    return (if l.isInfix then parenthesizedText left else left) ++ (" " ++ op.text ++ " ") ++
      (if r.isInfix then parenthesizedText right else right)
  | .junction op operands => do
    let items ← exprTexts f depth operands
    return (" " ++ op.text ++ " ").intercalate (items.map parenthesizedText)
  | .not e => do
    return "not " ++ parenthesizedText (← exprText f depth e)
  | .isNull c => do
    return (← referenceText expand f depth .plain c) ++ " is null"
  | .inList c values => do
    return (← referenceText expand f depth .plain c) ++ (" in (" ++ valuesText p values) ++ ")"
  | .exists s => do
    let inner ← selectText f (depth + 1) s
    return "exists (" ++ p.layout.selectBreak (depth + 1) ++ inner ++
      (p.layout.selectBreak depth ++ ")")
  | .fullText record index query => fullTextText p f record index query

/-- Several expressions. -/
def exprTexts (f : Frame) (depth : Nat) : List Expr → Except Error (List String)
  | [] => .ok []
  | e :: es => do return (← exprText f depth e) :: (← exprTexts f depth es)

/-- A condition with its keyword. -/
def conditionText (f : Frame) (depth : Nat) : Condition → Printed
  | .expr e => do return p.layout.clauseBreak depth ++ "where " ++ (← exprText f depth e)
  | .key k => do return p.layout.clauseBreak depth ++ "where " ++ (← keyText p expand f depth k)
  | .multiKey k => do
    return p.layout.clauseBreak depth ++ "where " ++ (← multiKeyText p expand f depth k)

/-- Joins, each with its condition. -/
def joinText (f : Frame) (depth : Nat) : List Join → Printed
  | [] => .ok ""
  | ⟨record, condition, kind, tableAlias⟩ :: js => do
    let table ← joinTableText f record tableAlias
    let on ← exprText f depth condition
    return p.layout.clauseBreak depth ++ (kind.text ++ " " ++ (table ++ " on ")) ++ on ++
      (← joinText f depth js)

/-- The terms of an order. -/
def termTexts (f : Frame) (depth : Nat) : List OrderTerm → Except Error (List String)
  | [] => .ok []
  | ⟨e, direction⟩ :: ts => do
    return ((← exprText f depth e) ++ (" " ++ direction.text)) :: (← termTexts f depth ts)

/-- A select inside of `depth` sub-selects. -/
def selectText (f : Frame) (depth : Nat) : Select → Printed
  | ⟨record, names, sources, joins, condition, groupBy, orderBy, limit, forUpdate, definitions⟩ => do
    let inner := { f with selects := (record, definitions) :: f.selects }
    if sources.isNone then
      discard <| f.registry.tableOf record
    let projection ← projectionText expand inner depth record names
    let tables ← sourceText inner record sources
    let joined ← joinText inner depth joins
    let condition ← match condition with
      | some c => conditionText inner depth c
      | none => pure ""
    let groups ← match groupBy with
      | some es => do
        pure (p.layout.clauseBreak depth ++
          ("group by " ++ ", ".intercalate (← exprTexts inner depth es)))
      | none => pure ""
    let order ← match orderBy with
      | some ts => do
        pure (p.layout.clauseBreak depth ++
          ("order by " ++ ", ".intercalate (← termTexts inner depth ts)))
      | none => pure ""
    return "select " ++ projection ++ (p.layout.clauseBreak depth ++ "from ") ++ tables ++
      joined ++ condition ++ groups ++ order ++ limitText p depth limit ++
      lockText p depth forUpdate

end

/-- The text of an expression with definitions substituted up to some depth. -/
def expandText : Nat → Frame → Nat → Expr → Printed
  | 0, _, _, _ => .error .circularDefinition
  | n + 1, f, depth, e => exprText p (expandText n) f depth e

end Expressions

/-! ### Statements -/

section Statements

variable (p : Printer) (f : Frame)

/-- The value slot of a column in an insert. -/
def slotText (i : Insert) (identity : List String) (field : FieldSchema) : Printed :=
  if identity.contains field.name then .ok "default"
  else
    match i.values.value? field.name with
    | some v => .ok (p.print v)
    | none => .error (.missingValue i.record field.name)

/-- An insert of one row. -/
def insertText (i : Insert) : Printed := do
  let schema ← f.registry.schema i.record
  match schema.table with
  | none => throw (.invalidSchema i.record.name .insertsComputed)
  | some table =>
    let slots ← schema.storedFields.mapM
      (slotText p i (i.identityFields ++ schema.identityFields))
    return "insert into " ++ (f.dialect.quote table ++ " (") ++
      ", ".intercalate (schema.storedFields.map fun c => f.dialect.quote c.columnName) ++
      (")" ++ (p.layout.clauseBreak 0 ++ "values (")) ++ ", ".intercalate slots ++ ")"

/-- One assignment of an update. -/
def assignmentText (expand : Frame → Nat → Expr → Printed) (record : RecordType)
    (schema : RecordSchema) (name : String) (e : Expr) : Printed := do
  let field ← schema.getField name
  if field.isComputed then throw (.invalidDefinition record name .assignsComputed)
  return f.dialect.quote field.columnName ++ " = " ++ (← exprText p expand f 0 e)

/-- An update of one table. -/
def updateText (u : Update) : Printed := do
  match u.condition with
  | none => throw (.missingWhere u.record)
  | some condition =>
    if u.assignments.isEmpty then throw (.unsupported (.emptyUpdate u.record))
    let expand := expandText p (expansionDepth
      (exprsDefinitionCount (u.assignments.map (·.2)) + condition.definitionCount))
    let schema ← f.registry.schema u.record
    match schema.table with
    | none => throw (.invalidSchema u.record.name .updatesComputed)
    | some table =>
      let n ← f.registry.abbreviation u.record
      let assignments ← u.assignments.mapM fun a =>
        assignmentText p f expand u.record schema a.1 a.2
      return "update " ++ (f.dialect.quote table ++ " as " ++ abbreviationText n ++
        (p.layout.clauseBreak 0 ++ "set ")) ++ ", ".intercalate assignments ++
        (← conditionText p expand f 0 condition)

/-- A delete from one table. -/
def deleteText (d : Delete) : Printed := do
  let expand := expandText p (expansionDepth d.condition.definitionCount)
  match (← f.registry.schema d.record).table with
  | none => throw (.invalidSchema d.record.name .deletesComputed)
  | some table =>
    if f.dialect.deleteTakesAlias then
      let n ← f.registry.abbreviation d.record
      return "delete from " ++ (f.dialect.quote table ++ " as " ++ abbreviationText n) ++
        (← conditionText p expand f 0 d.condition)
    else
      return "delete from " ++ f.dialect.quote table ++
        (← conditionText p expand { f with unaliased := some d.record } 0 d.condition)

/-- A statement with its values in place. -/
def statementText : Statement → Printed
  | .select s => selectText p (expandText p (expansionDepth s.definitionCount)) f 0 s
  | .insert i => insertText p f i
  | .update u => updateText p f u
  | .delete d => deleteText p f d

/-- A free-standing expression with its values in place. -/
def freeExprText (e : Expr) : Printed :=
  expandText p (expansionDepth e.definitionCount) f 0 e

end Statements

/-- A statement as one text with its values in place. -/
def writeInPlace (catalog : Catalog) (p : Printer) (dialect : Dialect) (s : Statement) :
    SessionM String := do
  let registry ← Registry.build catalog s.records
  verify registry s
  statementText p { dialect := dialect, registry := registry } s

/-- A free-standing expression as one text with its values in place. -/
def writeExpressionInPlace (catalog : Catalog) (p : Printer) (dialect : Dialect) (e : Expr) :
    SessionM String := do
  let registry ← Registry.build catalog e.records
  freeExprText p { dialect := dialect, registry := registry } e

end RecordSql
