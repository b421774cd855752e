import RecordSql.Decimal.Power
import RecordSql.Dialect
import RecordSql.Schema

/-!
# Table declarations

- `columnClause`: the SQL after a column's name.
- `declarations`: what stands between the parentheses of a `create table` statement, each item with the
  columns it names.
- `Declaration.text`: an item as SQL.
-/

namespace RecordSql

/-- Text of at least this many characters has the type of long texts. -/
def varcharLimit : Nat :=
  Decimal.twoTo 15

/-- The column type of a kind of values; a custom kind has none. -/
def sqlType? (type : FieldType) (length : Nat) (dialect : Dialect) : Option String :=
  match type, dialect with
  | .boolean, .mySql => some "TINYINT"
  | .boolean, .postgreSql => some "BOOLEAN"
  | .tinyInt, .mySql => some "TINYINT"
  | .tinyInt, .postgreSql => some "SMALLINT"
  | .smallInt, _ => some "SMALLINT"
  | .integer, _ => some "INTEGER"
  | .bigInt, _ => some "BIGINT"
  | .float, _ => some "FLOAT"
  | .double, .mySql => some "DOUBLE"
  | .double, .postgreSql => some "DOUBLE PRECISION"
  | .text, _ =>
    some (if length < varcharLimit then "VARCHAR(" ++ toString length ++ ")" else "TEXT")
  | .bytes, .postgreSql => some "BYTEA"
  | .bytes, .mySql =>
    some (if length < varcharLimit then "VARBINARY(" ++ toString length ++ ")"
      else if length < Decimal.twoTo 16 then "BLOB"
      else if length < Decimal.twoTo 24 then "MEDIUMBLOB"
      else "LONGBLOB")
  | .date, _ => some "DATE"
  | .timestamp, .mySql => some "DATETIME"
  | .timestamp, .postgreSql => some "TIMESTAMP"
  | .json, _ => some "JSON"
  | .custom _, _ => none

/-- An item of a table declaration. -/
inductive Declaration
  | column (name definition : String)
  | index (isUnique : Bool) (name : String) (columns : List String)
  | unique (columns : List String)
  | primaryKey (columns : List String)
  deriving DecidableEq, Repr

namespace Declaration

/-- Identifiers separated by commas. -/
def nameList (dialect : Dialect) (columns : List String) : String :=
  ", ".intercalate (columns.map dialect.quote)

/-- An item as SQL. -/
def text (dialect : Dialect) : Declaration → String
  | .column name definition => dialect.quote name ++ definition
  | .index isUnique name columns =>
    (if isUnique then "UNIQUE INDEX " else "INDEX ") ++ dialect.quote name ++
      " (" ++ nameList dialect columns ++ ")"
  | .unique columns => "UNIQUE (" ++ nameList dialect columns ++ ")"
  | .primaryKey columns => "PRIMARY KEY (" ++ nameList dialect columns ++ ")"

/-- The columns that an index or a key names. -/
def namedColumns : Declaration → List String
  | .column _ _ => []
  | .index _ _ columns | .unique columns | .primaryKey columns => columns

/-- The column that a column declaration declares. -/
def declaredColumn? : Declaration → Option String
  | .column name _ => some name
  | _ => none

end Declaration

namespace RecordSchema

/-- The definition of a stored column that the database does not generate: its type, then what it
allows. -/
def storedDefinition (s : RecordSchema) (f : FieldSchema) (dialect : Dialect) :
    Except Error String :=
  match f.column.definition <|> sqlType? f.type f.column.length dialect with
  | none => .error (.unsupported (.columnType s.typeName f.name))
  | some type =>
    .ok (" " ++ type ++ (if f.column.nullable then "" else " NOT NULL") ++
      (if f.column.unique then " UNIQUE" else "") ++
      (match f.column.default with
        | some d => " DEFAULT " ++ d
        | none => ""))

/-- The SQL after the column's name; nothing for a computed field. -/
def columnClause (s : RecordSchema) (f : FieldSchema) (dialect : Dialect) :
    Except Error (Option String) :=
  if f.isComputed then .ok none
  else
    match f.generated with
    | none => (s.storedDefinition f dialect).map some
    | some g =>
      match g.strategy with
      | .auto | .identity => .ok (some " SERIAL UNIQUE")
      | .sequence => .error (.unsupported (.sequenceKey s.typeName f.name))
      | .table => (s.storedDefinition f dialect).map some

/-- The column names of some fields. -/
def columnNames (s : RecordSchema) (fields : List String) : Except Error (List String) :=
  fields.mapM fun name => do
    let f ← s.getField name
    return f.columnName

/-- The declarations of the stored columns. -/
def columnDeclarations (s : RecordSchema) (dialect : Dialect) : Except Error (List Declaration) := do
  let columns ← s.storedFields.mapM fun f => do
    let definition ← s.columnClause f dialect
    return definition.map (Declaration.column f.columnName)
  return columns.filterMap id

/-- The declaration of the primary key, if there is one. -/
def keyDeclarations (s : RecordSchema) : Except Error (List Declaration) :=
  if s.primaryKey.isEmpty then .ok []
  else (s.columnNames s.primaryKey).map fun columns => [.primaryKey columns]

/-- Columns, then indexes, then unique constraints, then the primary key; nothing for a computed
record. -/
def declarations (s : RecordSchema) (dialect : Dialect) : Except Error (List Declaration) :=
  if s.table.isNone then .ok []
  else do
    let columns ← s.columnDeclarations dialect
    let indexes ← s.indexes.mapM fun i => do
      return Declaration.index i.unique i.name (← s.columnNames i.fields)
    let unique := s.unique.map Declaration.unique
    return columns ++ indexes ++ unique ++ (← s.keyDeclarations)

end RecordSchema

end RecordSql
