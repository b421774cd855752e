import RecordSql.Record
import RecordSql.Text.Case

/-!
# Record descriptors

What a record type declares of itself, before anything is checked.

- `Descriptor`: the fields, indexes and key generators of a record type.
- `Catalog`: the descriptors of all record types of a program.
-/

namespace RecordSql

open RecordSql.Text

/-- The kind of values that a field stores. A custom kind has no column type of its own. -/
inductive FieldType
  | boolean
  | tinyInt
  | smallInt
  | integer
  | bigInt
  | float
  | double
  | text
  | bytes
  | date
  | timestamp
  | json
  | custom (name : String)
  deriving DecidableEq, Repr

/-- Whether values are whole numbers. -/
def FieldType.isNumeric : FieldType → Bool
  | .tinyInt | .smallInt | .integer | .bigInt => true
  | _ => false

/-- The name of a kind of values. -/
def FieldType.name : FieldType → String
  | .boolean => "boolean"
  | .tinyInt => "tinyint"
  | .smallInt => "smallint"
  | .integer => "integer"
  | .bigInt => "bigint"
  | .float => "float"
  | .double => "double"
  | .text => "text"
  | .bytes => "bytes"
  | .date => "date"
  | .timestamp => "timestamp"
  | .json => "json"
  | .custom n => "custom:" ++ n

/-- The kind of a name. -/
def FieldType.parse? (s : String) : Option FieldType :=
  let plain := [FieldType.boolean, .tinyInt, .smallInt, .integer, .bigInt, .float, .double, .text,
    .bytes, .date, .timestamp, .json]
  match plain.find? fun t => t.name = s with
  | some t => some t
  | none =>
    if s.startsWith "custom:" then some (.custom (s.drop 7).toString) else none

/-- What a field declares of its column. Columns are not null unless `nullable` is set. -/
structure Column where
  name : Option String := none
  unique : Bool := false
  nullable : Bool := false
  definition : Option String := none
  length : Nat := 255
  default : Option String := none
  deriving DecidableEq, Repr

/-- How primary key values are generated. -/
inductive Generation
  | table
  | sequence
  | identity
  | auto
  deriving DecidableEq, Repr

namespace Generation

/-- The name of a strategy. -/
def name : Generation → String
  | .table => "table"
  | .sequence => "sequence"
  | .identity => "identity"
  | .auto => "auto"

/-- The strategy of a name in any case. -/
def parse? (s : String) : Option Generation :=
  [Generation.table, .sequence, .identity, .auto].find? fun g => g.name = lowerCase s

/-- Whether the database assigns the value on insert. -/
def isIdentity : Generation → Bool
  | .identity | .auto => true
  | .table | .sequence => false

end Generation

/-- A generated field: the strategy, and the table generator that the table strategy needs. -/
structure GeneratedValue where
  strategy : Generation
  generator : Option String := none
  deriving DecidableEq, Repr

/-- A key generator backed by a row of a counter table. -/
structure TableGenerator where
  name : String
  table : String
  pkColumn : String
  valueColumn : String
  pkValue : String
  deriving DecidableEq, Repr

/-- The generator of a name, on the common counter table. -/
def TableGenerator.named (name : String) : TableGenerator where
  name := name
  table := "IdSequences"
  pkColumn := "sequence"
  valueColumn := "value"
  pkValue := name

/-- Marks a record or field as computed. It may give literal SQL, or name the concrete record that backs
it; one that is not required may be left out of projections. -/
structure Computed where
  required : Bool := true
  definition : Option String := none
  shadowOf : Option RecordType := none
  deriving DecidableEq, Repr

/-- An index over fields. -/
structure Index where
  name : String
  fields : List String
  unique : Bool
  deriving DecidableEq, Repr

/-- A full-text index over fields. -/
structure FullTextIndex where
  name : String
  fields : List String
  deriving DecidableEq, Repr

/-- The declaration of a field. -/
structure FieldDescriptor where
  name : String
  type : FieldType
  id : Bool := false
  column : Column := {}
  generated : Option GeneratedValue := none
  computed : Option Computed := none
  deriving DecidableEq, Repr

/-- The record that a computed field reads from. -/
def FieldDescriptor.shadowOf (f : FieldDescriptor) : Option RecordType :=
  f.computed.bind Computed.shadowOf

/-- The declaration of a record type. A computed record owns no table; for any other the table is named
like the type unless `table` says otherwise. -/
structure Descriptor where
  typeName : String
  table : Option String := none
  computed : Option Computed := none
  fields : List FieldDescriptor := []
  indexes : List Index := []
  unique : List (List String) := []
  fullText : List FullTextIndex := []
  generators : List TableGenerator := []
  deriving DecidableEq, Repr

/-- The first field of a name. -/
def Descriptor.field? (d : Descriptor) (name : String) : Option FieldDescriptor :=
  d.fields.find? fun f => f.name = name

/-- The record that a computed record reads from. -/
def Descriptor.shadowOf (d : Descriptor) : Option RecordType :=
  d.computed.bind Computed.shadowOf

/-- The record types of a program with their descriptors. -/
structure Catalog where
  declared : List (RecordType × Descriptor) := []

/-- The descriptor of a record type; one that is not declared has no fields. -/
def Catalog.descriptor (c : Catalog) (r : RecordType) : Descriptor :=
  (c.declared.lookup r).getD { typeName := r.name }

/-- The catalog with some record types declared anew. -/
def Catalog.redeclare (c : Catalog) (declared : List (RecordType × Descriptor)) : Catalog :=
  ⟨declared ++ c.declared⟩

end RecordSql
