import RecordSql.Descriptor
import RecordSql.Key

/-!
# Record schemas

A schema is a descriptor that has been checked, with names resolved.

- `FieldSchema`, `RecordSchema`: checked fields and records.
- `tableOwner`: the record whose table backs a record.
- `storedFields`, `primaryKey`, `identityFields`: the fields that are stored, form the key, or are filled
  in by the database.
- `keyFrom`, `keyOf`: keys of rows and of instances.
-/

namespace RecordSql

/-- A checked field with its resolved column name. -/
structure FieldSchema where
  name : String
  columnName : String
  type : FieldType
  column : Column
  id : Bool
  generated : Option GeneratedValue
  computed : Option Computed
  deriving DecidableEq, Repr

namespace FieldSchema

/-- Whether the field has no column of its own. -/
def isComputed (f : FieldSchema) : Bool :=
  f.computed.isSome

/-- The record that a computed field reads from. -/
def shadowOf (f : FieldSchema) : Option RecordType :=
  f.computed.bind Computed.shadowOf

/-- The literal SQL of a computed field. -/
def literal (f : FieldSchema) : Option String :=
  f.computed.bind Computed.definition

/-- Whether the database assigns the value on insert. -/
def isIdentity (f : FieldSchema) : Bool :=
  match f.generated with
  | some g => g.strategy.isIdentity
  | none => false

/-- Whether the field may be left out of a projection: a computed field that is not required. -/
def isOptional (f : FieldSchema) : Bool :=
  match f.computed with
  | some c => !c.required
  | none => false

end FieldSchema

/-- How the primary key of a record is generated. -/
structure KeyGenerator where
  field : String
  strategy : Generation
  tableGenerator : Option TableGenerator
  deriving DecidableEq, Repr

/-- A checked record. A computed one has no table. -/
structure RecordSchema where
  record : RecordType
  typeName : String
  table : Option String
  computed : Option Computed
  fields : List FieldSchema
  keyGenerator : Option KeyGenerator
  indexes : List Index
  unique : List (List String)
  fullText : List FullTextIndex
  generators : List TableGenerator
  deriving DecidableEq, Repr

namespace RecordSchema

/-- Whether the record owns no table. -/
def isComputed (s : RecordSchema) : Bool :=
  s.computed.isSome

/-- The concrete record that a computed record reads from. -/
def shadowOf (s : RecordSchema) : Option RecordType :=
  s.computed.bind Computed.shadowOf

/-- The record whose table backs this one: itself, its shadow, or none. -/
def tableOwner (s : RecordSchema) : Option RecordType :=
  match s.computed with
  | none => some s.record
  | some c => c.shadowOf

/-- All shadows, that of the record before those of its fields. -/
def shadows (s : RecordSchema) : List RecordType :=
  s.shadowOf.toList ++ s.fields.filterMap FieldSchema.shadowOf

/-- The first field of a name. -/
def field? (s : RecordSchema) (name : String) : Option FieldSchema :=
  s.fields.find? fun f => f.name = name

/-- The field of a name, which has to exist. -/
def getField (s : RecordSchema) (name : String) : Except Error FieldSchema :=
  match s.field? name with
  | some f => .ok f
  | none => .error (.unknownField s.typeName name)

theorem getField_mem {s : RecordSchema} {name : String} {f : FieldSchema} (h : s.getField name = .ok f) :
    f ∈ s.fields := by
  unfold getField at h
  split at h
  · cases h
    exact List.mem_of_find?_eq_some ‹_›
  · cases h

theorem getField_name {s : RecordSchema} {name : String} {f : FieldSchema} (h : s.getField name = .ok f) :
    f.name = name := by
  unfold getField at h
  split at h
  · cases h
    exact of_decide_eq_true (List.find?_some (p := fun g : FieldSchema => g.name = name) ‹_›)
  · cases h

/-- The fields stored in the record's own table. -/
def storedFields (s : RecordSchema) : List FieldSchema :=
  s.fields.filter fun f => !f.isComputed

/-- The names of the primary key fields in declaration order. -/
def primaryKey (s : RecordSchema) : List String :=
  (s.fields.filter (·.id)).map (·.name)

/-- Whether there is a primary key field. -/
def isKeyed (s : RecordSchema) : Bool :=
  s.fields.any (·.id)

/-- The names of the fields that the database fills in on insert. -/
def identityFields (s : RecordSchema) : List String :=
  (s.fields.filter (·.isIdentity)).map (·.name)

/-- The full-text index of a name. -/
def fullTextIndex? (s : RecordSchema) (name : String) : Option FullTextIndex :=
  s.fullText.find? fun i => i.name = name

/-- The key made of the primary key components among some field values. -/
def keyFrom (s : RecordSchema) (values : FieldValues) : Except Error Key :=
  if s.primaryKey.isEmpty then .error (.keyMismatch s.typeName .noPrimaryKey)
  else do
    let picked ← pickValues s.typeName values s.primaryKey
    return ⟨s.record, s.primaryKey.zip picked⟩

/-- The key of an instance of the record. -/
def keyOf (s : RecordSchema) (i : Instance) : Except Error Key :=
  if i.record = s.record then s.keyFrom i.values
  else .error (.keyMismatch s.typeName (.otherInstance i.record))

end RecordSchema

end RecordSql
