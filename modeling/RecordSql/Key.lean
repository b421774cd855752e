import RecordSql.Error
import RecordSql.Value

/-!
# Primary keys

- `Key`: one row by its primary key values.
- `MultiKey`: several rows that share all but one key component.
- `valuesInOrder`, `fixedInOrder`: the values in the order of the primary key, if they cover it exactly.
-/

namespace RecordSql

/-- Values by field names. -/
abbrev FieldValues := List (String × Value)

/-- The first value of a field. -/
def FieldValues.value? (values : FieldValues) (field : String) : Option Value :=
  values.lookup field

/-- A record with the values of its persistent fields. -/
structure Instance where
  record : RecordType
  values : FieldValues

/-- The primary key values of one row. -/
structure Key where
  record : RecordType
  values : FieldValues

/-- Fixed values for some key fields, and a nonempty choice of values for one other. -/
structure MultiKey where
  record : RecordType
  fixed : FieldValues
  field : String
  values : List Value

/-- The values of `fields` in their order; the first field without a value is the fault. -/
def pickValues (record : String) (values : FieldValues) : List String → Except Error (List Value)
  | [] => .ok []
  | f :: fs =>
    match values.value? f with
    | none => .error (.keyMismatch record (.missingValue f))
    | some v => return v :: (← pickValues record values fs)

namespace Key

/-- The value of a field. -/
def value? (k : Key) (field : String) : Option Value :=
  k.values.value? field

/-- The values in the order of the primary key. Fails if the record has none, if the key names a field
outside of it, or if it misses a field of it. -/
def valuesInOrder (k : Key) (primaryKey : List String) : Except Error (List Value) :=
  if primaryKey.isEmpty then .error (.keyMismatch k.record.name .noPrimaryKey)
  else
    match k.values.find? fun p => !primaryKey.contains p.1 with
    | some extra => .error (.keyMismatch k.record.name (.notKeyField extra.1))
    | none => pickValues k.record.name k.values primaryKey

end Key

namespace MultiKey

/-- The key with a choice of values; an empty choice is refused. -/
def make (record : RecordType) (fixed : FieldValues) (field : String) (values : List Value) :
    Except Error MultiKey :=
  if values.isEmpty then .error (.emptyInList field)
  else .ok ⟨record, fixed, field, values⟩

/-- The primary key fields with a fixed value. -/
def fixedFields (k : MultiKey) (primaryKey : List String) : List String :=
  primaryKey.filter fun f => f != k.field

/-- The fixed values in the order of the primary key. Fails unless the fixed fields and the varying one
together cover the primary key exactly. -/
def fixedInOrder (k : MultiKey) (primaryKey : List String) : Except Error (List Value) :=
  if !primaryKey.contains k.field then
    .error (.keyMismatch k.record.name (.notKeyField k.field))
  else
    match k.fixed.find? fun p => p.1 == k.field || !primaryKey.contains p.1 with
    | some extra => .error (.keyMismatch k.record.name (.notFixedField extra.1))
    | none => pickValues k.record.name k.fixed (k.fixedFields primaryKey)

end MultiKey

end RecordSql
