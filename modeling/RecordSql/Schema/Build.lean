import RecordSql.Schema

/-!
# Building schemas

`RecordSchema.build` checks the descriptor of a record and resolves its names. The checks come in a
fixed order, and the first one that fails is the error:

1. `checkShadow`: a computed record shadows another record, and a concrete one.
2. `buildFields`: field names differ, and a field that shadows finds a concrete field of its name.
3. `chooseKeyGenerator`: at most one field is generated, and it is the whole key.
4. `checkIndexes`: indexes name fields of the record.
-/

namespace RecordSql

/-- A computed record may not shadow itself or a computed record. -/
def checkShadow (catalog : Catalog) (record : RecordType) (d : Descriptor) : Except Error Unit :=
  match d.shadowOf with
  | none => .ok ()
  | some shadow =>
    if shadow = record then .error (.invalidSchema d.typeName .shadowsItself)
    else if (catalog.descriptor shadow).computed.isSome then
      .error (.invalidSchema d.typeName (.shadowsComputed shadow))
    else .ok ()

/-- The column that a field inherits from the field of its name in a shadowed record, with its name
resolved. -/
def borrowedColumn (catalog : Catalog) (typeName field : String) (shadow : RecordType) :
    Except Error Column :=
  let target := catalog.descriptor shadow
  let invalid (fault : ShadowFault) : Except Error Column :=
    .error (.invalidShadow typeName field fault)
  if target.computed.isSome then invalid (.computedRecord shadow)
  else
    match target.field? field with
    | none => invalid (.noField shadow field)
    | some f =>
      if f.shadowOf.isSome then invalid (.shadowingField shadow field)
      else if f.computed.isSome then invalid (.computedField shadow field)
      else .ok { f.column with name := some (f.column.name.getD f.name) }

/-- The column of a field: what it declares, or what it inherits. A declared column takes only its name
from the shadow, and only if it has none. -/
def resolveColumn (catalog : Catalog) (typeName : String) (f : FieldDescriptor) :
    Except Error Column :=
  match f.shadowOf with
  | none => .ok f.column
  | some shadow => do
    let inherited ← borrowedColumn catalog typeName f.name shadow
    return if f.column = {} then inherited
      else { f.column with name := some (f.column.name.getD (inherited.name.getD "")) }

/-- A checked field. -/
def buildField (catalog : Catalog) (typeName : String) (f : FieldDescriptor) :
    Except Error FieldSchema := do
  let column ← resolveColumn catalog typeName f
  return { name := f.name, columnName := column.name.getD f.name, type := f.type, column := column,
           id := f.id, generated := f.generated, computed := f.computed }

/-- The checked fields in declaration order. `seen` holds the names before them. -/
def buildFields (catalog : Catalog) (typeName : String) (seen : List String) :
    List FieldDescriptor → Except Error (List FieldSchema)
  | [] => .ok []
  | f :: fs =>
    if seen.contains f.name then .error (.invalidSchema typeName (.duplicateField f.name))
    else do
      let field ← buildField catalog typeName f
      let rest ← buildFields catalog typeName (f.name :: seen) fs
      return field :: rest

/-- The table generator that a generated field needs. -/
def resolveTableGenerator (typeName : String) (field : String) (g : GeneratedValue)
    (generators : List TableGenerator) : Except Error (Option TableGenerator) :=
  if g.strategy = .table then
    match g.generator with
    | none => .error (.invalidSchema typeName (.generatorUnnamed field))
    | some name =>
      match generators.find? fun t => t.name = name with
      | some t => .ok (some t)
      | none => .error (.invalidSchema typeName (.unknownGenerator name))
  else .ok none

/-- The key generator of the one generated field, if there is one. It has to be the only key field and a
whole number. -/
def chooseKeyGenerator (typeName : String) (fields : List FieldSchema)
    (generators : List TableGenerator) : Except Error (Option KeyGenerator) :=
  match fields.filter (·.generated.isSome) with
  | [] => .ok none
  | f :: others =>
    match f.generated with
    | none => .ok none
    | some g =>
      if !others.isEmpty then .error (.invalidSchema typeName .severalGenerated)
      else if !f.id || fields.countP (·.id) != 1 then
        .error (.invalidSchema typeName (.generatedOffKey f.name))
      else if !f.type.isNumeric then
        .error (.invalidSchema typeName (.generatedNotNumeric f.name))
      else do
        let tableGenerator ← resolveTableGenerator typeName f.name g generators
        return some { field := f.name, strategy := g.strategy, tableGenerator }

/-- The first of some names that no field has. -/
def unknownName? (fields : List FieldSchema) (names : List String) : Option String :=
  names.find? fun n => !fields.any fun f => f.name = n

/-- Indexes, and after them full-text indexes, name fields of the record. -/
def checkIndexes (typeName : String) (fields : List FieldSchema) (d : Descriptor) :
    Except Error Unit :=
  match unknownName? fields (d.indexes.flatMap (·.fields)) with
  | some n => .error (.invalidSchema typeName (.unknownIndexField n))
  | none =>
    match unknownName? fields (d.fullText.flatMap (·.fields)) with
    | some n => .error (.invalidSchema typeName (.unknownFullTextField n))
    | none => .ok ()

/-- The schema of a descriptor. -/
def RecordSchema.ofDescriptor (catalog : Catalog) (record : RecordType) (d : Descriptor) :
    Except Error RecordSchema := do
  checkShadow catalog record d
  let fields ← buildFields catalog d.typeName [] d.fields
  let keyGenerator ← chooseKeyGenerator d.typeName fields d.generators
  checkIndexes d.typeName fields d
  return { record := record
           typeName := d.typeName
           table := if d.computed.isSome then none else some (d.table.getD d.typeName)
           computed := d.computed
           fields := fields
           keyGenerator := keyGenerator
           indexes := d.indexes
           unique := d.unique
           fullText := d.fullText
           generators := d.generators }

/-- The schema of a record of the catalog. -/
def RecordSchema.build (catalog : Catalog) (record : RecordType) : Except Error RecordSchema :=
  RecordSchema.ofDescriptor catalog record (catalog.descriptor record)

end RecordSql
