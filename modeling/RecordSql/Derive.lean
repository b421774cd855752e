import RecordSql.Derive.Attribute
import RecordSql.Derive.FieldType
import RecordSql.Source.File

/-!
# Descriptors from declarations

- `Derived`: the descriptor of a record, with the names of the values that it stores.
- `derive`: what is derived from the declaration of a data type.
-/

namespace RecordSql.Derive

open RecordSql RecordSql.Source

/-- The descriptor of a record, with the names of the values that it stores, in order. -/
structure Derived where
  descriptor : Descriptor
  values : List String
  deriving DecidableEq, Repr

/-- What is computed, with the record that a path stands for. -/
def ComputedMark.resolve (records : List Ident → RecordType) (c : ComputedMark) : Computed :=
  ⟨c.required, c.definition, c.shadow.map records⟩

/-- The descriptor of a field; a transient one has none, and may say nothing else of itself. -/
def fieldDescriptor (records : List Ident → RecordType) (f : Field) :
    Except DeriveError (Option FieldDescriptor) := do
  let a ← fieldAttributes f.attributes
  if a.transient then
    if a.id || a.column.isSome || a.computed.isSome then throw .transientWithAttributes
    else return none
  else
    return some {
      name := f.name.text
      type := fieldType f.type
      id := a.id
      column := a.column.getD {}
      generated := a.generated
      computed := a.computed.map (ComputedMark.resolve records) }

/-- What is derived from the declaration of a data type, given the records that paths stand for. -/
def derive (records : List Ident → RecordType) (d : DataItem) : Except DeriveError Derived :=
  match d.shape with
  | .enumeration | .union => .error .noStructure
  | .unnamed => .error .noNamedFields
  | .named fields _ => do
    let r ← recordAttributes d.attributes
    if r.table.isSome && r.computed.isSome then throw .tableOfComputed
    else
      let descriptors ← fields.mapM (fieldDescriptor records)
      let kept := descriptors.filterMap id
      return {
        descriptor := {
          typeName := d.name.text
          table := r.table
          computed := r.computed.map (ComputedMark.resolve records)
          fields := kept
          indexes := r.indexes
          unique := r.unique
          fullText := r.fullText
          generators := r.generators }
        values := kept.map FieldDescriptor.name }

end RecordSql.Derive
