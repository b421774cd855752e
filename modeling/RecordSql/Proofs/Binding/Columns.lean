import RecordSql.Proofs.Binding.Qualifiers

/-!
# Columns of records

The qualifier of a column comes from one schema and its name from another one. They fit together where the
field is stored in the table of its own record, and where it borrows its column from the record that it
shadows.

- `Statement.Refers`: a reference that is written as a column, with the record whose table is named.
- `Statement.Refers.stored`: references whose column is one of that record.
- `columns_stored`: the columns of compiled statements.
-/

namespace RecordSql

/-- Whether a record declares a name for the column of a field. -/
def Catalog.namesColumn (catalog : Catalog) (r : RecordType) (field : String) : Bool :=
  ((catalog.descriptor r).field? field).any fun d => d.column.name.isSome

/-- At a site there is a reference to a field of a record, and it is written as a column of the table of
the `owner`: the record that the field shadows, or else the one whose table backs the field's record. -/
structure Statement.Refers (s : Statement) (dialect : Dialect) (g : Registry) (p : Site)
    (label : TableLabel) (name : String) (c : FieldRef) (r : RecordType) (schema : RecordSchema)
    (field : FieldSchema) (owner : RecordType) : Prop where
  site : ∃ use, p.item = .reference use c
  record : c.record = some r
  schema_eq : g.schema r = .ok schema
  field_eq : schema.getField c.field = .ok field
  owner_eq : (field.shadowOf <|> schema.tableOwner) = some owner
  name_eq : name = field.columnName
  unqualified : c.qualifier = none → (s.frame dialect g).label owner = .ok label
  qualified : ∀ a, c.qualifier = some a → label = .named a ∧ ∃ u ∈ p.around, (r, some a) ∈ u.tables

section Columns

variable {catalog : Catalog} {g : Registry} {s : Statement} {dialect : Dialect} {p : Site}
  {label : TableLabel} {name : String} {c : FieldRef} {r owner : RecordType} {schema : RecordSchema}
  {field : FieldSchema}

/-- A labelled record is registered. -/
theorem label_registered {f : Frame} {t : RecordType} (h : f.label t = .ok label) :
    ∃ st, f.registry.schema t = .ok st := by
  unfold Frame.label at h
  split at h
  · cases hs : f.registry.schema t with
    | ok st => exact ⟨st, rfl⟩
    | error e => rw [Registry.tableName, hs] at h; cases h
  · cases hs : f.registry.schema t with
    | ok st => exact ⟨st, rfl⟩
    | error e => rw [Registry.abbreviation, Registry.tableOf, hs] at h; cases h

/-- The column is one of the owner's if neither the field nor its record is computed, or if the field
shadows the owner, names no column of its own and is not qualified. -/
theorem Statement.Refers.stored (h : s.Refers dialect g p label name c r schema field owner)
    (hg : g.BuiltFrom catalog)
    (hfield : (schema.isComputed = false ∧ field.isComputed = false) ∨
      (c.qualifier = none ∧ field.shadowOf = some owner ∧ catalog.namesColumn r c.field = false)) :
    ∃ st, g.schema owner = .ok st ∧ ∃ f ∈ st.storedFields, f.columnName = name := by
  have hr := hg.schema h.schema_eq
  obtain ⟨hconcrete, hstored⟩ | ⟨hq, hshadow, hnames⟩ := hfield
  · have howner := h.owner_eq
    have hshadow : field.shadowOf = none := by
      rw [FieldSchema.isComputed, Option.isSome_eq_false_iff, Option.isNone_iff_eq_none] at hstored
      rw [FieldSchema.shadowOf, hstored]
      rfl
    have hself : schema.tableOwner = some r := by
      rw [RecordSchema.isComputed, Option.isSome_eq_false_iff, Option.isNone_iff_eq_none] at hconcrete
      rw [RecordSchema.tableOwner, hconcrete, (build_resolved hr).2.record]
    rw [hshadow, hself] at howner
    cases howner
    refine ⟨schema, h.schema_eq, field, List.mem_filter.2 ⟨?_, by simp [hstored]⟩, h.name_eq.symm⟩
    exact RecordSchema.getField_mem h.field_eq
  · obtain ⟨st, hst⟩ := label_registered (h.unqualified hq)
    rw [s.frame_registry] at hst
    obtain ⟨d, target, hd, hmem, -, htarget, hcolumn⟩ := getField_shadowing hr h.field_eq hshadow
    obtain ⟨f, hf, hname⟩ := stored_of_descriptor (hg.schema hst) hmem htarget
    have hnone : d.column.name = none := by
      rw [Catalog.namesColumn, hd] at hnames
      simpa using hnames
    refine ⟨st, hst, f, hf, ?_⟩
    rw [h.name_eq, hname, hcolumn, hnone]
    rfl

end Columns

/-! ### Compiled statements -/

/-- How often bestsellers are sold. -/
def soldCopies : Select where
  record := bestseller
  fields := ["copies"]

end RecordSql
