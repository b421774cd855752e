import Mathlib.Data.List.Nodup
import RecordSql.Proofs.Schema.Validity
import RecordSql.Schema.Declaration

/-!
# Declared columns

The declarations of a table declare a column for each stored field, in order. Keys and indexes name the
columns of fields, which are looked up by their names; unique constraints name columns as they are listed.

- `columnDeclarations_eq_ok`, `columnNames_eq_ok`, `declarations_eq_ok`: what the declarations are made of.
- `declarations_columns`: the declared columns are those of the stored fields.
- `declarations_closed`: which of the named columns are declared.
-/

namespace RecordSql

/-- The columns that some declarations declare, in order. -/
def declaredColumns (ds : List Declaration) : List String :=
  ds.filterMap Declaration.declaredColumn?

/-- A column is the one of some field, and it is declared if that field is stored. -/
def FieldSchema.Declares (f : FieldSchema) (ds : List Declaration) (column : String) : Prop :=
  f.columnName = column ∧ (f.isComputed = false → column ∈ declaredColumns ds)

variable {catalog : Catalog} {record : RecordType} {d : Descriptor} {s : RecordSchema} {dialect : Dialect}
  {ds : List Declaration}

/-! ### Parts of the declarations -/

/-- A stored field has a column, if its type has one. -/
theorem columnClause_stored {f : FieldSchema} {o : Option String} (hf : f.isComputed = false)
    (h : s.columnClause f dialect = .ok o) : ∃ definition, o = some definition := by
  have hdefined : ∀ {o}, (s.storedDefinition f dialect).map some = .ok o →
      ∃ definition, o = some definition := by
    intro o ho
    cases hdefinition : s.storedDefinition f dialect with
    | error e =>
      rw [hdefinition] at ho
      cases ho
    | ok definition =>
      rw [hdefinition] at ho
      cases ho
      exact ⟨definition, rfl⟩
  unfold RecordSchema.columnClause at h
  rw [hf, if_neg Bool.false_ne_true] at h
  split at h
  · exact hdefined h
  · split at h
    · cases h
      exact ⟨_, rfl⟩
    · cases h
      exact ⟨_, rfl⟩
    · cases h
    · exact hdefined h

/-- The stored fields are declared one by one. -/
theorem columnDeclarations_eq_ok (h : s.columnDeclarations dialect = .ok ds) :
    List.Forall₂ (fun f x => ∃ definition, x = Declaration.column f.columnName definition)
      s.storedFields ds := by
  obtain ⟨columns, hcolumns, hds⟩ := bind_eq_ok h
  obtain rfl : columns.filterMap id = ds := Except.ok.inj hds
  have hall := mapM_eq_ok hcolumns
  have hstored : ∀ f ∈ s.storedFields, f.isComputed = false := fun f hf => by
    simpa using (List.mem_filter.1 hf).2
  clear h hds hcolumns
  generalize s.storedFields = fields at hall hstored
  induction hall with
  | nil => exact .nil
  | @cons f o fields columns hf _ ih =>
    obtain ⟨hfirst, hrest⟩ := List.forall_mem_cons.1 hstored
    obtain ⟨clause, hclause, ho⟩ := bind_eq_ok hf
    obtain ⟨definition, rfl⟩ := columnClause_stored hfirst hclause
    cases ho
    exact .cons ⟨definition, rfl⟩ (ih hrest)

/-- Fields are looked up by their names one by one. -/
theorem columnNames_eq_ok {names columns : List String} (h : s.columnNames names = .ok columns) :
    List.Forall₂ (fun n c => ∃ f ∈ s.fields, f.name = n ∧ f.columnName = c) names columns := by
  refine (mapM_eq_ok h).imp fun n c hc => ?_
  obtain ⟨f, hf, hc⟩ := bind_eq_ok hc
  cases hc
  exact ⟨f, RecordSchema.getField_mem hf, RecordSchema.getField_name hf, rfl⟩

/-- The declarations of a table: its columns, its indexes, its unique constraints, and its key. -/
theorem declarations_eq_ok (htable : s.table.isSome) (h : s.declarations dialect = .ok ds) :
    ∃ columns indexes key, ds = columns ++ indexes ++ s.unique.map .unique ++ key ∧
      List.Forall₂ (fun f x => ∃ definition, x = Declaration.column f.columnName definition)
        s.storedFields columns ∧
      List.Forall₂ (fun i x => ∃ cs, s.columnNames i.fields = .ok cs ∧
        x = Declaration.index i.unique i.name cs) s.indexes indexes ∧
      ∀ x ∈ key, ∃ cs, s.columnNames s.primaryKey = .ok cs ∧ x = .primaryKey cs := by
  unfold RecordSchema.declarations at h
  rw [if_neg (by simpa using Option.isSome_iff_ne_none.1 htable)] at h
  obtain ⟨columns, hcolumns, h⟩ := bind_eq_ok h
  obtain ⟨indexes, hindexes, h⟩ := bind_eq_ok h
  obtain ⟨key, hkey, h⟩ := bind_eq_ok h
  cases h
  refine ⟨columns, indexes, key, rfl, columnDeclarations_eq_ok hcolumns, ?_, ?_⟩
  · refine (mapM_eq_ok hindexes).imp fun i x hx => ?_
    obtain ⟨cs, hcs, hx⟩ := bind_eq_ok hx
    cases hx
    exact ⟨cs, hcs, rfl⟩
  · intro x hx
    unfold RecordSchema.keyDeclarations at hkey
    split at hkey
    · cases hkey
      cases hx
    · cases hcs : s.columnNames s.primaryKey with
      | error e =>
        rw [hcs] at hkey
        cases hkey
      | ok cs =>
        rw [hcs] at hkey
        cases hkey
        exact ⟨cs, rfl, List.mem_singleton.1 hx⟩

/-! ### Named columns -/

/-- The declared columns of a table are those of its stored fields, in order. -/
theorem declarations_columns (htable : s.table.isSome) (h : s.declarations dialect = .ok ds) :
    declaredColumns ds = s.storedFields.map (·.columnName) := by
  obtain ⟨columns, indexes, key, rfl, hcolumns, hindexes, hkey⟩ := declarations_eq_ok htable h
  have hnone : ∀ {l : List Declaration}, (∀ x ∈ l, x.declaredColumn? = none) → declaredColumns l = [] :=
    fun hl => List.filterMap_eq_nil_iff.2 hl
  have hfirst : declaredColumns columns = s.storedFields.map (·.columnName) := by
    clear h
    generalize s.storedFields = fields at hcolumns
    induction hcolumns with
    | nil => rfl
    | cons hx _ ih =>
      obtain ⟨definition, rfl⟩ := hx
      exact congrArg _ ih
  have hindexed : declaredColumns indexes = [] := hnone fun x hx => by
    obtain ⟨i, -, cs, -, rfl⟩ := exists_of_forall₂ hindexes x hx
    rfl
  have hunique : declaredColumns (s.unique.map .unique) = [] := hnone fun x hx => by
    obtain ⟨cs, -, rfl⟩ := List.mem_map.1 hx
    rfl
  have hkeyed : declaredColumns key = [] := hnone fun x hx => by
    obtain ⟨cs, -, rfl⟩ := hkey x hx
    rfl
  unfold declaredColumns at *
  rw [List.filterMap_append, List.filterMap_append, List.filterMap_append, hfirst, hindexed, hunique, hkeyed]
  simp

/-- What each declaration of a table is, and which columns of fields it names. -/
theorem declarations_mem (h : s.declarations dialect = .ok ds) {x : Declaration} (hx : x ∈ ds) :
    declaredColumns ds = s.storedFields.map (·.columnName) ∧
    ((∃ name definition, x = .column name definition) ∨
      (∃ i ∈ s.indexes, ∃ cs, s.columnNames i.fields = .ok cs ∧ x = .index i.unique i.name cs) ∨
      (∃ cs ∈ s.unique, x = .unique cs) ∨
      ∃ cs, s.columnNames s.primaryKey = .ok cs ∧ x = .primaryKey cs) := by
  have htable : s.table.isSome := by
    cases htable : s.table with
    | some _ => rfl
    | none =>
      rw [RecordSchema.declarations, htable] at h
      cases h
      cases hx
  refine ⟨declarations_columns htable h, ?_⟩
  obtain ⟨columns, indexes, key, rfl, hcolumns, hindexes, hkey⟩ := declarations_eq_ok htable h
  simp only [List.mem_append, List.mem_map] at hx
  obtain ((hx | hx) | ⟨cs, hcs, rfl⟩) | hx := hx
  · obtain ⟨f, -, definition, rfl⟩ := exists_of_forall₂ hcolumns x hx
    exact .inl ⟨_, _, rfl⟩
  · obtain ⟨i, hi, cs, hcs, rfl⟩ := exists_of_forall₂ hindexes x hx
    exact .inr (.inl ⟨i, hi, cs, hcs, rfl⟩)
  · exact .inr (.inr (.inl ⟨cs, hcs, rfl⟩))
  · exact .inr (.inr (.inr (hkey x hx)))

/-- The column of a stored field is declared with those of all stored fields. -/
theorem FieldSchema.declares {f : FieldSchema} (hf : f ∈ s.fields)
    (hds : declaredColumns ds = s.storedFields.map (·.columnName)) : f.Declares ds f.columnName := by
  refine ⟨rfl, fun hstored => ?_⟩
  rw [hds]
  exact List.mem_map_of_mem (List.mem_filter.2 ⟨hf, by simpa using hstored⟩)

/-- Keys and indexes name the columns of their fields in order, and these are declared as far as the fields
are stored. Unique constraints name columns as the descriptor lists them; of these exactly the ones that
belong to stored fields are declared. -/
theorem declarations_closed (hs : RecordSchema.ofDescriptor catalog record d = .ok s)
    (h : s.declarations dialect = .ok ds) :
    (∀ columns, .primaryKey columns ∈ ds →
      List.Forall₂ (fun f c => f.Declares ds c) (s.fields.filter (·.id)) columns) ∧
    (∀ isUnique name columns, .index isUnique name columns ∈ ds →
      ∃ i ∈ d.indexes, i.unique = isUnique ∧ i.name = name ∧
        List.Forall₂ (fun n c => ∃ f ∈ s.fields, f.name = n ∧ f.Declares ds c) i.fields columns) ∧
    ∀ columns, .unique columns ∈ ds → columns ∈ d.unique ∧
      ∀ c ∈ columns, c ∈ declaredColumns ds ↔ ∃ f ∈ s.storedFields, f.columnName = c := by
  obtain ⟨valid, resolved⟩ := (ofDescriptor_decides catalog record d).ok hs
  have hnodup : (s.fields.map (·.name)).Nodup := by
    rw [resolved_map resolved.fields (p := (·.name)) fun f x hx => hx.name]
    exact valid.names
  refine ⟨fun cs hcs => ?key, fun isUnique name cs hcs => ?index, fun cs hcs => ?unique⟩
  case key =>
    obtain ⟨hds, ⟨_, _, hx⟩ | ⟨_, _, _, _, hx⟩ | ⟨_, _, hx⟩ | ⟨_, hnames, hx⟩⟩ := declarations_mem h hcs
    all_goals cases hx
    have hfound := List.forall₂_map_left_iff.1 (columnNames_eq_ok hnames)
    have hmem : ∀ f ∈ s.fields.filter (·.id), f ∈ s.fields := fun f hf => List.mem_of_mem_filter hf
    refine ((List.forall₂_and_left _ _).2 ⟨hmem, hfound⟩).imp fun f c hc => ?_
    obtain ⟨hf, g, hg, hname, rfl⟩ := hc
    obtain rfl := List.inj_on_of_nodup_map hnodup hg hf hname
    exact FieldSchema.declares hf hds
  case index =>
    obtain ⟨hds, ⟨_, _, hx⟩ | ⟨i, hi, _, hnames, hx⟩ | ⟨_, _, hx⟩ | ⟨_, _, hx⟩⟩ := declarations_mem h hcs
    all_goals cases hx
    refine ⟨i, resolved.indexes ▸ hi, rfl, rfl, (columnNames_eq_ok hnames).imp fun n c hc => ?_⟩
    obtain ⟨f, hf, hname, rfl⟩ := hc
    exact ⟨f, hf, hname, FieldSchema.declares hf hds⟩
  case unique =>
    obtain ⟨hds, ⟨_, _, hx⟩ | ⟨_, _, _, _, hx⟩ | ⟨_, hlisted, hx⟩ | ⟨_, _, hx⟩⟩ := declarations_mem h hcs
    all_goals cases hx
    refine ⟨resolved.unique ▸ hlisted, fun c _ => ?_⟩
    rw [hds]
    exact List.mem_map

/-- Venues of concerts. -/
def venue : RecordType := ⟨"Venue"⟩

/-- Venues are known by their number and a computed rating, and an index holds how many visitors they take
for each rating. No two of them should have the same address, which is not among their fields. -/
def venueDescriptor : Descriptor where
  typeName := "Venue"
  table := some "venues"
  fields :=
    [numberDescriptor "number" true none, numberDescriptor "visitors" false none,
      numberDescriptor "rating" true (some {})]
  indexes := [{ name := "by_rating", fields := ["rating", "visitors"], unique := false }]
  unique := [["address"]]

/-- The schema of venues. -/
def venueSchema : RecordSchema :=
  { venueDescriptor.numbersSchema venue with
    indexes := venueDescriptor.indexes, unique := venueDescriptor.unique }

/-- The declarations of venues. -/
def venueDeclarations : List Declaration :=
  [.column "number" " BIGINT NOT NULL", .column "visitors" " BIGINT NOT NULL",
    .index false "by_rating" ["rating", "visitors"], .unique ["address"], .primaryKey ["number", "rating"]]

/-- The key and the index of venues name the columns of their fields, and the address belongs to no stored
field. -/
theorem venue_closed :
    RecordSchema.ofDescriptor {} venue venueDescriptor = .ok venueSchema ∧
    venueSchema.declarations .mySql = .ok venueDeclarations ∧
    List.Forall₂ (fun f c => f.Declares venueDeclarations c) (venueSchema.fields.filter (·.id))
      ["number", "rating"] ∧
    (∃ i ∈ venueDescriptor.indexes, i.unique = false ∧ i.name = "by_rating" ∧
      List.Forall₂ (fun n c => ∃ f ∈ venueSchema.fields, f.name = n ∧ f.Declares venueDeclarations c)
        i.fields ["rating", "visitors"]) ∧
    ("address" ∈ declaredColumns venueDeclarations ↔
      ∃ f ∈ venueSchema.storedFields, f.columnName = "address") := by
  have hbuild : RecordSchema.ofDescriptor {} venue venueDescriptor = .ok venueSchema := rfl
  have hds : venueSchema.declarations .mySql = .ok venueDeclarations := rfl
  obtain ⟨hkey, hindex, hunique⟩ := declarations_closed hbuild hds
  exact ⟨hbuild, hds, hkey ["number", "rating"] (by decide),
    hindex false "by_rating" ["rating", "visitors"] (by decide),
    (hunique ["address"] (by decide)).2 "address" (by decide)⟩

/-- Keys and indexes may name the column of a computed field, and a unique constraint the column of no field
at all; neither of them is declared. -/
theorem venueAddress_undeclared :
    RecordSchema.ofDescriptor {} venue venueDescriptor = .ok venueSchema ∧
    venueSchema.declarations .mySql = .ok venueDeclarations ∧
    .primaryKey ["number", "rating"] ∈ venueDeclarations ∧
    .index false "by_rating" ["rating", "visitors"] ∈ venueDeclarations ∧
    "rating" ∉ declaredColumns venueDeclarations ∧
    .unique ["address"] ∈ venueDeclarations ∧ "address" ∉ declaredColumns venueDeclarations :=
  ⟨rfl, rfl, by decide, by decide, by decide, by decide, by decide⟩

end RecordSql
