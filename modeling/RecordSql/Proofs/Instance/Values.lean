import RecordSql.Proofs.Registration

/-!
# Values of instances

An instance lists the declared fields of its record with their values, in order. Schemas, keys and
statements look values up by the names of fields, each in an order of its own, and always find the value
that stands at the place of the field.

- `Instance.Listed`: an instance with a value for every declared field.
- `RecordSchema.paired`, `RecordSchema.valuesWhere`: the fields of a schema with the values of an instance.
- `value?_paired`: looking up the name of a field finds the value at its place.
- `pickValues_paired`, `keyOf_paired`: so does picking values for a key.
- `keyOf_iff`: an instance has a key if its record has a key field.
-/

namespace RecordSql

variable {catalog : Catalog} {s : RecordSchema} {i : Instance}

/-- An instance that lists the declared fields of its record with their values, each one once and in
order. -/
def Instance.Listed (catalog : Catalog) (i : Instance) : Prop :=
  i.values.map (·.1) = (catalog.descriptor i.record).fields.map (·.name)

/-- The fields of a schema that pass a test, each with the value at its place in an instance. -/
def RecordSchema.paired (s : RecordSchema) (i : Instance) (p : FieldSchema → Bool) :
    List (FieldSchema × Value) :=
  ((s.fields.zip i.values).map fun q => (q.1, q.2.2)).filter fun q => p q.1

/-- The values of an instance at the places of the fields that pass a test. -/
def RecordSchema.valuesWhere (s : RecordSchema) (i : Instance) (p : FieldSchema → Bool) : List Value :=
  (s.paired i p).map (·.2)

/-! ### Names of fields -/

/-- The names of the key fields in declaration order are those of a record's descriptor. -/
theorem build_primaryKey {r : RecordType} (hs : RecordSchema.build catalog r = .ok s) :
    s.primaryKey = ((catalog.descriptor r).fields.filter (·.id)).map (·.name) := by
  have hpairs : s.fields.map (fun f => (f.name, f.id)) =
      (catalog.descriptor r).fields.map fun d => (d.name, d.id) :=
    resolved_map (build_resolved hs).2.fields fun d f hf => by rw [hf.name, hf.id]
  have hids := congrArg (fun l => (l.filter fun p => p.2).map (·.1)) hpairs
  simp only [List.filter_map, List.map_map] at hids
  exact hids

/-- A field is among those that the database fills in under its name alone, if no other one has it. -/
theorem mem_identityFields (hnodup : (s.fields.map (·.name)).Nodup) {f : FieldSchema} (hf : f ∈ s.fields) :
    f.name ∈ s.identityFields ↔ f.isIdentity := by
  constructor
  · intro h
    obtain ⟨g, hg, hname⟩ := List.mem_map.1 h
    obtain ⟨hmem, hidentity⟩ := List.mem_filter.1 hg
    have hsame := getField_of_mem hnodup hmem
    rw [hname, getField_of_mem hnodup hf] at hsame
    cases hsame
    exact hidentity
  · exact fun h => List.mem_map_of_mem (List.mem_filter.2 ⟨hf, h⟩)

/-! ### Values at the places of fields -/

/-- In a list of names and values without repetition, each value is found by its name. -/
theorem lookup_of_mem {α : Type} {pairs : List (String × α)} (hnodup : (pairs.map (·.1)).Nodup)
    {n : String} {v : α} (h : (n, v) ∈ pairs) : pairs.lookup n = some v := by
  induction pairs with
  | nil => simp at h
  | cons p pairs ih =>
    obtain ⟨m, w⟩ := p
    rw [List.map_cons, List.nodup_cons] at hnodup
    rcases List.mem_cons.1 h with heq | hrest
    · cases heq
      simp
    · have hne : n ≠ m := by
        rintro rfl
        exact hnodup.1 (List.mem_map.2 ⟨(n, v), hrest, rfl⟩)
      have hbeq : (n == m) = false := by simpa using hne
      rw [List.lookup_cons, hbeq]
      exact ih hnodup.2 hrest

/-- Picking values by their own names gives them back. -/
theorem pickValues_self (record : String) (pairs : FieldValues) {more : FieldValues}
    (hnodup : (pairs.map (·.1)).Nodup) (hmore : more ⊆ pairs) : pickValues record pairs (more.map (·.1)) = .ok (more.map (·.2)) := by
  induction more with
  | nil => rfl
  | cons p more ih =>
    obtain ⟨hp, hmore⟩ := List.cons_subset.1 hmore
    have hfirst : pairs.value? p.1 = some p.2 := lookup_of_mem hnodup hp
    simp only [List.map_cons, pickValues, hfirst, ih hmore]
    rfl

/-- Values that stand under the names of a key come in their order. -/
theorem valuesInOrder_zip (r : RecordType) {names : List String} {vs : List Value} (hnodup : names.Nodup)
    (hlength : names.length = vs.length) (hkeyed : names ≠ []) :
    (⟨r, names.zip vs⟩ : Key).valuesInOrder names = .ok vs := by
  have hextra : ((names.zip vs).find? fun p => !names.contains p.1) = none := by
    rw [List.find?_eq_none]
    intro p hp
    simp [(List.of_mem_zip hp).1]
  have hpicked := pickValues_self r.name (names.zip vs)
    (by rw [List.map_fst_zip (Nat.le_of_eq hlength)]; exact hnodup) (List.Subset.refl _)
  rw [List.map_fst_zip (Nat.le_of_eq hlength), List.map_snd_zip (Nat.le_of_eq hlength.symm)] at hpicked
  rw [Key.valuesInOrder, if_neg (by simpa using hkeyed), hextra]
  exact hpicked

/-- Fields and values under the same names, place by place, are the values under their names. -/
theorem zip_named : ∀ {fields : List FieldSchema} {values : FieldValues},
    fields.map (·.name) = values.map (·.1) →
    ((fields.zip values).map fun q => (q.1, q.2.2)).map (fun q => (q.1.name, q.2)) = values
  | [], [], _ => rfl
  | f :: fields, v :: values, h => by
    obtain ⟨hname, hrest⟩ := List.cons.inj h
    have hfirst : (f.name, v.2) = v := Prod.ext hname rfl
    rw [List.zip_cons_cons, List.map_cons, List.map_cons, zip_named hrest, hfirst]

section Paired

variable (hs : RecordSchema.build catalog i.record = .ok s) (hi : i.Listed catalog)

include hs hi

/-- The names of the fields are the names of the values, place by place. -/
theorem names_listed : s.fields.map (·.name) = i.values.map (·.1) := by
  rw [(build_names hs).1, hi]

theorem length_listed : s.fields.length = i.values.length := by
  simpa using congrArg List.length (names_listed hs hi)

/-- Every field that passes a test is paired with a value. -/
theorem paired_fields (p : FieldSchema → Bool) : (s.paired i p).map (·.1) = s.fields.filter p := by
  have hall : ((s.fields.zip i.values).map fun q => (q.1, q.2.2)).map (·.1) = s.fields := by
    rw [List.map_map]
    exact List.map_fst_zip (Nat.le_of_eq (length_listed hs hi))
  rw [← hall, RecordSchema.paired]
  generalize (s.fields.zip i.values).map (fun q => (q.1, q.2.2)) = pairs
  rw [List.filter_map]
  rfl

/-- The value at the place of a field stands under the name of the field. -/
theorem named_paired {p : FieldSchema → Bool} {q : FieldSchema × Value} (h : q ∈ s.paired i p) :
    (q.1.name, q.2) ∈ i.values := by
  have hmem := List.mem_map_of_mem (f := fun q => (q.1.name, q.2)) (List.mem_filter.1 h).1
  rwa [zip_named (names_listed hs hi)] at hmem

/-- The values under some names are those at the places of the fields with these names. -/
theorem filter_values (p : String → Bool) :
    i.values.filter (fun v => p v.1) = (s.paired i fun f => p f.name).map fun q => (q.1.name, q.2) := by
  have hvalues := zip_named (names_listed hs hi)
  rw [RecordSchema.paired]
  generalize (s.fields.zip i.values).map (fun q => (q.1, q.2.2)) = pairs at hvalues
  rw [← hvalues, List.filter_map]
  rfl

/-- Looking up the name of a field finds the value at its place. -/
theorem value?_paired {p : FieldSchema → Bool} {q : FieldSchema × Value} (h : q ∈ s.paired i p) :
    i.values.value? q.1.name = some q.2 := by
  have hnodup : (i.values.map (·.1)).Nodup := by
    rw [← names_listed hs hi]
    exact (build_names hs).2
  exact lookup_of_mem hnodup (named_paired hs hi h)

/-- Looking up the names of all fields that pass a test finds the values at their places. -/
theorem values_found (p : FieldSchema → Bool) :
    (s.fields.filter p).map (fun f => i.values.value? f.name) = (s.valuesWhere i p).map some := by
  rw [← paired_fields hs hi p, RecordSchema.valuesWhere, List.map_map, List.map_map]
  exact List.map_congr_left fun q hq => value?_paired hs hi hq

/-! ### Keys -/

/-- Values are picked at the places of the fields that they are picked for. -/
theorem pickValues_paired (record : String) (p : FieldSchema → Bool) :
    pickValues record i.values ((s.fields.filter p).map (·.name)) = .ok (s.valuesWhere i p) := by
  have hfound : ∀ q ∈ s.paired i p, i.values.value? q.1.name = some q.2 := fun q hq =>
    value?_paired hs hi hq
  rw [← paired_fields hs hi p, RecordSchema.valuesWhere]
  generalize s.paired i p = pairs at hfound
  induction pairs with
  | nil => rfl
  | cons q pairs ih =>
    obtain ⟨hfirst, hrest⟩ := List.forall_mem_cons.1 hfound
    simp only [List.map_cons, pickValues, hfirst]
    rw [ih hrest]
    rfl

/-- The key of an instance has the values at the places of the key fields, provided that there are any. -/
theorem keyOf_paired :
    s.keyOf i =
      if s.primaryKey.isEmpty then .error (.keyMismatch s.typeName .noPrimaryKey)
      else .ok ⟨i.record, s.primaryKey.zip (s.valuesWhere i (·.id))⟩ := by
  have hrecord : s.record = i.record := (build_resolved hs).2.record
  rw [RecordSchema.keyOf, if_pos hrecord.symm, RecordSchema.keyFrom]
  split
  · rfl
  · rw [RecordSchema.primaryKey, pickValues_paired hs hi, ok_bind, hrecord]
    rfl

/-- An instance has a key if and only if its record has a key field. -/
theorem keyOf_iff : (∃ k, s.keyOf i = .ok k) ↔ ∃ f ∈ s.fields, f.id := by
  rw [keyOf_paired hs hi]
  by_cases hempty : s.primaryKey.isEmpty
  · have hnone : s.fields.filter (·.id) = [] := by simpa [RecordSchema.primaryKey] using hempty
    rw [if_pos hempty]
    refine iff_of_false (by simp) ?_
    rintro ⟨f, hf, hid⟩
    exact List.filter_eq_nil_iff.1 hnone f hf hid
  · have hsome : s.fields.filter (·.id) ≠ [] := by simpa [RecordSchema.primaryKey] using hempty
    obtain ⟨f, hf⟩ := List.exists_mem_of_ne_nil _ hsome
    rw [if_neg hempty]
    exact iff_of_true ⟨_, rfl⟩ ⟨f, List.mem_filter.1 hf⟩

theorem length_key : s.primaryKey.length = (s.valuesWhere i (·.id)).length := by
  have := congrArg List.length (paired_fields hs hi (·.id))
  simpa [RecordSchema.primaryKey, RecordSchema.valuesWhere] using this.symm

/-- The values of an instance's key are those at the places of the key fields, in the order of the primary
key. -/
theorem keyOf_inOrder {k : Key} (hk : s.keyOf i = .ok k) :
    k.record = i.record ∧ k.valuesInOrder s.primaryKey = .ok (s.valuesWhere i (·.id)) := by
  rw [keyOf_paired hs hi] at hk
  split at hk
  · cases hk
  · rename_i hkeyed
    cases hk
    have hnodup : s.primaryKey.Nodup :=
      (build_names hs).2.sublist (List.Sublist.map _ List.filter_sublist)
    exact ⟨rfl, valuesInOrder_zip i.record hnodup (length_key hs hi) (by simpa using hkeyed)⟩

end Paired

end RecordSql
