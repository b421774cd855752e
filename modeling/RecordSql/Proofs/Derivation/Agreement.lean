import RecordSql.Proofs.Derivation.Flags
import RecordSql.Proofs.Instance.Values

/-!
# Records that are read twice

A record is read once to derive its descriptor, and once more where text is generated for it. Both readers
keep the same fields, in the same order, and find the same ones to be part of the key. They agree on the
names of fields as well, unless one is written in raw form: a descriptor keeps the mark of such a name, a
constant stands for the name without the mark.

- `persistentFields`: the fields of a data type that are not transient.
- `SourceRecord.getKey?`: what the generated constructor of keys gives.
- `derive_fields`, `sourceRecord_fields`: what each reader finds.
- `sourceRecord_derived`: the readers agree on records without raw names, so that generated constants name
  fields and generated keys fit.
- `rawSlot_misnamed`: a constant that names no field.
-/

namespace RecordSql.Generate

open RecordSql.Source RecordSql.Derive

/-- The fields of a data type that are not transient. -/
def persistentFields (d : DataItem) : List Field :=
  match d.shape with
  | .named fields _ => fields.filter fun f => !hasFlag "transient" f.attributes
  | _ => []

namespace SourceRecord

/-- The generated constants, each with the name that it stands for. -/
def constants (r : SourceRecord) : List (String × String) :=
  r.fields.map fun f => (constantOf f.name, f.name)

/-- The parameters of the generated constructor of keys. -/
def keyFields (r : SourceRecord) : List DeclaredField :=
  r.fields.filter DeclaredField.id

/-- What the generated constructor of keys gives for some values: each stands under the constant of its
field. -/
def getKey? (r : SourceRecord) (t : RecordType) (values : List Value) : Option Key :=
  ((r.keyFields.zip values).mapM fun p =>
    (r.constants.lookup (constantOf p.1.name)).map fun n => (n, p.2)).map fun vs => ⟨t, vs⟩

end SourceRecord

variable {records : List Ident → RecordType} {l : Lines} {siblings : List Source.Item} {d : DataItem}
  {desc : Derived} {r : SourceRecord}

/-! ### What the readers find -/

/-- A transient field has no descriptor, any other has one with its name and flag. -/
theorem fieldDescriptor_eq_ok {f : Field} {o : Option FieldDescriptor}
    (h : fieldDescriptor records f = .ok o) :
    o.map (fun c => (c.name, c.id)) =
      if hasFlag "transient" f.attributes then none
      else some (f.name.text, hasFlag "id" f.attributes) := by
  obtain ⟨a, ha, hrun⟩ := bind_eq_ok h
  obtain ⟨hid, htransient⟩ := fieldAttributes_flags ha
  rw [← htransient, ← hid]
  by_cases hskip : a.transient
  · rw [if_pos hskip] at hrun ⊢
    split at hrun <;> cases hrun
    rfl
  · rw [if_neg hskip] at hrun ⊢
    cases hrun
    rfl

theorem kept_descriptors {fields : List Field} {descriptors : List (Option FieldDescriptor)}
    (h : List.Forall₂ (fun f o => fieldDescriptor records f = .ok o) fields descriptors) :
    (descriptors.filterMap id).map (fun c => (c.name, c.id)) =
      (fields.filter fun f => !hasFlag "transient" f.attributes).map
        fun f => (f.name.text, hasFlag "id" f.attributes) := by
  induction h with
  | nil => rfl
  | @cons f o fields descriptors hf _ ih =>
    have hfirst := fieldDescriptor_eq_ok hf
    cases hskip : hasFlag "transient" f.attributes with
    | true =>
      rw [hskip, if_pos rfl, Option.map_eq_none_iff] at hfirst
      simpa [hfirst, hskip] using ih
    | false =>
      rw [hskip, if_neg Bool.false_ne_true, Option.map_eq_some_iff] at hfirst
      obtain ⟨c, rfl, hc⟩ := hfirst
      simpa [hskip, hc] using ih

/-- A descriptor has the fields that are not transient, with their names as they are written. -/
theorem derive_fields (h : derive records d = .ok desc) :
    desc.descriptor.fields.map (fun f => (f.name, f.id)) =
      (persistentFields d).map fun f => (f.name.text, hasFlag "id" f.attributes) := by
  unfold derive at h
  split at h
  · cases h
  · cases h
  · cases h
  · rename_i hshape
    obtain ⟨_, -, h⟩ := bind_eq_ok h
    split at h
    · cases h
    · obtain ⟨descriptors, hall, h⟩ := bind_eq_ok h
      cases h
      rw [persistentFields, hshape]
      exact kept_descriptors (mapM_eq_ok hall)

/-- A record in a source has the fields that are not transient, with their names without any mark. -/
theorem sourceRecord_fields (h : sourceRecord? l siblings d = some r) :
    r.fields.map (fun f => (f.name, f.id)) =
      (persistentFields d).map fun f => (f.name.name, hasFlag "id" f.attributes) := by
  unfold sourceRecord? at h
  split at h
  · split at h
    · rename_i fields stop hshape
      cases h
      rw [persistentFields, hshape]
      clear hshape
      induction fields with
      | nil => rfl
      | cons f fields ih =>
        cases hskip : hasFlag "transient" f.attributes <;>
          simpa [declaredField?, hskip, List.filterMap_cons, List.filter_cons] using ih
    · cases h
  · cases h

/-! ### Agreement -/

/-- A name is written with a mark if and only if it is in raw form. -/
theorem text_eq_name_iff (i : Ident) : i.text = i.name ↔ i.raw = false := by
  cases hraw : i.raw with
  | false => simp [Ident.text, hraw]
  | true =>
    simp only [Ident.text, hraw, if_true, Bool.true_eq_false, iff_false]
    intro h
    have hlength := congrArg String.length h
    simp at hlength

/-- The readers agree on a record if and only if none of its fields has a name in raw form. -/
theorem fields_agree_iff (hd : derive records d = .ok desc) (hr : sourceRecord? l siblings d = some r) :
    r.fields.map (fun f => (f.name, f.id)) = desc.descriptor.fields.map (fun f => (f.name, f.id)) ↔
      ∀ f ∈ persistentFields d, f.name.raw = false := by
  rw [derive_fields hd, sourceRecord_fields hr, List.map_inj_left]
  simp only [Prod.mk.injEq, and_true, eq_comm (b := Ident.text _), text_eq_name_iff]

/-- If no two generated constants have one name, a generated key has its values under the names of the key
fields. -/
theorem getKey_eq {t : RecordType} {values : List Value} (hconstants : (r.constants.map (·.1)).Nodup) :
    r.getKey? t values = some ⟨t, (r.keyFields.map (·.name)).zip values⟩ := by
  have hlookup : ∀ f ∈ r.keyFields, r.constants.lookup (constantOf f.name) = some f.name := by
    intro f hf
    have hmem : (constantOf f.name, f.name) ∈ r.constants :=
      List.mem_map.2 ⟨f, (List.mem_filter.1 hf).1, rfl⟩
    exact lookup_of_mem (by simpa using hconstants) hmem
  have hall : ∀ pairs : List (DeclaredField × Value), (∀ p ∈ pairs, p.1 ∈ r.keyFields) →
      (pairs.mapM fun p => (r.constants.lookup (constantOf p.1.name)).map fun n => (n, p.2)) =
        some (pairs.map fun p => (p.1.name, p.2)) := by
    intro pairs
    induction pairs with
    | nil => exact fun _ => rfl
    | cons p pairs ih =>
      intro hpairs
      obtain ⟨hfirst, hrest⟩ := List.forall_mem_cons.1 hpairs
      rw [List.mapM_cons, hlookup p.1 hfirst, ih hrest]
      rfl
  rw [SourceRecord.getKey?, hall _ fun p hp => (List.of_mem_zip hp).1, List.zip_map_left]
  rfl

/-- The readers agree on a record if and only if none of its persistent fields has a name in raw form. Then
every generated constant stands for the name of a field of the schema, the generated constructor of keys
has the key fields of the schema as its parameters, in their order, and its keys fit the schema. -/
theorem sourceRecord_derived (hd : derive records d = .ok desc) (hr : sourceRecord? l siblings d = some r) :
    (r.fields.map (fun f => (f.name, f.id)) = desc.descriptor.fields.map (fun f => (f.name, f.id)) ↔
      ∀ f ∈ persistentFields d, f.name.raw = false) ∧
    ((∀ f ∈ persistentFields d, f.name.raw = false) →
      ∀ (catalog : Catalog) (t : RecordType) (s : RecordSchema),
        catalog.descriptor t = desc.descriptor → RecordSchema.build catalog t = .ok s →
        (∀ p ∈ r.constants, ∃ field, s.getField p.2 = .ok field) ∧
        r.keyFields.map (·.name) = s.primaryKey ∧
        ((r.constants.map (·.1)).Nodup → r.keyFields ≠ [] →
          ∀ values : List Value, values.length = r.keyFields.length →
            ∃ k, r.getKey? t values = some k ∧ k.record = t ∧
              k.valuesInOrder s.primaryKey = .ok values)) := by
  refine ⟨fields_agree_iff hd hr, fun hplain catalog t s hdescriptor hs => ?_⟩
  have hfields := (fields_agree_iff hd hr).2 hplain
  rw [← hdescriptor] at hfields
  have hnames : r.fields.map (·.name) = s.fields.map (·.name) := by
    have := congrArg (List.map Prod.fst) hfields
    simp only [List.map_map] at this
    rw [(build_names hs).1]
    exact this
  have hkey : r.keyFields.map (·.name) = s.primaryKey := by
    have := congrArg (fun l => (l.filter fun p => p.2).map (·.1)) hfields
    simp only [List.filter_map, List.map_map] at this
    rw [build_primaryKey hs]
    exact this
  refine ⟨?_, hkey, fun hconstants hkeyed values hlength => ⟨_, getKey_eq hconstants, rfl, ?_⟩⟩
  · intro p hp
    obtain ⟨f, hf, rfl⟩ := List.mem_map.1 hp
    have hmem : f.name ∈ s.fields.map (·.name) := hnames ▸ List.mem_map_of_mem hf
    obtain ⟨field, hfield, hname⟩ := List.mem_map.1 hmem
    exact ⟨field, hname ▸ getField_of_mem (build_names hs).2 hfield⟩
  · rw [hkey]
    refine valuesInOrder_zip t ?_ (by rw [← hkey, List.length_map, hlength])
      (by simpa [← hkey] using hkeyed)
    exact (build_names hs).2.sublist (List.Sublist.map _ List.filter_sublist)

/-! ### Slots on shelves -/

/-- A word in a list. -/
def wordTree (w : String) : Tree := .ident (.plain w) default

/-- An attribute with a list. -/
def listAttribute (path : String) (tokens : List Tree) : Attribute :=
  ⟨⟨false, [.plain path]⟩, .list .parenthesis tokens⟩

/-- The declaration of a field of whole numbers. -/
def numberDeclaration (name : Ident) (attributes : List Attribute) : Field where
  attributes := attributes
  name := name
  type := .path false false [(.plain "i64", none)]
  typeSpan := ⟨.origin, ⟨1, 3⟩⟩

/-- The declaration of slots on shelves. A slot is known by its shelf and by one more field. -/
def slotData (second : Ident) : DataItem where
  attributes := [listAttribute "derive" [wordTree "PersistentRecord"]]
  name := .plain "Slot"
  shape := .named
    [numberDeclaration (.plain "shelf") [listAttribute "depot" [wordTree "id"]],
      numberDeclaration (.plain "moved") [listAttribute "depot" [wordTree "transient"]],
      numberDeclaration second
        [listAttribute "depot" [wordTree "column", .group .parenthesis [wordTree "nullable"] default,
          .punct ',' false default, wordTree "id"]]]
    .origin

/-- The text of the types of these fields. -/
def slotLines : Lines := .ofText "i64".toList

/-- Slots. -/
def slot : RecordType := ⟨"Slot"⟩

/-- A catalog that holds a descriptor of slots. -/
def slots (d : Descriptor) : Catalog where
  declared := [(slot, d)]

/-- What is derived for slots. -/
def slotDerived (second : String) : Derived where
  descriptor := {
    typeName := "Slot"
    fields := [numberDescriptor "shelf" true none,
      { numberDescriptor second true none with column := { nullable := true } }] }
  values := ["shelf", second]

/-- Slots as they are found in a source. -/
def slotRecord (second : String) : SourceRecord where
  name := "Slot"
  fields := [⟨"shelf", "i64", true⟩, ⟨second, "i64", true⟩]
  stop := 0
  bodies := []

/-- The schema of slots. -/
def slotSchema (second : String) : RecordSchema where
  record := slot
  typeName := "Slot"
  table := some "Slot"
  computed := none
  fields := [numberField "shelf" "shelf" true none,
    { numberField second second true none with column := { nullable := true } }]
  keyGenerator := none
  indexes := []
  unique := []
  fullText := []
  generators := []

/-- Slots that are known by their shelf and their place have keys that fit. -/
theorem placedSlot_agrees :
    derive (fun _ => slot) (slotData (.plain "place")) = .ok (slotDerived "place") ∧
      sourceRecord? slotLines [] (slotData (.plain "place")) = some (slotRecord "place") ∧
      (slotRecord "place").fields.map (fun f => (f.name, f.id)) =
        (slotDerived "place").descriptor.fields.map (fun f => (f.name, f.id)) ∧
      RecordSchema.build (slots (slotDerived "place").descriptor) slot = .ok (slotSchema "place") ∧
      ∃ k, (slotRecord "place").getKey? slot [.integer 3, .null] = some k ∧
        k.valuesInOrder (slotSchema "place").primaryKey = .ok [.integer 3, .null] := by
  have hd : derive (fun _ => slot) (slotData (.plain "place")) = .ok (slotDerived "place") := rfl
  have hr : sourceRecord? slotLines [] (slotData (.plain "place")) = some (slotRecord "place") := rfl
  have hs : RecordSchema.build (slots (slotDerived "place").descriptor) slot =
      .ok (slotSchema "place") := rfl
  obtain ⟨hagree, hkeys⟩ := sourceRecord_derived hd hr
  have hsame : (slotRecord "place").fields.map (fun f => (f.name, f.id)) =
      (slotDerived "place").descriptor.fields.map (fun f => (f.name, f.id)) := rfl
  have hplain := hagree.1 hsame
  obtain ⟨-, -, hfit⟩ := hkeys hplain _ _ _ rfl hs
  obtain ⟨k, hk, -, horder⟩ := hfit (by decide +kernel) (by decide) [.integer 3, .null] rfl
  exact ⟨hd, hr, hsame, hs, k, hk, horder⟩

/-- If the place is written in raw form, its constant names no field of the schema, and no generated key
fits. -/
theorem rawSlot_misnamed :
    derive (fun _ => slot) (slotData ⟨true, "place"⟩) = .ok (slotDerived "r#place") ∧
      sourceRecord? slotLines [] (slotData ⟨true, "place"⟩) = some (slotRecord "place") ∧
      RecordSchema.build (slots (slotDerived "r#place").descriptor) slot = .ok (slotSchema "r#place") ∧
      (slotSchema "r#place").getField "place" = .error (.unknownField "Slot" "place") ∧
      ∃ k, (slotRecord "place").getKey? slot [.integer 3, .null] = some k ∧
        k.valuesInOrder (slotSchema "r#place").primaryKey =
          .error (.keyMismatch "Slot" (.notKeyField "place")) := by
  have hd : derive (fun _ => slot) (slotData ⟨true, "place"⟩) = .ok (slotDerived "r#place") := rfl
  have hr : sourceRecord? slotLines [] (slotData ⟨true, "place"⟩) = some (slotRecord "place") := rfl
  have hs : RecordSchema.build (slots (slotDerived "r#place").descriptor) slot =
      .ok (slotSchema "r#place") := rfl
  have hconstants : ((slotRecord "place").constants.map (·.1)).Nodup := by decide +kernel
  exact ⟨hd, hr, hs, rfl, _, getKey_eq hconstants, rfl⟩

end RecordSql.Generate
