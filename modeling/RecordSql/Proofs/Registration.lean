import RecordSql.Proofs.Schema.Validity

/-!
# Registered schemas

A session publishes what has been built from the catalog, and a registry holds what the session has
published. So what the checks of a schema guarantee can be used of every registered record.

- `PublishedSchemas.BuiltFrom`, `Registry.BuiltFrom`: all schemas are built from a catalog.
- `build_builds`, `compile_built`: registering records keeps that.
- `build_resolved`, `build_error`: a built schema is what a valid descriptor is resolved to.
- `tableOwner_concrete`: the owner of a table is a concrete record.
- `getField_of_mem`, `getField_resolved`: fields are found by their names.
- `getField_shadowing`, `stored_of_descriptor`: where the column of a field that shadows another record
  comes from.
-/

namespace RecordSql

variable {catalog : Catalog}

/-! ### Built schemas -/

/-- All published schemas are built from the catalog. -/
def PublishedSchemas.BuiltFrom (catalog : Catalog) (c : PublishedSchemas) : Prop :=
  ∀ p ∈ c.entries, RecordSchema.build catalog p.1 = .ok p.2

/-- All registered schemas are built from the catalog. -/
def Registry.BuiltFrom (catalog : Catalog) (g : Registry) : Prop :=
  ∀ p ∈ g.schemas, RecordSchema.build catalog p.1 = .ok p.2

theorem Registry.BuiltFrom.schema {g : Registry} (hg : g.BuiltFrom catalog) {r : RecordType}
    {schema : RecordSchema} (h : g.schema r = .ok schema) :
    RecordSchema.build catalog r = .ok schema := by
  unfold Registry.schema at h
  split at h
  · rename_i hl
    cases h
    exact hg _ (mem_of_lookup hl)
  · cases h

theorem Registry.BuiltFrom.add {g : Registry} (hg : g.BuiltFrom catalog) {r : RecordType}
    {schema : RecordSchema} (h : RecordSchema.build catalog r = .ok schema) :
    (g.add r schema).BuiltFrom catalog := by
  intro p hp
  obtain hp | hp := List.mem_append.1 hp
  · exact hg p hp
  · cases List.mem_singleton.1 hp
    exact h

/-! ### Registering records -/

/-- A computation whose results have a property, and that leaves a session with built schemas behind
when it starts in one. -/
def SessionM.Builds {α : Type} (catalog : Catalog) (m : SessionM α) (good : α → Prop) : Prop :=
  ∀ σ : Session, σ.cache.BuiltFrom catalog →
    (m.runIn σ).2.cache.BuiltFrom catalog ∧ ∀ a, (m.runIn σ).1 = .ok a → good a

namespace SessionM.Builds

variable {α β : Type} {good : α → Prop} {good' : β → Prop}

theorem pure {a : α} (h : good a) : SessionM.Builds catalog (Pure.pure a) good := by
  intro σ hσ
  refine ⟨hσ, fun b hb => ?_⟩
  cases hb
  exact h

theorem bind {m : SessionM α} {k : α → SessionM β} (hm : SessionM.Builds catalog m good)
    (hk : ∀ a, good a → SessionM.Builds catalog (k a) good') :
    SessionM.Builds catalog (m >>= k) good' := by
  intro σ hσ
  obtain ⟨hcache, hgood⟩ := hm σ hσ
  rw [runIn_bind]
  rcases hr : m.runIn σ with ⟨_ | a, σ'⟩
  · rw [hr] at hcache
    exact ⟨hcache, nofun⟩
  · rw [hr] at hcache hgood
    exact hk a (hgood a rfl) σ' hcache

end SessionM.Builds

theorem schemaOf_builds (r : RecordType) :
    SessionM.Builds catalog (schemaOf catalog r) fun s => RecordSchema.build catalog r = .ok s := by
  intro σ hσ
  cases hr : σ.cache.find? r with
  | some schema =>
    rw [schemaOf_published hr]
    refine ⟨hσ, fun s hs => ?_⟩
    cases hs
    exact hσ _ (mem_of_lookup hr)
  | none =>
    rw [schemaOf_unpublished hr]
    cases hb : RecordSchema.build catalog r with
    | error e => exact ⟨hσ, fun s hs => by cases hs⟩
    | ok s =>
      refine ⟨fun p hp => ?_, fun s' hs => by cases hs; rfl⟩
      obtain hp | hp := List.mem_append.1 hp
      · exact hσ p hp
      · cases List.mem_singleton.1 hp
        exact hb

theorem extend_builds (known : List RecordType) (g : Registry) (pending : List RecordType)
    (hg : g.BuiltFrom catalog) :
    SessionM.Builds catalog (Registry.extend catalog known g pending)
      (Registry.BuiltFrom catalog) := by
  induction g, pending using Registry.extend.induct known with
  | case1 g =>
    rw [Registry.extend]
    exact .pure hg
  | case2 g r pending hc ih =>
    rw [Registry.extend, dif_pos hc]
    exact ih hg
  | case3 g r pending hc ihKnown ihUnknown =>
    rw [Registry.extend, dif_neg hc]
    refine (schemaOf_builds r).bind fun schema hschema => ?_
    split
    · exact ihKnown schema ‹_› (hg.add hschema)
    · exact ihUnknown schema (hg.add hschema)

/-- Registering records publishes and registers built schemas only. -/
theorem build_builds (records : List RecordType) :
    SessionM.Builds catalog (Registry.build catalog records) (Registry.BuiltFrom catalog) := by
  intro σ hσ
  exact extend_builds _ {} records (List.forall_mem_nil _) σ hσ

/-- What has gone before where a statement compiles on built schemas. -/
theorem compile_built {options : Options} {s : Statement} {σ : Session} {c : Compiled}
    (hσ : σ.cache.BuiltFrom catalog) (h : ((compile catalog options s).runIn σ).1 = .ok c) :
    ∃ g σ' ps, (Registry.build catalog s.records).runIn σ = (.ok g, σ') ∧ g.BuiltFrom catalog ∧
      verify g s = .ok () ∧ statementPieces options.dialect g s = .ok ps ∧ c = .ofPieces options ps := by
  obtain ⟨g, σ', ps, hg, hv, hps, hc⟩ := compile_ok h
  have built := (build_builds s.records σ hσ).2 g (by rw [hg])
  exact ⟨g, σ', ps, hg, built, hv, hps, hc⟩

/-! ### What a built schema guarantees -/

/-- A built schema is what a valid descriptor is resolved to. -/
theorem build_resolved {r : RecordType} {s : RecordSchema} (h : RecordSchema.build catalog r = .ok s) :
    (catalog.descriptor r).Valid catalog r ∧ (catalog.descriptor r).ResolvesTo catalog r s :=
  (ofDescriptor_decides catalog r (catalog.descriptor r)).ok h

/-- A schema that can not be built fails as an invalid schema or for an invalid shadow. -/
theorem build_error {r : RecordType} {e : Error} (h : RecordSchema.build catalog r = .error e) :
    SchemaError catalog (catalog.descriptor r).typeName (catalog.descriptor r).fields e :=
  ((ofDescriptor_decides catalog r (catalog.descriptor r)).error h).2

/-- A record that owns the table behind another one is concrete. -/
theorem tableOwner_concrete {r t : RecordType} {s st : RecordSchema}
    (hr : RecordSchema.build catalog r = .ok s) (ht : RecordSchema.build catalog t = .ok st)
    (howner : s.tableOwner = some t) : st.computed = none := by
  obtain ⟨valid, resolved⟩ := build_resolved hr
  unfold RecordSchema.tableOwner at howner
  split at howner
  · rename_i hnone
    cases howner
    rw [resolved.record, hr] at ht
    cases ht
    exact hnone
  · rename_i c hc
    have hshadow : (catalog.descriptor r).shadowOf = some t := by
      rw [Descriptor.shadowOf, ← resolved.computed, hc]
      exact howner
    rw [(build_resolved ht).2.computed]
    exact (valid.shadow t hshadow).2

/-- The owner of a table owns its own table. -/
theorem tableOwner_self {r t : RecordType} {s st : RecordSchema}
    (hr : RecordSchema.build catalog r = .ok s) (ht : RecordSchema.build catalog t = .ok st)
    (howner : s.tableOwner = some t) : st.tableOwner = some t := by
  have hconcrete := tableOwner_concrete hr ht howner
  simp only [RecordSchema.tableOwner, hconcrete, (build_resolved ht).2.record]

/-- The fields of a schema have the names that its record declares, and no two of them have one name. -/
theorem build_names {r : RecordType} {s : RecordSchema} (hs : RecordSchema.build catalog r = .ok s) :
    s.fields.map (·.name) = (catalog.descriptor r).fields.map (·.name) ∧
      (s.fields.map (·.name)).Nodup := by
  obtain ⟨valid, resolved⟩ := build_resolved hs
  have hnames : s.fields.map (·.name) = (catalog.descriptor r).fields.map (·.name) :=
    resolved_map resolved.fields fun f x hx => hx.name
  exact ⟨hnames, hnames ▸ valid.names⟩

/-! ### Fields by their names -/

/-- What has a name of its own is found by it. -/
theorem find?_of_nodup {α : Type} {name : α → String} {l : List α} (hnodup : (l.map name).Nodup) {a : α}
    (ha : a ∈ l) : (l.find? fun b => name b = name a) = some a := by
  induction l with
  | nil => simp at ha
  | cons b l ih =>
    rw [List.map_cons, List.nodup_cons] at hnodup
    rcases List.mem_cons.1 ha with rfl | hrest
    · simp
    · have hne : name b ≠ name a := by
        intro h
        exact hnodup.1 (h ▸ List.mem_map_of_mem hrest)
      simpa [List.find?_cons, hne] using ih hnodup.2 hrest

/-- A field is found by its name if no other one has it. -/
theorem getField_of_mem {s : RecordSchema} (hnodup : (s.fields.map (·.name)).Nodup) {f : FieldSchema}
    (hf : f ∈ s.fields) : s.getField f.name = .ok f := by
  have hfind : s.field? f.name = some f := find?_of_nodup hnodup hf
  rw [RecordSchema.getField, hfind]

/-- A field of a built schema is resolved from the descriptor of its name. -/
theorem getField_resolved {r : RecordType} {s : RecordSchema} {name : String} {field : FieldSchema}
    (hr : RecordSchema.build catalog r = .ok s) (h : s.getField name = .ok field) :
    ∃ d ∈ (catalog.descriptor r).fields, (catalog.descriptor r).field? name = some d ∧
      d.ResolvesTo catalog field := by
  obtain ⟨valid, resolved⟩ := build_resolved hr
  obtain ⟨d, hd, hfield⟩ := exists_of_forall₂ resolved.fields field (RecordSchema.getField_mem h)
  refine ⟨d, hd, ?_, hfield⟩
  rw [← RecordSchema.getField_name h, hfield.name]
  exact find?_of_nodup valid.names hd

/-- A field that shadows another record has the column name that it declares, or else that of a stored
field of its name in the shadowed record, which is concrete. -/
theorem getField_shadowing {r t : RecordType} {s : RecordSchema} {name : String} {field : FieldSchema}
    (hr : RecordSchema.build catalog r = .ok s) (hfield : s.getField name = .ok field)
    (hshadow : field.shadowOf = some t) :
    ∃ d target, (catalog.descriptor r).field? name = some d ∧ target ∈ (catalog.descriptor t).fields ∧
      (catalog.descriptor t).computed = none ∧ target.computed = none ∧
      field.columnName = d.column.name.getD (target.column.name.getD target.name) := by
  obtain ⟨d, hmem, hd, hresolved⟩ := getField_resolved hr hfield
  have hdeclared : d.shadowOf = some t := by
    rw [FieldDescriptor.shadowOf, ← hresolved.computed]
    exact hshadow
  obtain ⟨hconcrete, target, htarget, hstored⟩ := (build_resolved hr).1.backed d hmem t hdeclared
  refine ⟨d, target, hd, List.mem_of_find?_eq_some htarget, hconcrete, hstored, ?_⟩
  cases hname : d.column.name with
  | some n => exact hresolved.column.explicit n hname
  | none =>
    obtain ⟨target', htarget', -, hcolumn⟩ := hresolved.column.shadowed hname t hdeclared
    rw [htarget] at htarget'
    cases htarget'
    exact hcolumn

/-- A stored field of a descriptor is stored under the column name that it declares, or else under its
own name. -/
theorem stored_of_descriptor {r : RecordType} {s : RecordSchema} {d : FieldDescriptor}
    (hr : RecordSchema.build catalog r = .ok s) (hd : d ∈ (catalog.descriptor r).fields)
    (hstored : d.computed = none) :
    ∃ f ∈ s.storedFields, f.columnName = d.column.name.getD d.name := by
  obtain ⟨x, hx, hresolved⟩ := exists_of_forall₂ (build_resolved hr).2.fields.flip d hd
  obtain ⟨hcomputed, hcolumn⟩ := hresolved.stored hstored
  exact ⟨x, List.mem_filter.2 ⟨hx, by simp [hcomputed]⟩, hcolumn⟩

/-! ### A bookshop -/

/-- Authors. -/
def author : RecordType := ⟨"Author"⟩

/-- Novels. -/
def novel : RecordType := ⟨"Novel"⟩

/-- Reviews of novels. -/
def review : RecordType := ⟨"Review"⟩

/-- Novels that sell well. -/
def bestseller : RecordType := ⟨"Bestseller"⟩

/-- Authors, their novels with a price that a select has to define, and reviews of the novels with a
rating. Bestsellers are read from the novels. -/
def bookshop : Catalog where
  declared :=
    [(author, { typeName := "Author", table := some "authors", fields := [numberDescriptor "id" true none] }),
      (novel,
        { typeName := "Novel", table := some "novels",
          fields :=
            [numberDescriptor "id" true none, numberDescriptor "author" false none,
              numberDescriptor "price" false (some { required := false })] }),
      (review,
        { typeName := "Review", table := some "reviews",
          fields :=
            [numberDescriptor "id" true none, numberDescriptor "novel" false none,
              numberDescriptor "rating" false (some { definition := some "stars" })] }),
      (bestseller,
        { typeName := "Bestseller", computed := some { shadowOf := some novel },
          fields := [numberDescriptor "id" true none, numberDescriptor "copies" false none] })]

/-- A session in which the schemas of the bookshop are published. -/
def openShop : Session where
  cache := ⟨bookshop.declared.map fun p => (p.1, p.2.numbersSchema p.1)⟩

theorem openShop_built : openShop.cache.BuiltFrom bookshop := by
  refine List.forall_mem_cons.2 ⟨?author, List.forall_mem_cons.2 ⟨?novel,
    List.forall_mem_cons.2 ⟨?review, List.forall_mem_cons.2 ⟨?bestseller, List.forall_mem_nil _⟩⟩⟩⟩
  case author => rfl
  case novel => rfl
  case review => rfl
  case bestseller => rfl

/-- The registry of some records of the bookshop, in their order. -/
def shopRegistry (records : List RecordType) : Registry :=
  records.foldl (Registry.register openShop.cache) {}

end RecordSql
