import RecordSql.Proofs.Accord
import RecordSql.Proofs.Registration.Order

/-!
# Registries are closed

A registration that nothing stops registers all that the registered schemas refer to. So a table that a
reference may come to can be named wherever the record of the reference is registered.

- `Registry.Closed`: shadows are registered, and records with a table are abbreviated.
- `build_closed`: the registry of some records holds these records and is closed.
- `Registry.Names`: a record's own table has a name and an abbreviation.
- `Registry.Closed.names_owner`, `Registry.Closed.names_shadow`: so have the tables behind a registered
  record and behind a field that shadows another record.
- `fullText_fields`: the fields of a full-text index exist.
- `registry_informed`: a registration that fails does so for a fault of a descriptor.
- `build_registrable`: records that have schemas, and whose shadows have, are registered.
-/

namespace RecordSql

variable {catalog : Catalog} {g : Registry}

/-! ### Closed registries -/

/-- A registry whose schemas are built, with the records that they shadow, and with an abbreviation for
every record that has a table. -/
structure Registry.Closed (catalog : Catalog) (g : Registry) : Prop where
  built : g.BuiltFrom catalog
  shadows : ∀ p ∈ g.schemas, p.2.shadows ⊆ g.records
  tables : ∀ p ∈ g.schemas, p.2.table.isSome → p.1 ∈ g.tables

namespace Registers

variable {find : RecordType → Except Error RecordSchema} {g' : Registry} {pending : List RecordType}
  {stop : Option (RecordType × Error)}

/-- Shadows that are registered or pending are registered in the end. -/
theorem shadows_registered (h : Registers find g pending g' none)
    (hg : ∀ p ∈ g.schemas, p.2.shadows ⊆ g.records ++ pending) :
    ∀ p ∈ g'.schemas, p.2.shadows ⊆ g'.records := by
  generalize hstop : none = stop at h
  induction h with
  | done =>
    intro p hp
    simpa using hg p hp
  | @again g r pending g' stop hc _ ih =>
    refine ih (fun p hp => ?_) hstop
    have hr : r ∈ g.records := contains_iff.1 hc
    intro t ht
    rcases List.mem_append.1 (hg p hp ht) with hold | hpending
    · exact List.mem_append_left _ hold
    · rcases List.mem_cons.1 hpending with rfl | hrest
      · exact List.mem_append_left _ hr
      · exact List.mem_append_right _ hrest
  | @add g r pending schema g' stop _ _ _ ih =>
    refine ih (fun p hp => ?_) hstop
    rcases List.mem_append.1 hp with hold | hnew
    · intro t ht
      have hmem : t ∈ g.records ++ r :: pending := hg p hold ht
      simp only [records_add, List.mem_append, List.mem_cons, List.not_mem_nil, or_false] at hmem ⊢
      rcases hmem with h | h | h
      · exact .inl (.inl h)
      · exact .inl (.inr h)
      · exact .inr (.inr h)
    · cases List.mem_singleton.1 hnew
      intro t ht
      exact List.mem_append_right _ (List.mem_append_left _ ht)
  | fails => cases hstop

/-- Records that have a table are abbreviated when they are registered. -/
theorem tables_abbreviated (h : Registers find g pending g' stop)
    (hg : ∀ p ∈ g.schemas, p.2.table.isSome → p.1 ∈ g.tables) :
    ∀ p ∈ g'.schemas, p.2.table.isSome → p.1 ∈ g'.tables := by
  induction h with
  | done => exact hg
  | again _ _ ih => exact ih hg
  | @add g r pending schema g' stop _ _ _ ih =>
    refine ih fun p hp htable => ?_
    have hkept : g.tables ⊆ (g.add r schema).tables := by
      unfold Registry.add
      dsimp only
      split
      · exact List.subset_append_left _ _
      · exact List.Subset.refl _
    rcases List.mem_append.1 hp with hold | hnew
    · exact hkept (hg p hold htable)
    · cases List.mem_singleton.1 hnew
      have hadd : (g.add r schema).tables = g.tables ++ [r] := if_pos htable
      rw [hadd]
      exact List.mem_append_right _ (List.mem_singleton_self r)
  | fails => exact hg

end Registers

/-- The registry of some records holds them, and all that their schemas refer to. -/
theorem build_closed {σ σ' : Session} {records : List RecordType} (hσ : σ.cache.BuiltFrom catalog)
    (h : (Registry.build catalog records).runIn σ = (.ok g, σ')) :
    g.Closed catalog ∧ records ⊆ g.records := by
  obtain ⟨g', stop, hreg, hrun⟩ := build_registers catalog σ records
  rw [h] at hrun
  cases stop with
  | some p => cases hrun
  | none =>
    cases hrun
    have built : g.BuiltFrom catalog := (build_builds records σ hσ).2 g (by rw [h])
    have shadows := hreg.shadows_registered (List.forall_mem_nil _)
    have tables := hreg.tables_abbreviated (List.forall_mem_nil _)
    exact ⟨⟨built, shadows, tables⟩, hreg.pending_registered⟩

/-! ### Tables that can be named -/

/-- A record's own table has a name and an abbreviation. -/
def Registry.Names (g : Registry) (t : RecordType) : Prop :=
  (∃ name, g.tableName t = .ok name) ∧ ∃ n, g.abbreviation t = .ok n

theorem schema_mem {r : RecordType} {s : RecordSchema} (h : g.schema r = .ok s) : (r, s) ∈ g.schemas := by
  unfold Registry.schema at h
  split at h
  · rename_i hl
    cases h
    exact mem_of_lookup hl
  · cases h

/-- A registered record has a schema. -/
theorem schema_of_registered {r : RecordType} (h : r ∈ g.records) : ∃ s, g.schema r = .ok s := by
  unfold Registry.schema
  cases hl : g.schemas.lookup r with
  | some s => exact ⟨s, rfl⟩
  | none =>
    obtain ⟨p, hp, hpr⟩ := List.mem_map.1 h
    have hne := List.lookup_eq_none_iff.1 hl p hp
    rw [hpr] at hne
    simp at hne

namespace Registry.Closed

variable {r t : RecordType} {s : RecordSchema} (hg : g.Closed catalog)

include hg

/-- The table of a concrete record can be named. -/
theorem names_concrete (hr : g.schema r = .ok s) (hconcrete : s.computed = none) : g.Names r := by
  obtain ⟨-, resolved⟩ := build_resolved (hg.built.schema hr)
  have hsome : s.table.isSome := resolved.table_iff.2 hconcrete
  obtain ⟨name, hname⟩ := Option.isSome_iff_exists.1 hsome
  have howner : g.tableOf r = .ok r := by
    have : s.tableOwner = some r := by rw [RecordSchema.tableOwner, hconcrete, resolved.record]
    rw [Registry.tableOf, hr, ok_bind, this]
    rfl
  refine ⟨⟨name, ?_⟩, ?_⟩
  · rw [Registry.tableName, hr, ok_bind, hname]
    rfl
  · have hmem : r ∈ g.tables := hg.tables _ (schema_mem hr) hsome
    obtain ⟨n, hn⟩ := Option.isSome_iff_exists.1 (List.isSome_idxOf?.2 hmem)
    refine ⟨n, ?_⟩
    rw [Registry.abbreviation, howner, ok_bind, hn]
    rfl

/-- A record that owns a table can be named. -/
theorem names_table (hr : g.schema r = .ok s) (htable : s.table.isSome) : g.Names r := by
  exact hg.names_concrete hr ((build_resolved (hg.built.schema hr)).2.table_iff.1 htable)

/-- The table behind a registered record can be named. -/
theorem names_owner (hr : g.schema r = .ok s) (howner : s.tableOwner = some t) : g.Names t := by
  have hmem : t ∈ g.records := by
    cases hc : s.computed with
    | none =>
      rw [RecordSchema.tableOwner, hc, (build_resolved (hg.built.schema hr)).2.record] at howner
      cases howner
      exact List.mem_map_of_mem (schema_mem hr)
    | some c =>
      have hshadow : s.shadowOf = some t := by
        rw [RecordSchema.tableOwner, hc] at howner
        rw [RecordSchema.shadowOf, hc]
        exact howner
      refine hg.shadows _ (schema_mem hr) (List.mem_append_left _ ?_)
      exact Option.mem_toList.2 hshadow
  obtain ⟨st, hst⟩ := schema_of_registered hmem
  exact hg.names_concrete hst (tableOwner_concrete (hg.built.schema hr) (hg.built.schema hst) howner)

/-- The table behind a record can be named once it is found. -/
theorem names_tableOf (ht : g.tableOf r = .ok t) : g.Names t := by
  obtain ⟨schema, hschema, ht⟩ := bind_eq_ok ht
  split at ht
  · rename_i howner
    cases ht
    exact hg.names_owner hschema howner
  · cases ht

/-- The table of a record that a field shadows can be named. -/
theorem names_shadow {name : String} {field : FieldSchema} (hr : g.schema r = .ok s)
    (hfield : s.getField name = .ok field) (hshadow : field.shadowOf = some t) : g.Names t := by
  have hmem : t ∈ g.records := by
    refine hg.shadows _ (schema_mem hr) (List.mem_append_right _ ?_)
    exact List.mem_filterMap.2 ⟨field, RecordSchema.getField_mem hfield, hshadow⟩
  obtain ⟨st, hst⟩ := schema_of_registered hmem
  obtain ⟨-, -, -, -, hconcrete, -⟩ := getField_shadowing (hg.built.schema hr) hfield hshadow
  exact hg.names_concrete hst ((build_resolved (hg.built.schema hst)).2.computed.trans hconcrete)

/-- The table that a field is read from can be named. -/
theorem names_source {name : String} {field : FieldSchema} (hr : g.schema r = .ok s)
    (hfield : s.getField name = .ok field) (hsource : (field.shadowOf <|> s.tableOwner) = some t) :
    g.Names t := by
  cases hshadow : field.shadowOf with
  | some q =>
    rw [hshadow] at hsource
    cases hsource
    exact hg.names_shadow hr hfield hshadow
  | none =>
    rw [hshadow] at hsource
    exact hg.names_owner hr hsource

end Registry.Closed

/-! ### Full-text indexes -/

/-- The fields of a full-text index exist. -/
theorem fullText_fields {r : RecordType} {s : RecordSchema} {index : String} {i : FullTextIndex}
    (hr : RecordSchema.build catalog r = .ok s) (hi : s.fullTextIndex? index = some i) :
    ∀ n ∈ i.fields, ∃ field, s.getField n = .ok field := by
  obtain ⟨valid, resolved⟩ := build_resolved hr
  obtain ⟨hnames, hnodup⟩ := build_names hr
  intro n hn
  have hmem : i ∈ (catalog.descriptor r).fullText := resolved.fullText ▸ List.mem_of_find?_eq_some hi
  have hdeclared := valid.fullText i hmem n hn
  rw [← hnames] at hdeclared
  obtain ⟨field, hfield, rfl⟩ := List.mem_map.1 hdeclared
  exact ⟨field, getField_of_mem hnodup hfield⟩

/-! ### Lookups that miss no record -/

theorem getField_informed (schema : RecordSchema) (name : String) : Informed (schema.getField name) := by
  unfold RecordSchema.getField
  cases schema.field? name with
  | some f => exact .ok f
  | none => exact fun r h => nomatch h

theorem schema_informed {r : RecordType} (hr : r ∈ g.records) : Informed (g.schema r) := by
  obtain ⟨schema, hs⟩ := schema_of_registered hr
  rw [hs]
  exact .ok schema

/-- The table behind a registered record is found, or the record has none. -/
theorem tableOf_informed {r : RecordType} (hr : r ∈ g.records) :
    Informed (g.tableOf r) := by
  refine Informed.bind (schema_informed hr) fun schema _ => ?_
  cases schema.tableOwner with
  | some t => exact .ok t
  | none => exact fun r h => nomatch h

/-! ### Faults of descriptors -/

/-- A schema that can not be built fails for a fault of its descriptor. -/
theorem build_informed (r : RecordType) : Informed (RecordSchema.build catalog r) := by
  intro q h
  obtain ⟨fault, he⟩ | ⟨f, -, -, fault, he⟩ := build_error h <;> cases he

/-- Registering records misses no record. -/
theorem registry_informed {σ : Session} (hσ : σ.cache.BuiltFrom catalog) (records : List RecordType) :
    Informed ((Registry.build catalog records).runIn σ).1 := by
  obtain ⟨g, stop, hreg, hrun⟩ := build_registers catalog σ records
  rw [hrun]
  cases stop with
  | none => exact .ok g
  | some p =>
    obtain ⟨r, e⟩ := p
    have herror : RecordSchema.build catalog r = .error e := by
      rw [← schemaFor_built hσ]
      exact hreg.stopped.1
    intro q h
    have he : e = .unknownRecord q := Except.error.inj h
    exact build_informed r q (by rw [herror, he])

/-! ### Records that can be registered -/

/-- A record, or one that it shadows through any number of steps. -/
inductive Shadowed (catalog : Catalog) (r : RecordType) : RecordType → Prop
  | self : Shadowed catalog r r
  | step {q t schema} : Shadowed catalog r q → RecordSchema.build catalog q = .ok schema →
      t ∈ schema.shadows → Shadowed catalog r t

/-- A record has a schema, and so have all records that it shadows through any number of steps. -/
def Registrable (catalog : Catalog) (r : RecordType) : Prop :=
  ∀ q, Shadowed catalog r q → ∃ schema, RecordSchema.build catalog q = .ok schema

theorem Shadowed.behind {r t q : RecordType} {schema : RecordSchema}
    (hr : RecordSchema.build catalog r = .ok schema) (ht : t ∈ schema.shadows)
    (h : Shadowed catalog t q) : Shadowed catalog r q := by
  induction h with
  | self => exact .step .self hr ht
  | step _ hq hshadow ih => exact .step ih hq hshadow

/-- A record that has a schema and shadows no other record. -/
theorem registrable_of_unshadowing {r : RecordType} {schema : RecordSchema}
    (hr : RecordSchema.build catalog r = .ok schema) (hnone : schema.shadows = []) :
    Registrable catalog r := by
  intro q hq
  have hself : q = r := by
    induction hq with
    | self => rfl
    | step _ hschema hshadow ih =>
      rw [ih, hr] at hschema
      cases hschema
      rw [hnone] at hshadow
      cases hshadow
  rw [hself]
  exact ⟨schema, hr⟩

/-- Nothing stops the registration of records that have schemas, and whose shadows have. -/
theorem Registers.unstopped {g g' : Registry} {pending : List RecordType}
    {stop : Option (RecordType × Error)}
    (h : Registers (RecordSchema.build catalog) g pending g' stop)
    (hpending : ∀ r ∈ pending, Registrable catalog r) : stop = none := by
  induction h with
  | done => rfl
  | again _ _ ih =>
    obtain ⟨-, hrest⟩ := List.forall_mem_cons.1 hpending
    exact ih hrest
  | add _ hr _ ih =>
    obtain ⟨hfirst, hrest⟩ := List.forall_mem_cons.1 hpending
    apply ih
    intro t ht
    rcases List.mem_append.1 ht with hshadow | hpending
    · exact fun q hq => hfirst q (hq.behind hr hshadow)
    · exact hrest t hpending
  | fails _ hr =>
    obtain ⟨hfirst, -⟩ := List.forall_mem_cons.1 hpending
    obtain ⟨schema, hschema⟩ := hfirst _ .self
    rw [hr] at hschema
    cases hschema

/-- Records that have schemas, and whose shadows have, are registered in every session of the catalog. -/
theorem build_registrable {σ : Session} {records : List RecordType} (hσ : σ.cache.BuiltFrom catalog)
    (h : ∀ r ∈ records, Registrable catalog r) :
    ∃ g, ((Registry.build catalog records).runIn σ).1 = .ok g ∧ g.Closed catalog ∧
      records ⊆ g.records := by
  obtain ⟨g, stop, hreg, hrun⟩ := build_registers catalog σ records
  rw [funext (schemaFor_built hσ)] at hreg
  obtain rfl := hreg.unstopped h
  obtain ⟨closed, hrecords⟩ := build_closed hσ hrun
  exact ⟨g, by rw [hrun]; rfl, closed, hrecords⟩

end RecordSql
