import Mathlib.Logic.Relation
import RecordSql.Proofs.Binding.Distinct
import RecordSql.Proofs.Registration.Closure

/-!
# Depth-first registration

Registering records walks the graph of shadows depth first: a record comes at its first mention, and all
that it leads to comes before the next mention. Each record is entered before its shadows are followed, so
that the walk ends although shadows may form circles. Abbreviations number the records that own tables in
the order of the walk.

- `Catalog.shadows`, `Catalog.Reaches`: the graph of shadows, as it is declared.
- `DepthFirst`: a depth-first walk through a graph, one record after the other.
- `Registers.depthFirst`: a registration is such a walk.
- `registration_depthFirst`: what is registered, in which order, and under which abbreviations.
-/

namespace RecordSql

/-! ### The graph of shadows -/

/-- The records that a record shadows as it is declared: that of the whole record, then those of its
fields in the order of their declaration. -/
def Catalog.shadows (catalog : Catalog) (r : RecordType) : List RecordType :=
  (catalog.descriptor r).shadowOf.toList ++ (catalog.descriptor r).fields.filterMap FieldDescriptor.shadowOf

/-- One record leads to another one through any number of shadows. -/
def Catalog.Reaches (catalog : Catalog) : RecordType → RecordType → Prop :=
  Relation.ReflTransGen fun r q => q ∈ catalog.shadows r

/-- The record whose table a record is read from as it is declared: itself, or what it shadows. -/
def Catalog.tableRecord (catalog : Catalog) (r : RecordType) : Option RecordType :=
  match (catalog.descriptor r).computed with
  | none => some r
  | some c => c.shadowOf

/-- Whether a record owns a table as it is declared. -/
def Catalog.ownsTable (catalog : Catalog) (r : RecordType) : Bool :=
  (catalog.descriptor r).computed.isNone

/-- The records seen after a depth-first walk: a record that was seen before is passed over, and any other
one is seen next, followed by all that it leads to. -/
inductive DepthFirst (next : RecordType → List RecordType) :
    List RecordType → List RecordType → List RecordType → Prop
  | done {seen} : DepthFirst next seen [] seen
  | again {seen r pending after} : r ∈ seen → DepthFirst next seen pending after →
      DepthFirst next seen (r :: pending) after
  | visit {seen r pending between after} : r ∉ seen → DepthFirst next (seen ++ [r]) (next r) between →
      DepthFirst next between pending after → DepthFirst next seen (r :: pending) after

namespace DepthFirst

variable {next : RecordType → List RecordType} {seen after : List RecordType}

/-- A walk is determined by where it starts. -/
theorem unique {pending after' : List RecordType} (h : DepthFirst next seen pending after)
    (h' : DepthFirst next seen pending after') : after' = after := by
  induction h generalizing after' with
  | done =>
    cases h'
    rfl
  | again hseen _ ih =>
    cases h' with
    | again _ h' => exact ih h'
    | visit hnew => exact absurd hseen hnew
  | visit hnew _ _ ihFirst ihRest =>
    cases h' with
    | again hseen => exact absurd hseen hnew
    | visit _ hfirst hrest =>
      obtain rfl := ihFirst hfirst
      exact ihRest hrest

/-- A walk through some records goes through the first ones and then through the rest. -/
theorem split {front back : List RecordType} (h : DepthFirst next seen (front ++ back) after) :
    ∃ between, DepthFirst next seen front between ∧ DepthFirst next between back after := by
  generalize hpending : front ++ back = pending at h
  induction h generalizing front with
  | done =>
    obtain ⟨rfl, rfl⟩ := List.append_eq_nil_iff.1 hpending
    exact ⟨_, .done, .done⟩
  | @again seen r pending after hseen hrest ih =>
    cases front with
    | nil =>
      obtain rfl : back = r :: pending := hpending
      exact ⟨seen, .done, .again hseen hrest⟩
    | cons q front =>
      obtain ⟨rfl, htail⟩ := List.cons.inj hpending
      obtain ⟨between, hfront, hback⟩ := ih htail
      exact ⟨between, .again hseen hfront, hback⟩
  | @visit seen r pending middle after hnew hfirst hrest _ ihRest =>
    cases front with
    | nil =>
      obtain rfl : back = r :: pending := hpending
      exact ⟨seen, .done, .visit hnew hfirst hrest⟩
    | cons q front =>
      obtain ⟨rfl, htail⟩ := List.cons.inj hpending
      obtain ⟨between, hfront, hback⟩ := ihRest htail
      exact ⟨between, .visit hnew hfirst hfront, hback⟩

end DepthFirst

/-! ### Schemas and declarations -/

section Schemas

variable {catalog : Catalog} {r t : RecordType} {schema : RecordSchema}

/-- A schema shadows the records that are declared, in their order. -/
theorem shadows_built (h : RecordSchema.build catalog r = .ok schema) :
    schema.shadows = catalog.shadows r := by
  obtain ⟨-, resolved⟩ := build_resolved h
  have hshadow : schema.shadowOf = (catalog.descriptor r).shadowOf := by
    rw [RecordSchema.shadowOf, Descriptor.shadowOf, resolved.computed]
  have heach : schema.fields.map FieldSchema.shadowOf =
      (catalog.descriptor r).fields.map FieldDescriptor.shadowOf :=
    resolved_map resolved.fields fun d f hf => by
      rw [FieldSchema.shadowOf, FieldDescriptor.shadowOf, hf.computed]
  have hall := congrArg (List.filterMap id) heach
  rw [List.filterMap_map, List.filterMap_map] at hall
  rw [RecordSchema.shadows, Catalog.shadows, hshadow]
  exact congrArg _ hall

/-- A schema is backed by the table of the record that is declared. -/
theorem tableOwner_built (h : RecordSchema.build catalog r = .ok schema) :
    schema.tableOwner = catalog.tableRecord r := by
  obtain ⟨-, resolved⟩ := build_resolved h
  cases hdeclared : (catalog.descriptor r).computed <;>
    simp [RecordSchema.tableOwner, Catalog.tableRecord, resolved.computed, hdeclared, resolved.record]

/-- A schema has a table if its record is declared to own one. -/
theorem table_built (h : RecordSchema.build catalog r = .ok schema) :
    schema.table.isSome = catalog.ownsTable r := by
  obtain ⟨-, resolved⟩ := build_resolved h
  rw [Catalog.ownsTable, ← resolved.computed, Bool.eq_iff_iff, resolved.table_iff, Option.isNone_iff_eq_none]

/-- What is shadowed through schemas is reached through declarations. -/
theorem Shadowed.reaches (h : Shadowed catalog r t) : catalog.Reaches r t := by
  induction h with
  | self => exact .refl
  | step _ hschema hshadow ih => exact ih.tail (shadows_built hschema ▸ hshadow)

end Schemas

/-! ### A registration walks depth first -/

namespace Registers

variable {catalog : Catalog} {g g' : Registry} {pending : List RecordType}
  {stop : Option (RecordType × Error)}

/-- A registration that nothing stops walks through the declared shadows. -/
theorem depthFirst (h : Registers (RecordSchema.build catalog) g pending g' none) :
    DepthFirst catalog.shadows g.records pending g'.records := by
  generalize hstop : none = stop at h
  induction h with
  | done => exact .done
  | again hseen _ ih => exact .again (contains_iff.1 hseen) (ih hstop)
  | @add g r pending schema g' stop hnew hschema _ ih =>
    have walk := ih hstop
    rw [records_add, shadows_built hschema] at walk
    obtain ⟨between, hshadows, hrest⟩ := walk.split
    refine .visit (fun hmem => ?_) hshadows hrest
    rw [contains_iff.2 hmem] at hnew
    cases hnew
  | fails => cases hstop

/-- What is registered was registered before, or it is reached from a pending record. -/
theorem reached (h : Registers (RecordSchema.build catalog) g pending g' stop) :
    ∀ q ∈ g'.records, q ∈ g.records ∨ ∃ r ∈ pending, catalog.Reaches r q := by
  induction h with
  | done => exact fun q hq => .inl hq
  | again _ _ ih =>
    intro q hq
    refine (ih q hq).imp_right fun hreached => ?_
    obtain ⟨r, hr, hrq⟩ := hreached
    exact ⟨r, List.mem_cons_of_mem _ hr, hrq⟩
  | @add g r pending schema g' stop _ hschema _ ih =>
    intro q hq
    rcases ih q hq with hadd | ⟨t, ht, htq⟩
    · rw [records_add] at hadd
      rcases List.mem_append.1 hadd with hold | hnew
      · exact .inl hold
      · cases List.mem_singleton.1 hnew
        exact .inr ⟨r, List.mem_cons_self, .refl⟩
    · rcases List.mem_append.1 ht with hshadow | hpending
      · rw [shadows_built hschema] at hshadow
        exact .inr ⟨r, List.mem_cons_self, .head hshadow htq⟩
      · exact .inr ⟨t, List.mem_cons_of_mem r hpending, htq⟩
  | fails => exact fun q hq => .inl hq

/-- The records with an abbreviation are the registered ones that own a table, in their order. -/
theorem tables_eq (h : Registers (RecordSchema.build catalog) g pending g' stop)
    (hg : g.tables = g.records.filter catalog.ownsTable) :
    g'.tables = g'.records.filter catalog.ownsTable := by
  induction h with
  | done => exact hg
  | again _ _ ih => exact ih hg
  | @add g r pending schema g' stop _ hschema _ ih =>
    refine ih ?_
    rw [records_add, List.filter_append, ← hg, Registry.add, table_built hschema]
    cases howns : catalog.ownsTable r <;> simp [howns]
  | fails => exact hg

end Registers

/-! ### Abbreviations -/

section Abbreviations

variable {catalog : Catalog} {g : Registry} {r q t : RecordType}

/-- The table behind a registered record is that of the record which is declared. -/
theorem tableOf_iff (hg : g.BuiltFrom catalog) (hr : r ∈ g.records) :
    g.tableOf r = .ok t ↔ catalog.tableRecord r = some t := by
  obtain ⟨schema, hschema⟩ := schema_of_registered hr
  rw [Registry.tableOf, hschema, ok_bind, tableOwner_built (hg.schema hschema)]
  cases catalog.tableRecord r <;> simp

/-- The number of a record is the place of its table record. -/
theorem abbreviation_eq_ok {n : Nat} (hg : g.BuiltFrom catalog) (hr : r ∈ g.records) :
    g.abbreviation r = .ok n ↔ ∃ t, catalog.tableRecord r = some t ∧ g.tables.idxOf? t = some n := by
  constructor
  · intro h
    obtain ⟨t, ht, h⟩ := bind_eq_ok h
    refine ⟨t, (tableOf_iff hg hr).1 ht, ?_⟩
    split at h
    · rename_i hindex
      cases h
      exact hindex
    · cases h
  · rintro ⟨t, ht, hindex⟩
    rw [Registry.abbreviation, (tableOf_iff hg hr).2 ht, ok_bind, hindex]
    rfl

/-- The table records are numbered one by one. -/
theorem abbreviation_tables (hg : g.BuiltFrom catalog) (hnodup : g.records.Nodup)
    (htables : g.tables = g.records.filter catalog.ownsTable) :
    g.tables.map g.abbreviation = (List.range g.tables.length).map .ok := by
  refine List.ext_getElem (by simp) fun n hn _ => ?_
  rw [List.getElem_map, List.getElem_map, List.getElem_range]
  rw [List.length_map] at hn
  have hall : ∀ t ∈ g.tables, t ∈ g.records ∧ catalog.ownsTable t = true :=
    fun t ht => List.mem_filter.1 (htables ▸ ht)
  obtain ⟨hr, howns⟩ := hall _ (List.getElem_mem hn)
  have hself : catalog.tableRecord g.tables[n] = some g.tables[n] := by
    rw [Catalog.ownsTable, Option.isNone_iff_eq_none] at howns
    rw [Catalog.tableRecord, howns]
  have hfirst : g.tables.Nodup := htables ▸ hnodup.filter _
  refine (abbreviation_eq_ok hg hr).2 ⟨_, hself, ?_⟩
  refine List.idxOf?_eq_some_iff.2 ⟨hn, rfl, fun m hm heq => ?_⟩
  exact absurd ((hfirst.getElem_inj_iff).1 heq) (by omega)

/-- The table behind a registered record has an abbreviation. -/
theorem tableRecord_mem (hg : g.Closed catalog) (hr : r ∈ g.records)
    (ht : catalog.tableRecord r = some t) : t ∈ g.tables := by
  obtain ⟨schema, hschema⟩ := schema_of_registered hr
  rw [← tableOwner_built (hg.built.schema hschema)] at ht
  obtain ⟨⟨name, hname⟩, -⟩ := hg.names_owner hschema ht
  obtain ⟨owner, howner, hname⟩ := bind_eq_ok hname
  refine hg.tables _ (schema_mem howner) ?_
  split at hname
  · rename_i htable
    rw [htable]
    rfl
  · cases hname

/-- Records have one abbreviation if they have one table record, and only then. -/
theorem abbreviation_shared (hg : g.Closed catalog) (hr : r ∈ g.records) (hq : q ∈ g.records) :
    (∃ a, abbreviationText <$> g.abbreviation r = .ok a ∧ abbreviationText <$> g.abbreviation q = .ok a) ↔
      ∃ t, catalog.tableRecord r = some t ∧ catalog.tableRecord q = some t := by
  constructor
  · rintro ⟨a, ha, ha'⟩
    obtain ⟨n, hn, rfl⟩ := map_eq_ok ha
    obtain ⟨m, hm, hnm⟩ := map_eq_ok ha'
    obtain rfl : m = n := abbreviationText_inj hnm
    obtain ⟨t, ht, hindex⟩ := (abbreviation_eq_ok hg.built hr).1 hn
    obtain ⟨t', ht', hindex'⟩ := (abbreviation_eq_ok hg.built hq).1 hm
    obtain ⟨_, hat, -⟩ := List.idxOf?_eq_some_iff.1 hindex
    obtain ⟨_, hat', -⟩ := List.idxOf?_eq_some_iff.1 hindex'
    obtain rfl : t = t' := hat.symm.trans hat'
    exact ⟨t, ht, ht'⟩
  · rintro ⟨t, ht, ht'⟩
    obtain ⟨n, hn⟩ := Option.isSome_iff_exists.1 (List.isSome_idxOf?.2 (tableRecord_mem hg hr ht))
    refine ⟨abbreviationText n, ?_, ?_⟩
    · rw [(abbreviation_eq_ok hg.built hr).2 ⟨t, ht, hn⟩, map_ok]
    · rw [(abbreviation_eq_ok hg.built hq).2 ⟨t, ht', hn⟩, map_ok]

end Abbreviations

/-! ### Registering records -/

/-- Records that have schemas, as all have that they lead to, are registered, also where shadows form
circles: they and what they lead to, each one once, in the order of a depth-first walk. Those that own
tables are abbreviated `t0`, `t1`, … in this order. Two registered records share an abbreviation exactly if
they share a table record, and a computed record has one exactly if it shadows a record. -/
theorem registration_depthFirst {catalog : Catalog} {σ : Session} {records : List RecordType}
    (hσ : σ.cache.BuiltFrom catalog)
    (h : ∀ r ∈ records, ∀ q, catalog.Reaches r q → ∃ schema, RecordSchema.build catalog q = .ok schema) :
    ∃ g, ((Registry.build catalog records).runIn σ).1 = .ok g ∧
      (∀ after, DepthFirst catalog.shadows [] records after ↔ after = g.records) ∧
      (∀ q, q ∈ g.records ↔ ∃ r ∈ records, catalog.Reaches r q) ∧ g.records.Nodup ∧
      g.tables = g.records.filter catalog.ownsTable ∧
      g.tables.map (fun t => abbreviationText <$> g.abbreviation t) =
        (List.range g.tables.length).map (fun n => .ok (abbreviationText n)) ∧
      (∀ r ∈ g.records, ∀ q ∈ g.records,
        (∃ a, abbreviationText <$> g.abbreviation r = .ok a ∧
          abbreviationText <$> g.abbreviation q = .ok a) ↔
        ∃ t, catalog.tableRecord r = some t ∧ catalog.tableRecord q = some t) ∧
      ∀ r ∈ g.records, ∀ c, (catalog.descriptor r).computed = some c →
        ((∃ a, abbreviationText <$> g.abbreviation r = .ok a) ↔ ∃ t, c.shadowOf = some t) := by
  obtain ⟨g, stop, hreg, hrun⟩ := build_registers catalog σ records
  rw [funext (schemaFor_built hσ)] at hreg
  obtain rfl := hreg.unstopped fun r hr q hq => h r hr q hq.reaches
  obtain ⟨closed, hrecords⟩ := build_closed hσ hrun
  have walk : DepthFirst catalog.shadows [] records g.records := hreg.depthFirst
  have nodup : g.records.Nodup := hreg.fresh List.nodup_nil
  have tables : g.tables = g.records.filter catalog.ownsTable := hreg.tables_eq rfl
  have reached : ∀ q, q ∈ g.records ↔ ∃ r ∈ records, catalog.Reaches r q := by
    refine fun q => ⟨fun hq => (hreg.reached q hq).resolve_left List.not_mem_nil, ?_⟩
    rintro ⟨r, hr, hrq⟩
    induction hrq with
    | refl => exact hrecords hr
    | tail _ hshadow ih =>
      obtain ⟨schema, hschema⟩ := schema_of_registered ih
      rw [← shadows_built (closed.built.schema hschema)] at hshadow
      exact closed.shadows _ (schema_mem hschema) hshadow
  have numbers : g.tables.map (fun t => abbreviationText <$> g.abbreviation t) =
      (List.range g.tables.length).map (fun n => .ok (abbreviationText n)) := by
    have hnumbers := congrArg (List.map (abbreviationText <$> ·))
      (abbreviation_tables closed.built nodup tables)
    rw [List.map_map, List.map_map] at hnumbers
    exact hnumbers
  refine ⟨g, by rw [hrun]; rfl, fun after => ⟨walk.unique, fun hafter => hafter ▸ walk⟩, reached, nodup,
    tables, numbers, fun r hr q hq => abbreviation_shared closed hr hq, fun r hr c hc => ?_⟩
  have hown : catalog.tableRecord r = c.shadowOf := by
    rw [Catalog.tableRecord, hc]
  rw [← hown]
  simpa using abbreviation_shared closed hr hr

/-! ### Offices that shadow each other -/

/-- Clerks, who are told the floor of their office. -/
def clerk : RecordType := ⟨"Clerk"⟩

/-- Offices, which are told the head of their clerks. -/
def office : RecordType := ⟨"Office"⟩

/-- Visitors are read from the clerks. -/
def visitor : RecordType := ⟨"Visitor"⟩

/-- A notice is read from no table of its own. -/
def notice : RecordType := ⟨"Notice"⟩

/-- Clerks and offices with a field each that shadows the other record. -/
def offices : Catalog where
  declared :=
    [(clerk,
        { typeName := "Clerk", table := some "clerks",
          fields :=
            [numberDescriptor "id" true none, numberDescriptor "head" false none,
              numberDescriptor "floor" false (some { shadowOf := some office })] }),
      (office,
        { typeName := "Office", table := some "offices",
          fields :=
            [numberDescriptor "id" true none, numberDescriptor "floor" false none,
              numberDescriptor "head" false (some { shadowOf := some clerk })] }),
      (visitor, { typeName := "Visitor", computed := some { shadowOf := some clerk } }),
      (notice, { typeName := "Notice", computed := some {} })]

/-- All that visitors, notices and offices lead to has a schema. -/
theorem offices_built : ∀ r ∈ [visitor, notice, office], ∀ q, offices.Reaches r q →
    ∃ schema, RecordSchema.build offices q = .ok schema := by
  intro r hr q hrq
  have hmem : q ∈ [visitor, notice, office, clerk] := by
    induction hrq with
    | refl => exact List.mem_append_left [clerk] hr
    | @tail q t _ hshadow ih =>
      have hclosed : ∀ q ∈ [visitor, notice, office, clerk], ∀ t ∈ offices.shadows q,
          t ∈ [visitor, notice, office, clerk] := by decide
      exact hclosed q ih t hshadow
  have hbuilds : ∀ q ∈ [visitor, notice, office, clerk], (RecordSchema.build offices q).toBool := by
    decide
  have hbuild := hbuilds q hmem
  cases hb : RecordSchema.build offices q with
  | ok schema => exact ⟨schema, rfl⟩
  | error e =>
    rw [hb] at hbuild
    cases hbuild

/-- The clerks come right behind the visitors, and behind them their office, which leads back to them. -/
theorem offices_depthFirst :
    PublishedSchemas.BuiltFrom offices {} ∧
    (∀ r ∈ [visitor, notice, office], ∀ q, offices.Reaches r q →
      ∃ schema, RecordSchema.build offices q = .ok schema) ∧
    ∃ g, ((Registry.build offices [visitor, notice, office]).runIn {}).1 = .ok g ∧
      g.records = [visitor, clerk, office, notice] ∧ g.tables = [clerk, office] ∧
      abbreviationText <$> g.abbreviation visitor = .ok "t0" ∧
      abbreviationText <$> g.abbreviation office = .ok "t1" ∧
      ¬∃ a, abbreviationText <$> g.abbreviation notice = .ok a := by
  have hempty : PublishedSchemas.BuiltFrom offices {} := List.forall_mem_nil _
  refine ⟨hempty, offices_built, ?_⟩
  obtain ⟨g, hg, hwalk, -, -, htables, hnumbers, hshared, hcomputed⟩ :=
    registration_depthFirst (σ := {}) hempty offices_built
  have walk : DepthFirst offices.shadows [] [visitor, notice, office] [visitor, clerk, office, notice] := by
    refine .visit (by decide) (.visit (by decide) (.visit (by decide) (.again (by decide) .done) .done) .done) ?_
    exact .visit (by decide) .done (.again (by decide) .done)
  have hrecords : g.records = [visitor, clerk, office, notice] := ((hwalk _).1 walk).symm
  rw [hrecords] at htables hshared hcomputed
  have htables : g.tables = [clerk, office] := htables.trans (by decide)
  rw [htables] at hnumbers
  obtain ⟨hclerk, hoffice⟩ : abbreviationText <$> g.abbreviation clerk = .ok "t0" ∧
      [abbreviationText <$> g.abbreviation office] = [.ok "t1"] := List.cons.inj hnumbers
  refine ⟨g, hg, hrecords, htables, ?_, List.singleton_inj.1 hoffice, ?_⟩
  · obtain ⟨a, hvisitor, ha⟩ := (hshared visitor (by decide) clerk (by decide)).2 ⟨clerk, rfl, rfl⟩
    rw [hvisitor, ← ha, hclerk]
  · rw [hcomputed notice (by decide) {} rfl]
    simp

end RecordSql
