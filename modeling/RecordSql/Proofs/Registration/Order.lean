import RecordSql.Proofs.Registration

/-!
# The order of registration

A registration takes pending records one by one, each new record followed by the records that it shadows,
and stops at the first record without schema. The session plays no other part in it than to tell the
schemas, and it is left with the schemas that it had and those that were found on the way.

- `Session.schemaFor`: the schema of a record in a session.
- `Registers`: a registration, record by record, with the record that stops it.
- `Session.registered`: a session with the schemas of a registry published.
- `build_registers`: registering the records of a statement is such a registration.
- `Registers.unique`, `Registers.keeps`, `Registers.fresh`: it is determined by the schemas, it keeps
  what is registered, and no record is registered twice.
-/

namespace RecordSql

variable {catalog : Catalog} {σ : Session}

/-! ### Schemas of a session -/

/-- The schema of a record in a session: the one that is published, or else the one that is built. -/
def Session.schemaFor (catalog : Catalog) (σ : Session) (r : RecordType) : Except Error RecordSchema :=
  match σ.cache.find? r with
  | some schema => .ok schema
  | none => RecordSchema.build catalog r

/-- A session with some more schemas published, one after the other. -/
def Session.publishing (σ : Session) (new : List (RecordType × RecordSchema)) : Session where
  cache := ⟨σ.cache.entries ++ new⟩
  log := σ.log ++ new.map fun p => .schemaPublished p.1

@[simp] theorem publishing_nil (σ : Session) : σ.publishing [] = σ := by
  simp [Session.publishing]

theorem publishing_append (σ : Session) (new more : List (RecordType × RecordSchema)) :
    σ.publishing (new ++ more) = (σ.publishing new).publishing more := by
  simp [Session.publishing]

/-- The schema of a session is given out, and it is published unless it was before. -/
theorem schemaOf_runIn (catalog : Catalog) (σ : Session) (r : RecordType) :
    (schemaOf catalog r).runIn σ =
      match σ.schemaFor catalog r with
      | .error e => (.error e, σ)
      | .ok schema =>
        (.ok schema, if (σ.cache.find? r).isNone then σ.publishing [(r, schema)] else σ) := by
  unfold Session.schemaFor
  cases hr : σ.cache.find? r with
  | some schema =>
    rw [schemaOf_published hr]
    simp
  | none =>
    rw [schemaOf_unpublished hr]
    cases hb : RecordSchema.build catalog r <;> rfl

/-! ### Registrations -/

/-- A registration: pending records are registered in order, each new one followed by its shadows. It ends
when none is left, or at the first record without schema and the error that tells why. -/
inductive Registers (find : RecordType → Except Error RecordSchema) :
    Registry → List RecordType → Registry → Option (RecordType × Error) → Prop
  | done {g} : Registers find g [] g none
  | again {g r pending g' stop} : g.contains r = true → Registers find g pending g' stop →
      Registers find g (r :: pending) g' stop
  | add {g r pending schema g' stop} : g.contains r = false → find r = .ok schema →
      Registers find (g.add r schema) (schema.shadows ++ pending) g' stop →
      Registers find g (r :: pending) g' stop
  | fails {g r pending e} : g.contains r = false → find r = .error e →
      Registers find g (r :: pending) g (some (r, e))

/-- What a registration gives. -/
def Registry.outcome (g : Registry) : Option (RecordType × Error) → Except Error Registry
  | none => .ok g
  | some (_, e) => .error e

theorem contains_iff {g : Registry} {r : RecordType} : g.contains r = true ↔ r ∈ g.records := by
  simp [Registry.contains, Registry.records]

@[simp] theorem records_add (g : Registry) (r : RecordType) (schema : RecordSchema) :
    (g.add r schema).records = g.records ++ [r] := by
  simp [Registry.records, Registry.add]

namespace Registers

variable {find : RecordType → Except Error RecordSchema} {g g' : Registry} {pending : List RecordType}
  {stop : Option (RecordType × Error)}

/-- The schemas of the records determine how a registration goes. -/
theorem unique (h : Registers find g pending g' stop) {g'' : Registry}
    {stop' : Option (RecordType × Error)} (h' : Registers find g pending g'' stop') :
    g'' = g' ∧ stop' = stop := by
  induction h with
  | done =>
    cases h'
    exact ⟨rfl, rfl⟩
  | again hc _ ih =>
    cases h' with
    | again _ h' => exact ih h'
    | add hnew => rw [hc] at hnew; cases hnew
    | fails hnew => rw [hc] at hnew; cases hnew
  | add hnew hfind _ ih =>
    cases h' with
    | again hc => rw [hnew] at hc; cases hc
    | add _ hfind' h' =>
      obtain rfl := Except.ok.inj (hfind.symm.trans hfind')
      exact ih h'
    | fails _ hfind' => rw [hfind] at hfind'; cases hfind'
  | fails hnew hfind =>
    cases h' with
    | again hc => rw [hnew] at hc; cases hc
    | add _ hfind' => rw [hfind] at hfind'; cases hfind'
    | fails _ hfind' =>
      obtain rfl := Except.error.inj (hfind.symm.trans hfind')
      exact ⟨rfl, rfl⟩

/-- What is registered stays so, with its schema and in its place. -/
theorem keeps (h : Registers find g pending g' stop) : g.schemas <+: g'.schemas := by
  induction h with
  | done => exact List.prefix_refl _
  | again _ _ ih => exact ih
  | add _ _ _ ih => exact (List.prefix_append _ _).trans ih
  | fails => exact List.prefix_refl _

/-- What is added is the schema of its record. -/
theorem schemas_found (h : Registers find g pending g' stop) :
    ∀ p ∈ g'.schemas, p ∈ g.schemas ∨ find p.1 = .ok p.2 := by
  induction h with
  | done => exact fun p hp => .inl hp
  | again _ _ ih => exact ih
  | @add g r pending schema g' stop _ hfind _ ih =>
    intro p hp
    rcases ih p hp with hadd | hp
    · rcases List.mem_append.1 hadd with hp | hnew
      · exact .inl hp
      · cases List.mem_singleton.1 hnew
        exact .inr hfind
    · exact .inr hp
  | fails => exact fun p hp => .inl hp

/-- No record is registered twice. -/
theorem fresh (h : Registers find g pending g' stop) (hg : g.records.Nodup) : g'.records.Nodup := by
  induction h with
  | done => exact hg
  | again _ _ ih => exact ih hg
  | @add g r pending schema g' stop hnew _ _ ih =>
    refine ih ?_
    rw [records_add]
    have hr : r ∉ g.records := fun hmem => by
      rw [contains_iff.2 hmem] at hnew
      cases hnew
    simpa [List.nodup_append] using ⟨hg, fun q hq hqr => hr (hqr ▸ hq)⟩
  | fails => exact hg

/-- The record that stops a registration has no schema and is not registered. -/
theorem stopped {r : RecordType} {e : Error} (h : Registers find g pending g' (some (r, e))) :
    find r = .error e ∧ g'.contains r = false := by
  generalize hstop : some (r, e) = stop at h
  induction h with
  | done => cases hstop
  | again _ _ ih => exact ih hstop
  | add _ _ _ ih => exact ih hstop
  | fails hnew hfind =>
    cases hstop
    exact ⟨hfind, hnew⟩

/-- Where nothing stops it, all pending records are registered. -/
theorem pending_registered (h : Registers find g pending g' none) : pending ⊆ g'.records := by
  generalize hstop : none = stop at h
  induction h with
  | done => exact List.nil_subset _
  | again hc rest ih =>
    refine List.cons_subset.2 ⟨?_, ih hstop⟩
    exact (rest.keeps.map Prod.fst).subset (contains_iff.1 hc)
  | @add g r pending schema g' stop _ _ rest ih =>
    refine List.cons_subset.2 ⟨?_, (List.append_subset.1 (ih hstop)).2⟩
    have hadd : r ∈ (g.add r schema).records := by simp
    exact (rest.keeps.map Prod.fst).subset hadd
  | fails => cases hstop

/-- Registrations that find the same schemas go alike. -/
theorem congr {find' : RecordType → Except Error RecordSchema} (h : Registers find g pending g' stop)
    (hfind : ∀ r, find' r = find r) : Registers find' g pending g' stop := by
  obtain rfl : find' = find := funext hfind
  exact h

end Registers

/-! ### Registering in a session -/

/-- The registered schemas that are not published yet, in the order of registration. -/
def Session.unpublished (σ : Session) (g : Registry) : List (RecordType × RecordSchema) :=
  g.schemas.filter fun p => (σ.cache.find? p.1).isNone

/-- A session with the schemas of a registry published, in the order of registration. -/
def Session.registered (σ : Session) (g : Registry) : Session :=
  σ.publishing (σ.unpublished g)

@[simp] theorem registered_empty (σ : Session) : σ.registered {} = σ :=
  publishing_nil σ

/-- A record that is not registered has the schema that it had. -/
theorem find_registered {g : Registry} {r : RecordType} (hr : g.contains r = false) :
    (σ.registered g).cache.find? r = σ.cache.find? r := by
  have hnone : (σ.unpublished g).lookup r = none := by
    rw [List.lookup_eq_none_iff]
    intro p hp
    have hmem : p ∈ g.schemas := (List.mem_filter.1 hp).1
    rw [Registry.contains, List.any_eq_false] at hr
    have hne : p.1 ≠ r := fun h => hr p hmem (beq_iff_eq.2 h)
    exact bne_iff_ne.2 hne.symm
  show (σ.cache.entries ++ σ.unpublished g).lookup r = σ.cache.entries.lookup r
  rw [List.lookup_append, hnone, Option.or_none]

/-- One more record is registered. -/
theorem registered_add (g : Registry) (r : RecordType) (schema : RecordSchema) :
    σ.registered (g.add r schema) =
      if (σ.cache.find? r).isNone then (σ.registered g).publishing [(r, schema)]
      else σ.registered g := by
  have happend : σ.unpublished (g.add r schema) =
      σ.unpublished g ++ [(r, schema)].filter fun p => (σ.cache.find? p.1).isNone :=
    List.filter_append _ _
  rw [Session.registered, happend, publishing_append]
  cases hr : σ.cache.find? r with
  | none => simp [Session.registered, hr]
  | some _ => simp [Session.registered, hr]

/-- One step of a registration leaves behind the session with one more record registered. -/
theorem schemaOf_registered {g : Registry} {r : RecordType} (hr : g.contains r = false) :
    (schemaOf catalog r).runIn (σ.registered g) =
      match σ.schemaFor catalog r with
      | .error e => (.error e, σ.registered g)
      | .ok schema => (.ok schema, σ.registered (g.add r schema)) := by
  have hfor : (σ.registered g).schemaFor catalog r = σ.schemaFor catalog r := by
    unfold Session.schemaFor
    rw [find_registered hr]
  rw [schemaOf_runIn, hfor]
  cases σ.schemaFor catalog r with
  | error e => rfl
  | ok schema =>
    dsimp only
    rw [registered_add, find_registered hr]

/-- Registering records is a registration with the schemas of the session where it starts, provided that
records that are not known have no shadows. -/
theorem extend_registers {known : List RecordType}
    (hknown : ∀ r schema, r ∉ known → σ.schemaFor catalog r = .ok schema → schema.shadows = [])
    (g : Registry) (pending : List RecordType) :
    ∃ g' stop, Registers (σ.schemaFor catalog) g pending g' stop ∧
      (Registry.extend catalog known g pending).runIn (σ.registered g) =
        (g'.outcome stop, σ.registered g') := by
  induction g, pending using Registry.extend.induct known with
  | case1 g =>
    refine ⟨g, none, .done, ?_⟩
    rw [Registry.extend]
    rfl
  | case2 g r pending hc ih =>
    obtain ⟨g', stop, hreg, hrun⟩ := ih
    refine ⟨g', stop, .again hc hreg, ?_⟩
    rw [Registry.extend, dif_pos hc]
    exact hrun
  | case3 g r pending hc ihKnown ihUnknown =>
    have hnew : g.contains r = false := Bool.eq_false_iff.2 hc
    rw [Registry.extend, dif_neg hc]
    cases hfind : σ.schemaFor catalog r with
    | error e =>
      refine ⟨g, some (r, e), .fails hnew hfind, ?_⟩
      rw [runIn_bind, schemaOf_registered hnew, hfind]
      rfl
    | ok schema =>
      by_cases hk : r ∈ known
      · obtain ⟨g', stop, hreg, hrun⟩ := ihKnown schema hk
        refine ⟨g', stop, .add hnew hfind hreg, ?_⟩
        rw [runIn_bind, schemaOf_registered hnew, hfind]
        simp only [dif_pos hk]
        exact hrun
      · obtain ⟨g', stop, hreg, hrun⟩ := ihUnknown schema
        have hshadows : schema.shadows = [] := hknown r schema hk hfind
        refine ⟨g', stop, .add hnew hfind ?_, ?_⟩
        · rw [hshadows]
          exact hreg
        · rw [runIn_bind, schemaOf_registered hnew, hfind]
          simp only [dif_neg hk]
          exact hrun

/-- A record that is neither declared nor published shadows nothing. -/
theorem shadows_of_unknown {r : RecordType} {schema : RecordSchema}
    (hr : r ∉ catalog.declared.map (·.1) ++ σ.cache.records)
    (hschema : σ.schemaFor catalog r = .ok schema) : schema.shadows = [] := by
  have hdeclared : r ∉ catalog.declared.map (·.1) := fun h => hr (List.mem_append_left _ h)
  have hpublished : r ∉ σ.cache.records := fun h => hr (List.mem_append_right _ h)
  have hnone : σ.cache.find? r = none := by
    cases hfind : σ.cache.find? r with
    | none => rfl
    | some s => exact absurd (mem_records hfind) hpublished
  have hdescriptor : catalog.descriptor r = { typeName := r.name } := by
    have hlookup : catalog.declared.lookup r = none := by
      cases hfind : catalog.declared.lookup r with
      | none => rfl
      | some d => exact absurd (List.mem_map_of_mem (mem_of_lookup hfind)) hdeclared
    rw [Catalog.descriptor, hlookup]
    rfl
  have hbuild : RecordSchema.build catalog r = .ok schema := by
    rw [Session.schemaFor, hnone] at hschema
    exact hschema
  obtain ⟨-, resolved⟩ := build_resolved hbuild
  rw [hdescriptor] at resolved
  have hnofields : schema.fields = [] := List.forall₂_nil_left_iff.1 resolved.fields
  have hnoshadow : schema.shadowOf = none := by
    rw [RecordSchema.shadowOf, resolved.computed]
    rfl
  rw [RecordSchema.shadows, hnofields, hnoshadow]
  rfl

/-- Registering the records of a statement. -/
theorem build_registers (catalog : Catalog) (σ : Session) (records : List RecordType) :
    ∃ g stop, Registers (σ.schemaFor catalog) {} records g stop ∧
      (Registry.build catalog records).runIn σ = (g.outcome stop, σ.registered g) := by
  have hknown : ∀ r schema, r ∉ catalog.declared.map (·.1) ++ σ.cache.records →
      σ.schemaFor catalog r = .ok schema → schema.shadows = [] :=
    fun _ _ hr hschema => shadows_of_unknown hr hschema
  obtain ⟨g, stop, hreg, hrun⟩ := extend_registers hknown {} records
  rw [registered_empty] at hrun
  exact ⟨g, stop, hreg, hrun⟩

/-- A session whose schemas are built from the catalog has the schemas that are built from it. -/
theorem schemaFor_built (hσ : σ.cache.BuiltFrom catalog) (r : RecordType) :
    σ.schemaFor catalog r = RecordSchema.build catalog r := by
  unfold Session.schemaFor
  cases hr : σ.cache.find? r with
  | none => rfl
  | some schema => exact (hσ _ (mem_of_lookup hr)).symm

end RecordSql
