import Mathlib.Data.Option.Basic
import RecordSql.Proofs.Instance.Values

/-!
# Keys that cover the primary key

The values of a key are found by the names of the primary key fields, in the order of their declaration.
They are all found, and nothing is left over, exactly if the names of the key are those of the primary
key; the order in which the key lists them plays no part.

- `pickValues_eq_ok_iff`, `exists_pickValues_iff`: picking values by names.
- `valuesInOrder_eq_ok_iff`, `valuesInOrder_fails_iff`: the values of a key.
- `fixedInOrder_eq_ok_iff`, `exists_fixedInOrder_iff`: the fixed values of a key with a choice of values.
- `value?_perm`, `valuesInOrder_perm`: keys that list the same values in another order.
-/

namespace RecordSql

/-! ### Values by names -/

section Picking

variable {values : FieldValues} {record : String}

/-- A name without value is not listed. -/
theorem value?_eq_none_iff {n : String} : values.value? n = none ↔ n ∉ values.map (·.1) := by
  rw [FieldValues.value?, List.lookup_eq_none_iff, List.mem_map]
  constructor
  · rintro h ⟨p, hp, rfl⟩
    simpa using h p hp
  · exact fun h p hp => bne_iff_ne.2 fun hn => h ⟨p, hp, hn.symm⟩

/-- What picking values comes to: the first values under the names, in the order of the names, or the
fault that one of the names is not listed. -/
theorem pickValues_cases (values : FieldValues) (record : String) : ∀ fields : List String,
    (∃ vs, pickValues record values fields = .ok vs ∧ fields.map values.value? = vs.map some) ∨
    ∃ n ∈ fields, n ∉ values.map (·.1) ∧
      pickValues record values fields = .error (.keyMismatch record (.missingValue n))
  | [] => .inl ⟨[], rfl, rfl⟩
  | n :: fields => by
    rw [pickValues, List.map_cons]
    cases hn : values.value? n with
    | none => exact .inr ⟨n, List.mem_cons_self, value?_eq_none_iff.1 hn, rfl⟩
    | some v =>
      obtain ⟨vs, hvs, hmap⟩ | ⟨m, hm, hmissing, herror⟩ := pickValues_cases values record fields
      · rw [hvs, hmap]
        exact .inl ⟨v :: vs, rfl, rfl⟩
      · rw [herror]
        exact .inr ⟨m, List.mem_cons_of_mem n hm, hmissing, rfl⟩

/-- The values that are picked are the first ones under the names, in the order of the names. -/
theorem pickValues_eq_ok_iff {fields : List String} {vs : List Value} :
    pickValues record values fields = .ok vs ↔ fields.map values.value? = vs.map some := by
  obtain ⟨ws, hws, hmap⟩ | ⟨n, hn, hmissing, herror⟩ := pickValues_cases values record fields
  · have hinj : Function.Injective (List.map (some : Value → Option Value)) :=
      List.map_injective_iff.2 (Option.some_injective _)
    rw [hws, hmap]
    exact ⟨fun h => congrArg _ (Except.ok.inj h), fun h => congrArg _ (hinj h)⟩
  · rw [herror]
    refine iff_of_false nofun fun h => ?_
    have hnone : none ∈ fields.map values.value? := List.mem_map.2 ⟨n, hn, value?_eq_none_iff.2 hmissing⟩
    rw [h] at hnone
    simp at hnone

/-- Values are picked exactly if all names are listed. -/
theorem exists_pickValues_iff (values : FieldValues) (record : String) (fields : List String) :
    (∃ vs, pickValues record values fields = .ok vs) ↔ ∀ n ∈ fields, n ∈ values.map (·.1) := by
  obtain ⟨vs, hvs, hmap⟩ | ⟨n, hn, hmissing, herror⟩ := pickValues_cases values record fields
  · refine iff_of_true ⟨vs, hvs⟩ fun n hn => ?_
    by_contra hmissing
    have hnone : none ∈ fields.map values.value? := List.mem_map.2 ⟨n, hn, value?_eq_none_iff.2 hmissing⟩
    rw [hmap] at hnone
    simp at hnone
  · rw [herror]
    exact iff_of_false nofun fun h => hmissing (h n hn)

/-- Where no name is listed twice, the order of the list plays no part. -/
theorem value?_perm {values' : FieldValues} (hnodup : (values.map (·.1)).Nodup)
    (hperm : values'.Perm values) (n : String) : values'.value? n = values.value? n := by
  have hnodup' : (values'.map (·.1)).Nodup := (hperm.map _).nodup_iff.2 hnodup
  cases hn : values.value? n with
  | none =>
    rw [value?_eq_none_iff] at hn ⊢
    rwa [(hperm.map Prod.fst).mem_iff]
  | some v => exact lookup_of_mem hnodup' (hperm.mem_iff.2 (mem_of_lookup hn))

end Picking

/-! ### Keys -/

section Keys

variable {k : Key} {primaryKey : List String}

/-- What the values of a key come to: those of the primary key fields, or the fault that the key does not
cover the primary key. -/
theorem valuesInOrder_eq_ok_iff {vs : List Value} :
    k.valuesInOrder primaryKey = .ok vs ↔
      primaryKey ≠ [] ∧ (∀ n ∈ k.values.map (·.1), n ∈ primaryKey) ∧
        primaryKey.map k.value? = vs.map some := by
  unfold Key.valuesInOrder
  split
  · rename_i hempty
    rw [List.isEmpty_iff] at hempty
    exact iff_of_false nofun fun h => h.1 hempty
  · rename_i hkeyed
    rw [List.isEmpty_iff] at hkeyed
    split
    · rename_i extra hextra
      refine iff_of_false nofun fun h => ?_
      have hmem := h.2.1 extra.1 (List.mem_map_of_mem (List.mem_of_find?_eq_some hextra))
      have houtside := List.find?_some hextra
      simp [hmem] at houtside
    · rename_i hnone
      have hall : ∀ n ∈ k.values.map (·.1), n ∈ primaryKey := by
        refine List.forall_mem_map.2 fun p hp => ?_
        simpa using List.find?_eq_none.1 hnone p hp
      rw [pickValues_eq_ok_iff]
      exact ⟨fun h => ⟨hkeyed, hall, h⟩, fun h => h.2.2⟩

/-- A key has values if it covers the primary key, and only then. -/
theorem exists_valuesInOrder_iff :
    (∃ vs, k.valuesInOrder primaryKey = .ok vs) ↔
      primaryKey ≠ [] ∧ ∀ n, n ∈ k.values.map (·.1) ↔ n ∈ primaryKey := by
  have hpick := exists_pickValues_iff k.values k.record.name primaryKey
  constructor
  · rintro ⟨vs, hvs⟩
    obtain ⟨hkeyed, hall, hmap⟩ := valuesInOrder_eq_ok_iff.1 hvs
    exact ⟨hkeyed, fun n => ⟨hall n, hpick.1 ⟨vs, pickValues_eq_ok_iff.2 hmap⟩ n⟩⟩
  · rintro ⟨hkeyed, hnames⟩
    obtain ⟨vs, hvs⟩ := hpick.2 fun n hn => (hnames n).2 hn
    refine ⟨vs, valuesInOrder_eq_ok_iff.2 ⟨hkeyed, fun n => (hnames n).1, pickValues_eq_ok_iff.1 hvs⟩⟩

/-- The values of a key fail for a fault of the key only. -/
theorem valuesInOrder_error {e : Error} (h : k.valuesInOrder primaryKey = .error e) :
    ∃ fault, e = .keyMismatch k.record.name fault := by
  unfold Key.valuesInOrder at h
  split at h
  · cases h
    exact ⟨_, rfl⟩
  · split at h
    · cases h
      exact ⟨_, rfl⟩
    · obtain ⟨vs, hvs, -⟩ | ⟨n, -, -, herror⟩ := pickValues_cases k.values k.record.name primaryKey
      · rw [hvs] at h
        cases h
      · rw [herror] at h
        cases h
        exact ⟨_, rfl⟩

/-- A key is at fault if there is no primary key, if it misses a field of it, or if it names another
field, and only then. -/
theorem valuesInOrder_fails_iff :
    (∃ fault, k.valuesInOrder primaryKey = .error (.keyMismatch k.record.name fault)) ↔
      primaryKey = [] ∨ (∃ n ∈ primaryKey, n ∉ k.values.map (·.1)) ∨
        ∃ n ∈ k.values.map (·.1), n ∉ primaryKey := by
  have hfails : (∃ fault, k.valuesInOrder primaryKey = .error (.keyMismatch k.record.name fault)) ↔
      ¬∃ vs, k.valuesInOrder primaryKey = .ok vs := by
    constructor
    · rintro ⟨fault, hfault⟩ ⟨vs, hvs⟩
      rw [hfault] at hvs
      cases hvs
    · intro hno
      cases hx : k.valuesInOrder primaryKey with
      | ok vs => exact absurd ⟨vs, hx⟩ hno
      | error e =>
        obtain ⟨fault, rfl⟩ := valuesInOrder_error hx
        exact ⟨fault, rfl⟩
  rw [hfails, exists_valuesInOrder_iff]
  constructor
  · intro hno
    by_contra hall
    push Not at hall
    exact hno ⟨hall.1, fun n => ⟨hall.2.2 n, hall.2.1 n⟩⟩
  · rintro (hempty | ⟨n, hn, hmissing⟩ | ⟨n, hn, hextra⟩) ⟨hkeyed, hnames⟩
    · exact hkeyed hempty
    · exact hmissing ((hnames n).2 hn)
    · exact hextra ((hnames n).1 hn)

/-- Keys that list the same values in another order have the same values. -/
theorem valuesInOrder_perm {k' : Key} {vs : List Value} (hnodup : (k.values.map (·.1)).Nodup)
    (hperm : k'.values.Perm k.values) (h : k.valuesInOrder primaryKey = .ok vs) :
    k'.valuesInOrder primaryKey = .ok vs := by
  obtain ⟨hkeyed, hall, hmap⟩ := valuesInOrder_eq_ok_iff.1 h
  refine valuesInOrder_eq_ok_iff.2 ⟨hkeyed, fun n hn => hall n ((hperm.map _).mem_iff.1 hn), ?_⟩
  rw [← hmap]
  exact List.map_congr_left fun n _ => value?_perm hnodup hperm n

end Keys

/-! ### Keys with a choice of values -/

section MultiKeys

variable {k : MultiKey} {primaryKey : List String}

theorem mem_fixedFields {n : String} : n ∈ k.fixedFields primaryKey ↔ n ∈ primaryKey ∧ n ≠ k.field := by
  simp [MultiKey.fixedFields]

/-- What the fixed values of a key come to: those of the primary key fields but for the varying one. -/
theorem fixedInOrder_eq_ok_iff {vs : List Value} :
    k.fixedInOrder primaryKey = .ok vs ↔
      k.field ∈ primaryKey ∧ (∀ n ∈ k.fixed.map (·.1), n ∈ k.fixedFields primaryKey) ∧
        (k.fixedFields primaryKey).map k.fixed.value? = vs.map some := by
  unfold MultiKey.fixedInOrder
  split
  · rename_i hvarying
    rw [Bool.not_eq_true', List.contains_eq_mem, decide_eq_false_iff_not] at hvarying
    exact iff_of_false nofun fun h => hvarying h.1
  · rename_i hvarying
    rw [Bool.not_eq_true', List.contains_eq_mem, decide_eq_false_iff_not, not_not] at hvarying
    split
    · rename_i extra hextra
      refine iff_of_false nofun fun h => ?_
      have hmem := h.2.1 extra.1 (List.mem_map_of_mem (List.mem_of_find?_eq_some hextra))
      have houtside := List.find?_some hextra
      obtain ⟨hkey, hfixed⟩ := mem_fixedFields.1 hmem
      simp [hkey, hfixed] at houtside
    · rename_i hnone
      have hall : ∀ n ∈ k.fixed.map (·.1), n ∈ k.fixedFields primaryKey := by
        refine List.forall_mem_map.2 fun p hp => mem_fixedFields.2 ?_
        have hno := List.find?_eq_none.1 hnone p hp
        simp only [Bool.or_eq_true, beq_iff_eq, Bool.not_eq_true', not_or, Bool.not_eq_false] at hno
        exact ⟨List.contains_iff_mem.1 hno.2, hno.1⟩
      rw [pickValues_eq_ok_iff]
      exact ⟨fun h => ⟨hvarying, hall, h⟩, fun h => h.2.2⟩

/-- A key with a choice of values has fixed values if the varying field is one of the primary key and the
others are its fixed ones, and only then. -/
theorem exists_fixedInOrder_iff :
    (∃ vs, k.fixedInOrder primaryKey = .ok vs) ↔
      k.field ∈ primaryKey ∧ ∀ n, n ∈ k.fixed.map (·.1) ↔ n ∈ primaryKey ∧ n ≠ k.field := by
  have hpick := exists_pickValues_iff k.fixed k.record.name (k.fixedFields primaryKey)
  simp only [← mem_fixedFields]
  constructor
  · rintro ⟨vs, hvs⟩
    obtain ⟨hvarying, hall, hmap⟩ := fixedInOrder_eq_ok_iff.1 hvs
    exact ⟨hvarying, fun n => ⟨hall n, hpick.1 ⟨vs, pickValues_eq_ok_iff.2 hmap⟩ n⟩⟩
  · rintro ⟨hvarying, hnames⟩
    obtain ⟨vs, hvs⟩ := hpick.2 fun n hn => (hnames n).2 hn
    exact ⟨vs, fixedInOrder_eq_ok_iff.2 ⟨hvarying, fun n => (hnames n).1, pickValues_eq_ok_iff.1 hvs⟩⟩

end MultiKeys

end RecordSql
