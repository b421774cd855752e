import RecordSql.Proofs.Rendering.Simulation

/-!
# Alike keys

The values of a key are picked in the order of the primary key. Alike keys have alike values, null at the
same places, and fail alike; their components are rendered alike then.

- `find?_related`, `value?_related`: values of fields.
- `valuesInOrder_matches`, `fixedInOrder_matches`: the values of a key.
- `key_follows`, `multiKey_follows`: keys and choices of keys.
- `keyPieces_eq_ok`, `multiKeyPieces_eq_ok`: what the pieces of keys are put together of.
-/

namespace RecordSql

namespace Simulation

variable {L : Likeness} {S : Simulation L} {f f' : Frame}

/-! ### Values in order -/

/-- The first entry of which only the field matters. -/
theorem find?_related {rel : Value → Value → Prop} {q : String → Bool} :
    ∀ {vs vs' : FieldValues}, FieldValues.Related rel vs vs' →
    (vs.find? fun p => q p.1).map (·.1) = (vs'.find? fun p => q p.1).map (·.1)
  | _, _, .nil => rfl
  | p :: _, p' :: _, .cons h hs => by
    rw [List.find?_cons, List.find?_cons, h.1]
    cases q p.1 with
    | true => exact congrArg some h.1.symm
    | false => exact find?_related hs

theorem value?_related {rel : Value → Value → Prop} (field : String) :
    ∀ {vs vs' : FieldValues}, FieldValues.Related rel vs vs' →
    optionLike rel (vs.value? field) (vs'.value? field)
  | _, _, .nil => rfl
  | (n, v) :: vs, (_, v') :: vs', .cons ⟨rfl, hv⟩ hs => by
    show optionLike _ (List.lookup field ((n, v) :: vs)) (List.lookup field ((n, v') :: vs'))
    rw [List.lookup_cons, List.lookup_cons]
    cases field == n with
    | true => exact ⟨v', rfl, hv⟩
    | false => exact value?_related field hs

/-- The values of a key are alike, and null at the same places. -/
theorem pickValues_matches {fails : Failures} {record : String} {vs vs' : FieldValues}
    (h : L.Fields vs vs') : ∀ fields : List String,
      Matches fails (List.Forall₂ L.KeyValue)
        (pickValues record vs fields) (pickValues record vs' fields)
  | [] => .nil
  | field :: fields => by
    have hf := value?_related field h
    rw [pickValues, pickValues]
    cases hv : vs.value? field with
    | none =>
      rw [hv] at hf
      rw [show vs'.value? field = none from hf]
      exact fails.agree_self _
    | some v =>
      rw [hv] at hf
      obtain ⟨v', hv', hvv⟩ := hf
      rw [hv']
      exact (pickValues_matches h fields).bind fun as bs hs => .cons hvv hs

theorem pickValues_length {record : String} {vs : FieldValues} : ∀ {fields : List String}
    {values : List Value}, pickValues record vs fields = .ok values → values.length = fields.length
  | [], _, h => by
    cases h
    rfl
  | field :: fields, values, h => by
    rw [pickValues] at h
    cases hv : vs.value? field with
    | none =>
      rw [hv] at h
      cases h
    | some v =>
      rw [hv] at h
      cases hr : pickValues record vs fields with
      | error e =>
        rw [hr] at h
        cases h
      | ok rest =>
        rw [hr] at h
        cases h
        exact congrArg (· + 1) (pickValues_length hr)

theorem valuesInOrder_matches {fails : Failures} {k k' : Key} (h : k.Like L k')
    (primaryKey : List String) :
    Matches fails (List.Forall₂ L.KeyValue)
      (k.valuesInOrder primaryKey) (k'.valuesInOrder primaryKey) := by
  have hfind := find?_related (q := fun n => !primaryKey.contains n) h.2.1
  unfold Key.valuesInOrder
  rw [h.1]
  split
  · exact fails.agree_self _
  · cases hx : k.values.find? fun p => !primaryKey.contains p.1 with
    | none =>
      rw [hx, Option.map_none, eq_comm, Option.map_eq_none_iff] at hfind
      rw [hfind]
      exact pickValues_matches h.2.1 primaryKey
    | some p =>
      rw [hx, Option.map_some, eq_comm, Option.map_eq_some_iff] at hfind
      obtain ⟨p', hp', hpp⟩ := hfind
      rw [hp']
      show fails.agree (some (.keyMismatch _ (.notKeyField p.1))) (some (.keyMismatch _ (.notKeyField p'.1)))
      rw [hpp]
      exact fails.agree_self _

theorem fixedInOrder_matches {fails : Failures} {k k' : MultiKey} (h : k.Like L k')
    (primaryKey : List String) :
    Matches fails (List.Forall₂ L.KeyValue)
      (k.fixedInOrder primaryKey) (k'.fixedInOrder primaryKey) := by
  have hfind := find?_related (q := fun n => n == k.field || !primaryKey.contains n) h.2.2.1
  unfold MultiKey.fixedInOrder MultiKey.fixedFields
  rw [h.1, h.2.1]
  split
  · exact fails.agree_self _
  · cases hx : k.fixed.find? fun p => p.1 == k.field || !primaryKey.contains p.1 with
    | none =>
      rw [hx, Option.map_none, eq_comm, Option.map_eq_none_iff] at hfind
      rw [hfind]
      exact pickValues_matches h.2.2.1 _
    | some p =>
      rw [hx, Option.map_some, eq_comm, Option.map_eq_some_iff] at hfind
      obtain ⟨p', hp', hpp⟩ := hfind
      rw [hp']
      show fails.agree (some (.keyMismatch _ (.notFixedField p.1)))
        (some (.keyMismatch _ (.notFixedField p'.1)))
      rw [hpp]
      exact fails.agree_self _

/-! ### Components -/

theorem rel_valueList {values values' : List Value} (h : List.Forall₂ L.value values values') :
    S.rel True (valueList values) (valueList values') := by
  have all : ∀ {vs vs' : List Value}, List.Forall₂ L.value vs vs' →
      S.Items True (vs.map fun v => [.value v]) (vs'.map fun v => [.value v]) := by
    intro vs vs' h
    induction h with
    | nil => exact .nil
    | cons hv _ ih =>
      rw [← and_self True]
      exact .cons (S.rel_value hv) ih
  exact (all h).separated

/-- A choice of values behind what is compared with them. -/
theorem rel_in {a : Prop} {ps qs : List Piece} {values values' : List Value} (h : S.rel a ps qs)
    (hv : List.Forall₂ L.value values values') :
    S.rel a (ps ++ .word " in (" :: valueList values ++ [Piece.word ")"])
      (qs ++ .word " in (" :: valueList values' ++ [Piece.word ")"]) := by
  have choice := rel_before [.word " in ("] (by decide) (rel_valueList (S := S) hv)
  exact rel_after [.word ")"] (by decide) (rel_congr (S.rel_append h choice) (iff_of_eq (and_true a)))

theorem component_follows {record : RecordType} {field : String} {v v' : Value}
    (ha : S.alike f f') (hk : L.key record) (hf : field ∈ f.registry.keyFields record)
    (hv : L.value v v') (hn : v'.isNull = v.isNull) :
    S.Follows (S.keepsField f .key (.of record field)) (componentPieces S.expand f record field v)
      (componentPieces S.expand' f' record field v') := by
  refine (reference_follows ha (S.key ha hk hf)).bind fun ps qs h => ?_
  rw [hn]
  split
  · exact rel_after [.word " is null"] (by decide) h
  · refine rel_congr (S.rel_append h ?_) (iff_of_eq (and_true _))
    exact rel_before [.word " = "] (by decide) (S.rel_value hv)

/-- The components of a key show the definitions of its fields. -/
theorem components_follow {record : RecordType} (ha : S.alike f f') (hk : L.key record)
    {fields : List String} (hf : ∀ n ∈ fields, n ∈ f.registry.keyFields record)
    {values values' : List Value} (hlen : values.length = fields.length)
    (hv : List.Forall₂ L.KeyValue values values') :
    Matches S.fails (S.Items (∀ n ∈ fields, S.keepsField f .key (.of record n)))
      (componentsPieces S.expand f record (fields.zip values))
      (componentsPieces S.expand' f' record (fields.zip values')) := by
  have zipped : ∀ {fields : List String} {values values' : List Value},
      List.Forall₂ L.KeyValue values values' →
      List.Forall₂ (fun p p' => p'.1 = p.1 ∧ L.value p.2 p'.2 ∧ p'.2.isNull = p.2.isNull)
        (fields.zip values) (fields.zip values') := by
    intro fields
    induction fields with
    | nil => exact fun _ => .nil
    | cons n fields ih =>
      intro values values' h
      cases h with
      | nil => exact .nil
      | cons hv hs => exact .cons ⟨rfl, hv⟩ (ih hs)
  have steps := items (S := S) (k := fun p => S.keepsField f .key (.of record p.1))
    (f := fun p => componentPieces S.expand f record p.1 p.2)
    (g := fun p => componentPieces S.expand' f' record p.1 p.2) (zipped hv) fun p hp p' h => by
      rw [h.1]
      exact component_follows ha hk (hf p.1 (List.of_mem_zip hp).1) h.2.1 h.2.2
  have index : (∀ p ∈ fields.zip values, S.keepsField f .key (.of record p.1)) ↔
      ∀ n ∈ fields, S.keepsField f .key (.of record n) := by
    rw [← List.forall_mem_map (P := fun n => S.keepsField f .key (.of record n)) (f := Prod.fst),
      List.map_fst_zip (by omega)]
  rw [← propext index]
  exact steps

theorem keyFields_eq {g : Registry} {r : RecordType} {schema : RecordSchema}
    (h : g.schema r = .ok schema) : g.keyFields r = schema.primaryKey := by
  rw [Registry.keyFields, h]

theorem valuesInOrder_length {k : Key} {primaryKey : List String} {values : List Value}
    (h : k.valuesInOrder primaryKey = .ok values) : values.length = primaryKey.length := by
  unfold Key.valuesInOrder at h
  split at h
  · cases h
  · split at h
    · cases h
    · exact pickValues_length h

theorem fixedInOrder_ok {k : MultiKey} {primaryKey : List String} {values : List Value}
    (h : k.fixedInOrder primaryKey = .ok values) :
    k.field ∈ primaryKey ∧ values.length = (k.fixedFields primaryKey).length := by
  unfold MultiKey.fixedInOrder at h
  split at h
  · cases h
  · rename_i hc
    split at h
    · cases h
    · exact ⟨by simpa using hc, pickValues_length h⟩

theorem key_follows {k k' : Key} (ha : S.alike f f') (h : k.Like L k') :
    S.Follows (∀ n ∈ f.registry.keyFields k.record, S.keepsField f .key (.of k.record n))
      (keyPieces S.expand f k) (keyPieces S.expand' f' k') := by
  unfold keyPieces
  rw [h.1, show f'.registry = f.registry by rw [S.base ha]]
  refine Matches.bindSame fun schema hs => ?_
  have hfields := keyFields_eq hs
  refine (valuesInOrder_matches h schema.primaryKey).bindOk fun values values' hok hv => ?_
  rw [hfields]
  refine (components_follow ha h.2.2 (fun n hn => ?_) (valuesInOrder_length hok) hv).bind
    fun pss qss hps => ?_
  · rwa [hfields]
  · exact hps.separated

theorem multiKey_follows {k k' : MultiKey} (ha : S.alike f f') (h : k.Like L k') :
    S.Follows (∀ n ∈ f.registry.keyFields k.record, S.keepsField f .key (.of k.record n))
      (multiKeyPieces S.expand f k) (multiKeyPieces S.expand' f' k') := by
  obtain ⟨hrecord, hfield, _, hvalues, hkey⟩ := h
  unfold multiKeyPieces
  rw [hrecord, hfield, show f'.registry = f.registry by rw [S.base ha]]
  refine Matches.bindSame fun schema hs => ?_
  have hfields := keyFields_eq hs
  refine (fixedInOrder_matches ⟨hrecord, hfield, ‹_›, hvalues, hkey⟩ schema.primaryKey).bindOk
    fun values values' hok hv => ?_
  obtain ⟨hmem, hlen⟩ := fixedInOrder_ok hok
  rw [hfields]
  have hfixed : k'.fixedFields schema.primaryKey = k.fixedFields schema.primaryKey := by
    unfold MultiKey.fixedFields
    rw [hfield]
  have hsub : ∀ n ∈ k.fixedFields schema.primaryKey, n ∈ f.registry.keyFields k.record := by
    intro n hn
    rw [hfields]
    exact (List.mem_filter.1 hn).1
  rw [hfixed]
  refine (components_follow ha hkey hsub hlen hv).bind fun pss qss hps => ?_
  have hvarying : k.field ∈ f.registry.keyFields k.record := by rwa [hfields]
  have hcolumn := S.key ha hkey hvarying
  refine (reference_follows ha hcolumn).bind fun ps qs hp => ?_
  have all := hps.append (.cons (rel_in hp hvalues) .nil)
  refine rel_congr all.separated ?_
  rw [and_true]
  constructor
  · rintro ⟨hrest, hvarying⟩ n hn
    by_cases hc : n = k.field
    · rw [hc]
      exact hvarying
    · exact hrest n (List.mem_filter.2 ⟨hn, by simpa using hc⟩)
  · exact fun hk => ⟨fun n hn => hk n (List.mem_filter.1 hn).1, hk _ hmem⟩

end Simulation

/-! ### Keys that are rendered -/

section Rendered

variable {expand : Frame → Expr → Rendered} {f : Frame} {ps : List Piece}

/-- The pieces of a key are its components, one for each field of the primary key. -/
theorem keyPieces_eq_ok {k : Key} (h : keyPieces expand f k = .ok ps) :
    ∃ values pss, values.length = (f.registry.keyFields k.record).length ∧
      componentsPieces expand f k.record ((f.registry.keyFields k.record).zip values) = .ok pss ∧
      ps = separated " and " pss := by
  obtain ⟨schema, hschema, h⟩ := bind_eq_ok h
  obtain ⟨values, hvalues, h⟩ := bind_eq_ok h
  obtain ⟨pss, hpss, h⟩ := bind_eq_ok h
  cases h
  rw [Simulation.keyFields_eq hschema]
  exact ⟨values, pss, Simulation.valuesInOrder_length hvalues, hpss, rfl⟩

/-- The pieces of a key with a choice of values are its fixed components and, at the end, the choice. -/
theorem multiKeyPieces_eq_ok {k : MultiKey} (h : multiKeyPieces expand f k = .ok ps) :
    ∃ values pss column, k.field ∈ f.registry.keyFields k.record ∧
      values.length = (k.fixedFields (f.registry.keyFields k.record)).length ∧
      componentsPieces expand f k.record ((k.fixedFields (f.registry.keyFields k.record)).zip values) =
        .ok pss ∧
      referencePieces expand f .key (.of k.record k.field) = .ok column ∧
      ps = separated " and "
        (pss ++ [column ++ .word " in (" :: valueList k.values ++ [Piece.word ")"]]) := by
  obtain ⟨schema, hschema, h⟩ := bind_eq_ok h
  obtain ⟨values, hvalues, h⟩ := bind_eq_ok h
  obtain ⟨pss, hpss, h⟩ := bind_eq_ok h
  obtain ⟨column, hcolumn, h⟩ := bind_eq_ok h
  cases h
  obtain ⟨hvarying, hlength⟩ := Simulation.fixedInOrder_ok hvalues
  rw [Simulation.keyFields_eq hschema]
  exact ⟨values, pss, column, hvarying, hlength, hpss, hcolumn, rfl⟩

end Rendered

end RecordSql
