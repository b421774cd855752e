import RecordSql.Proofs.Instance.Values
import RecordSql.Proofs.Registration.Closure
import RecordSql.Proofs.Rendering.Twins

/-!
# Restrictions to the keys of instances

A restriction to the key of an instance compares the columns of the primary key with the values of the
instance. Only a column can fail, and it fails for no key unless a definition replaces it.

- `Binds`: a computation fails for no key, and binds certain values if it succeeds.
- `reference_binds`, `reference_written`: a reference without definition binds nothing.
- `key_pieces`: what a restriction to the key of an instance is made of.
- `key_binds`, `key_written`: it binds the values of the key that are not null.
-/

namespace RecordSql

variable {catalog : Catalog} {s : RecordSchema} {i : Instance}

/-- The values that a restriction to the key of an instance binds: those of the key fields that are not
null, in the order of the primary key. -/
def RecordSchema.keyParameters (s : RecordSchema) (i : Instance) : Parameters :=
  (s.valuesWhere i (·.id)).filter fun v => !v.isNull

/-! ### Computations that fail for no key -/

/-- A computation that does not fail for a key. -/
def NoKeyFault {α : Type} (x : Except Error α) : Prop :=
  ∀ r fault, x ≠ .error (.keyMismatch r fault)

/-- A computation fails for no key, and binds certain values if it succeeds. -/
def Binds {α : Type} (bound : α → Parameters) (x : Except Error α) (values : Parameters) : Prop :=
  NoKeyFault x ∧ ∀ a, x = .ok a → bound a = values

section Steps

variable {α β ι : Type} {bound : α → Parameters}

theorem NoKeyFault.ok (a : α) : NoKeyFault (.ok a : Except Error α) :=
  fun _ _ h => nomatch h

theorem NoKeyFault.bind {x : Except Error α} {f : α → Except Error β} (hx : NoKeyFault x)
    (hf : ∀ a, NoKeyFault (f a)) : NoKeyFault (x >>= f) := by
  cases x with
  | ok a => exact hf a
  | error e =>
    intro r fault h
    exact hx r fault (congrArg Except.error (Except.error.inj h))

/-- Items that bind values one by one bind all of them together. -/
theorem Binds.mapM {f : ι → Except Error α} {v : ι → Parameters} {l : List ι}
    (h : ∀ a ∈ l, Binds bound (f a) (v a)) : Binds (List.flatMap bound) (l.mapM f) (l.flatMap v) := by
  induction l with
  | nil =>
    rw [List.mapM_nil]
    refine ⟨.ok [], fun b hb => ?_⟩
    cases hb
    rfl
  | cons a l ih =>
    obtain ⟨hfirst, hrest⟩ := List.forall_mem_cons.1 h
    rw [List.mapM_cons]
    refine ⟨hfirst.1.bind fun b => (ih hrest).1.bind fun bs => .ok (b :: bs), fun bs hbs => ?_⟩
    obtain ⟨b, hb, hbs⟩ := bind_eq_ok hbs
    obtain ⟨bs, hrun, hbs⟩ := bind_eq_ok hbs
    cases hbs
    simp [hfirst.2 b hb, (ih hrest).2 bs hrun]

/-- Items that all give results give them together. -/
theorem mapM_of_ok {f : ι → Except Error α} {l : List ι} (h : ∀ a ∈ l, ∃ b, f a = .ok b) :
    ∃ bs, l.mapM f = .ok bs := by
  induction l with
  | nil => exact ⟨[], rfl⟩
  | cons a l ih =>
    obtain ⟨⟨b, hb⟩, hrest⟩ := List.forall_mem_cons.1 h
    obtain ⟨bs, hbs⟩ := ih hrest
    exact ⟨b :: bs, by rw [List.mapM_cons, hb, ok_bind, hbs]; rfl⟩

end Steps

/-! ### References without definitions -/

section References

variable {expand : Frame → Expr → Rendered} {f : Frame} {use : ColumnUse} {r : RecordType} {n : String}

theorem schema_noKeyFault (g : Registry) (r : RecordType) : NoKeyFault (g.schema r) := by
  intro q fault h
  unfold Registry.schema at h
  split at h <;> cases h

/-- The label of a table is missed for no key. -/
theorem label_noKeyFault (t : RecordType) : NoKeyFault (f.label t) := by
  have hname : NoKeyFault (f.registry.tableName t) := by
    refine (schema_noKeyFault f.registry t).bind fun schema => ?_
    cases schema.table with
    | some name => exact .ok name
    | none => exact fun r fault h => nomatch h
  have howner : NoKeyFault (f.registry.tableOf t) := by
    refine (schema_noKeyFault f.registry t).bind fun schema => ?_
    cases schema.tableOwner with
    | some q => exact .ok q
    | none => exact fun r fault h => nomatch h
  have hnumber : NoKeyFault (f.registry.abbreviation t) := by
    refine howner.bind fun q => ?_
    cases f.registry.tables.idxOf? q with
    | some k => exact .ok k
    | none => exact fun r fault h => nomatch h
  unfold Frame.label
  split
  · exact hname.bind fun name => .ok (TableLabel.named name)
  · exact hnumber.bind fun k => .ok (TableLabel.abbreviation k)

/-- A reference to a field that no select around defines stands for what is stored. -/
theorem reference_plain (hdef : f.definition? r n = none) :
    referencePieces expand f use (.of r n) = (do
      let schema ← f.registry.schema r
      let field ← schema.getField n
      let stored ← f.stored (.of r n) r schema field
      stored.pieces expand f use n) := by
  have happlied : f.applied? use (.of r n) = none := by
    simp [Frame.applied?, FieldRef.of, hdef]
  have hresolve : f.resolve use (.of r n) = (do
      let schema ← f.registry.schema r
      let field ← schema.getField n
      f.stored (.of r n) r schema field) := by
    unfold Frame.resolve
    rw [happlied]
    rfl
  rw [referencePieces_eq, hresolve]
  simp only [bind_assoc]
  rfl

/-- What is stored is no definition and binds nothing. -/
theorem stored_binds (expand : Frame → Expr → Rendered) (use : ColumnUse) (n : String)
    {c : FieldRef} {schema : RecordSchema} {field : FieldSchema} {stored : Resolved}
    (h : f.stored c r schema field = .ok stored) :
    ∃ ps, stored.pieces expand f use n = .ok ps ∧ parameters ps = [] := by
  unfold Frame.stored at h
  split at h
  · cases h
    refine ⟨_, rfl, ?_⟩
    rw [parameters_cons]
    unfold fieldAlias
    split <;> rfl
  · split at h
    · cases h
    · split at h
      · cases h
        exact ⟨_, rfl, rfl⟩
      · obtain ⟨label, -, h⟩ := bind_eq_ok h
        cases h
        exact ⟨_, rfl, rfl⟩

/-- A reference to a field that no select around defines fails for no key and binds nothing. -/
theorem reference_binds (hdef : f.definition? r n = none) :
    Binds parameters (referencePieces expand f use (.of r n)) [] := by
  rw [reference_plain hdef]
  refine ⟨?fault, fun ps hps => ?bound⟩
  case fault =>
    refine (schema_noKeyFault f.registry r).bind fun schema => ?_
    have hfield : NoKeyFault (schema.getField n) := by
      unfold RecordSchema.getField
      split
      · exact .ok _
      · exact fun r fault h => nomatch h
    refine hfield.bind fun field => ?_
    cases hstored : f.stored (.of r n) r schema field with
    | ok stored =>
      obtain ⟨ps, hps, -⟩ := stored_binds expand use n hstored
      rw [ok_bind, hps]
      exact .ok ps
    | error e =>
      intro q fault h
      cases h
      unfold Frame.stored at hstored
      split at hstored
      · cases hstored
      · split at hstored
        · cases hstored
        · rename_i t _
          have hlabel : f.label t >>= (fun label => .ok (.column label field.columnName)) =
              (.error (.keyMismatch q fault) : Except Error Resolved) := hstored
          exact ((label_noKeyFault t).bind fun label => .ok _) q fault hlabel
  case bound =>
    obtain ⟨schema, -, hps⟩ := bind_eq_ok hps
    obtain ⟨field, -, hps⟩ := bind_eq_ok hps
    obtain ⟨stored, hstored, hps⟩ := bind_eq_ok hps
    obtain ⟨qs, hqs, hbound⟩ := stored_binds expand use n hstored
    rw [hqs] at hps
    cases hps
    exact hbound

/-- A reference to a field that no select around defines can be written if there is a table behind its
record. -/
theorem reference_written (hg : f.registry.Closed catalog) (hr : f.registry.schema r = .ok s)
    {field : FieldSchema} (hfield : s.getField n = .ok field) (howner : s.tableOwner.isSome)
    (hdef : f.definition? r n = none) :
    ∃ ps, referencePieces expand f use (.of r n) = .ok ps := by
  have hsource : ∃ t, (field.shadowOf <|> s.tableOwner) = some t := by
    obtain ⟨t, ht⟩ := Option.isSome_iff_exists.1 howner
    cases hshadow : field.shadowOf with
    | some q => exact ⟨q, rfl⟩
    | none => exact ⟨t, ht⟩
  obtain ⟨t, ht⟩ := hsource
  obtain ⟨label, hlabel⟩ := label_of_names rfl (hg.names_source hr hfield ht)
  have hstored : ∃ stored, f.stored (.of r n) r s field = .ok stored := by
    unfold Frame.stored
    cases field.literal with
    | some sql => exact ⟨_, rfl⟩
    | none =>
      simp only [ht, FieldRef.of, hlabel, ok_bind]
      exact ⟨_, rfl⟩
  obtain ⟨stored, hstored⟩ := hstored
  obtain ⟨ps, hps, -⟩ := stored_binds expand use n hstored
  exact ⟨ps, by rw [reference_plain hdef, hr, ok_bind, hfield, ok_bind, hstored, ok_bind, hps]⟩

end References

/-! ### Restrictions to keys -/

section Keys

variable {expand : Frame → Expr → Rendered} {f : Frame}
  (hs : RecordSchema.build catalog i.record = .ok s) (hi : i.Listed catalog)

/-- A column of a key is compared with its value. -/
def compared (column : List Piece) (v : Value) : List Piece :=
  column ++ if v.isNull then [Piece.word " is null"] else [Piece.word " = ", .value v]

theorem parameters_compared (column : List Piece) (v : Value) :
    parameters (compared column v) = parameters column ++ if v.isNull then [] else [v] := by
  rw [compared, parameters_append]
  cases v.isNull <;> rfl

/-- The columns of components are referred to in their order, and nothing else can fail. -/
theorem componentsPieces_zip (r : RecordType) : ∀ {names : List String} {vs : List Value},
    names.length = vs.length →
    componentsPieces expand f r (names.zip vs) =
      (names.mapM fun n => referencePieces expand f .key (.of r n)) >>= fun columns =>
        .ok (List.zipWith compared columns vs)
  | [], [], _ => rfl
  | n :: names, v :: vs, h => by
    have ih := componentsPieces_zip r (Nat.succ.inj h)
    unfold componentsPieces at ih ⊢
    rw [List.zip_cons_cons, List.mapM_cons, ih, List.mapM_cons, componentPieces]
    cases referencePieces expand f .key (.of r n) with
    | error e => rfl
    | ok column => cases names.mapM fun n => referencePieces expand f .key (.of r n) <;> rfl

/-- Columns that bind nothing are compared with the values that are not null. -/
theorem flatMap_compared : ∀ {columns : List (List Piece)} {vs : List Value},
    columns.length = vs.length → columns.flatMap parameters = [] →
    (List.zipWith compared columns vs).flatMap parameters = vs.filter fun v => !v.isNull
  | [], [], _, _ => rfl
  | column :: columns, v :: vs, hlength, hcolumns => by
    rw [List.flatMap_cons, List.append_eq_nil_iff] at hcolumns
    have ih := flatMap_compared (Nat.succ.inj hlength) hcolumns.2
    rw [List.zipWith_cons_cons, List.flatMap_cons, ih, parameters_compared, hcolumns.1]
    cases hv : v.isNull <;> simp [hv]

include hs hi

/-- A restriction to the key of an instance compares the columns of the primary key, in their order, with
the values of the instance. It can fail for a column only. -/
theorem key_pieces {k : Key} (hk : s.keyOf i = .ok k) (hr : f.registry.schema i.record = .ok s) :
    conditionPieces expand f (.key k) =
      (s.primaryKey.mapM fun n => referencePieces expand f .key (.of i.record n)) >>= fun columns =>
        .ok ([Piece.clauseBreak, .word "where "] ++
          separated " and " (List.zipWith compared columns (s.valuesWhere i (·.id)))) := by
  obtain ⟨hrecord, hinOrder⟩ := keyOf_inOrder hs hi hk
  have hkey : keyPieces expand f k =
      componentsPieces expand f i.record (s.primaryKey.zip (s.valuesWhere i (·.id))) >>= fun pss =>
        .ok (separated " and " pss) := by
    unfold keyPieces
    simp only [hrecord, hr, ok_bind, hinOrder]
    rfl
  rw [conditionPieces, hkey, componentsPieces_zip i.record (length_key hs hi)]
  cases s.primaryKey.mapM fun n => referencePieces expand f .key (.of i.record n) <;> rfl

/-- A restriction to the key of an instance fails for no key, wherever it stands, and binds the values of
the key that are not null. -/
theorem key_binds {k : Key} (hk : s.keyOf i = .ok k) (hr : f.registry.schema i.record = .ok s)
    (hdef : ∀ n ∈ s.primaryKey, f.definition? i.record n = none) :
    Binds parameters (conditionPieces expand f (.key k)) (s.keyParameters i) := by
  have hcolumns : Binds (List.flatMap parameters)
      (s.primaryKey.mapM fun n => referencePieces expand f .key (.of i.record n))
      (s.primaryKey.flatMap fun _ => []) :=
    Binds.mapM fun n hn => reference_binds (hdef n hn)
  rw [key_pieces hs hi hk hr]
  refine ⟨hcolumns.1.bind fun columns => .ok _, fun ps hps => ?_⟩
  obtain ⟨columns, hrun, hps⟩ := bind_eq_ok hps
  cases hps
  have hlength : columns.length = (s.valuesWhere i (·.id)).length := by
    rw [← (mapM_eq_ok hrun).length_eq, length_key hs hi]
  have hnone : columns.flatMap parameters = [] := by
    rw [hcolumns.2 columns hrun]
    exact List.flatMap_eq_nil_iff.2 fun _ _ => rfl
  rw [parameters_append, parameters_separated, flatMap_compared hlength hnone]
  rfl

/-- A restriction to the key of an instance can be written if there is a table behind its record. -/
theorem key_written {k : Key} (hk : s.keyOf i = .ok k) (hg : f.registry.Closed catalog)
    (hr : f.registry.schema i.record = .ok s) (howner : s.tableOwner.isSome)
    (hdef : ∀ n ∈ s.primaryKey, f.definition? i.record n = none) :
    ∃ ps, conditionPieces expand f (.key k) = .ok ps ∧ parameters ps = s.keyParameters i := by
  have hcolumns : ∃ columns,
      (s.primaryKey.mapM fun n => referencePieces expand f .key (.of i.record n)) = .ok columns := by
    refine mapM_of_ok fun n hn => ?_
    obtain ⟨field, hfield, hname⟩ := List.mem_map.1 hn
    have hget : s.getField n = .ok field := by
      rw [← hname]
      exact getField_of_mem (build_names hs).2 (List.mem_filter.1 hfield).1
    exact reference_written hg hr hget howner (hdef n hn)
  obtain ⟨columns, hrun⟩ := hcolumns
  have hkey : conditionPieces expand f (.key k) = _ := key_pieces hs hi hk hr
  rw [hrun, ok_bind] at hkey
  exact ⟨_, hkey, (key_binds hs hi hk hr hdef).2 _ hkey⟩

end Keys

end RecordSql
