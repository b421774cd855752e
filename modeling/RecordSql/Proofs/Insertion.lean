import RecordSql.Proofs.Decision
import RecordSql.Proofs.Instance.Values
import RecordSql.Proofs.Key.Coverage
import RecordSql.Proofs.Rendering.Laid
import RecordSql.Proofs.Rendering.Twins
import RecordSql.Proofs.Schema.Declared
import RecordSql.Proofs.Session.History

/-!
# Inserts

An insert names the columns of all stored fields, and it has a slot for each of them, in the same order. The
database fills in the fields that are generated or that the insert leaves to it; the slots of all others
bind the first value that is given for them.

- `Insert.LeavesOut`, `Insert.Fills`: the fields that are left to the database, and those that an insert is
  complete with.
- `insertSlot_decides`, `insertPieces_decides`: an insert is written exactly if it is complete.
- `inserts_aligned`: what a compiled insert reads as, and what it binds.
-/

namespace RecordSql

variable {catalog : Catalog} {s : RecordSchema} {i : Insert}

/-! ### Slots -/

/-- A field is left to the database, by the insert or because the database generates it. -/
def Insert.LeavesOut (i : Insert) (f : FieldSchema) : Prop :=
  f.name ∈ i.identityFields ∨ f.isIdentity

instance (i : Insert) (f : FieldSchema) : Decidable (i.LeavesOut f) :=
  inferInstanceAs (Decidable (_ ∨ _))

/-- A field is left to the database or given a value. -/
def Insert.Fills (i : Insert) (f : FieldSchema) : Prop :=
  i.LeavesOut f ∨ f.name ∈ i.values.map (·.1)

instance (i : Insert) (f : FieldSchema) : Decidable (i.Fills f) :=
  inferInstanceAs (Decidable (_ ∨ _))

/-- How the slot of a field reads. -/
def Insert.slotText (i : Insert) (f : FieldSchema) : String :=
  if i.LeavesOut f then "default" else "?"

/-- The slot of a field: what stands for the database, or the first value of the field. -/
def Insert.Slot (i : Insert) (f : FieldSchema) (ps : List Piece) : Prop :=
  (i.LeavesOut f ∧ ps = [.word "default"]) ∨
    ¬i.LeavesOut f ∧ ∃ v, i.values.value? f.name = some v ∧ ps = [.value v]

/-- An insert gives no value for a field that is not left to the database, while all stored fields in front
of that one are filled. -/
def Insert.Misses (i : Insert) (s : RecordSchema) (e : Error) : Prop :=
  ∃ before f after, s.storedFields = before ++ f :: after ∧ (∀ g ∈ before, i.Fills g) ∧
    ¬i.Fills f ∧ e = .missingValue i.record f.name

/-- The slot of a field is written exactly if the field is filled. -/
theorem insertSlot_decides (hnodup : (s.fields.map (·.name)).Nodup) {f : FieldSchema} (hf : f ∈ s.fields) :
    Decides (i.Fills f) (i.Slot f) (fun e => e = .missingValue i.record f.name)
      (insertSlot i (i.identityFields ++ s.identityFields) f) := by
  have hidentity : (i.identityFields ++ s.identityFields).contains f.name ↔ i.LeavesOut f := by
    rw [List.contains_iff_mem, List.mem_append, mem_identityFields hnodup hf, Insert.LeavesOut]
  unfold insertSlot
  split
  · rename_i hleft
    have hleft := hidentity.1 hleft
    exact ⟨.inl hleft, .inl ⟨hleft, rfl⟩⟩
  · rename_i hkept
    have hkept := mt hidentity.2 hkept
    cases hvalue : i.values.value? f.name with
    | none => exact ⟨fun hfills => value?_eq_none_iff.1 hvalue (hfills.resolve_left hkept), rfl⟩
    | some v =>
      have hgiven : f.name ∈ i.values.map (·.1) := by
        by_contra hmissing
        rw [value?_eq_none_iff.2 hmissing] at hvalue
        cases hvalue
      exact ⟨.inr hgiven, .inr ⟨hkept, v, hvalue, rfl⟩⟩

/-- A slot reads as it should. -/
theorem Insert.Slot.textOf {f : FieldSchema} {ps : List Piece} {dialect : Dialect} {l : Layout} {depth : Nat}
    (h : i.Slot f ps) : TextOf (fun _ => "?") dialect l depth (i.slotText f) ps := by
  unfold Insert.slotText
  obtain ⟨hleft, rfl⟩ | ⟨hkept, v, -, rfl⟩ := h
  · rw [if_pos hleft]
    exact .word (by decide)
  · rw [if_neg hkept]
    exact TextOf.plain (p := .value v) rfl

/-- Slots bind the first values of the fields that are not left to the database, in order. -/
theorem slots_bind {fields : List FieldSchema} {slots : List (List Piece)}
    (h : List.Forall₂ i.Slot fields slots) :
    (fields.filter fun f => ¬i.LeavesOut f).map (fun f => i.values.value? f.name) =
      (slots.flatMap parameters).map some := by
  induction h with
  | nil => rfl
  | cons hslot _ ih =>
    obtain ⟨hleft, rfl⟩ | ⟨hkept, v, hv, rfl⟩ := hslot
    · rw [List.filter_cons_of_neg (by simpa using hleft), ih]
      rfl
    · rw [List.filter_cons_of_pos (by simpa using hkept), List.map_cons, ih, hv]
      rfl

/-! ### Statements -/

/-- How an insert into a table with some fields reads. -/
def Insert.text (i : Insert) (options : Options) (table : String) (fields : List FieldSchema) : String :=
  "insert into " ++ (options.dialect.quote table ++ " (") ++
    ", ".intercalate (fields.map fun f => options.dialect.quote f.columnName) ++
    (")" ++ (options.layout.clauseBreak 0 ++ "values (")) ++ ", ".intercalate (fields.map i.slotText) ++ ")"

/-- The pieces of an insert read as the columns and slots of some fields, and they bind the first values of
the fields that are not left to the database. -/
structure Insert.Written (i : Insert) (dialect : Dialect) (table : String) (fields : List FieldSchema)
    (ps : List Piece) : Prop where
  reads : ∀ l, layout dialect l ps = i.text ⟨dialect, l⟩ table fields
  binds : (fields.filter fun f => ¬i.LeavesOut f).map (fun f => i.values.value? f.name) =
    (parameters ps).map some

/-- An insert is written exactly if it fills all stored fields. -/
theorem insertPieces_decides {f : Frame} (hnodup : (s.fields.map (·.name)).Nodup)
    (hschema : f.registry.schema i.record = .ok s) {table : String} (htable : s.table = some table) :
    Decides (∀ f ∈ s.storedFields, i.Fills f) (i.Written f.dialect table s.storedFields) (i.Misses s)
      (insertPieces f i) := by
  have hslots : Decides (∀ f ∈ s.storedFields, i.Fills f) (List.Forall₂ i.Slot s.storedFields) (i.Misses s)
      (s.storedFields.mapM (insertSlot i (i.identityFields ++ s.identityFields))) :=
    .mapM fun f hf => insertSlot_decides hnodup (List.mem_of_mem_filter hf)
  have hpieces : insertPieces f i =
      s.storedFields.mapM (insertSlot i (i.identityFields ++ s.identityFields)) >>= fun slots =>
        .ok ([Piece.word "insert into ", .ident table, .word " ("] ++
          separated ", " (s.storedFields.map fun c => [.ident c.columnName]) ++
          [Piece.word ")", .clauseBreak, .word "values ("] ++ separated ", " slots ++ [Piece.word ")"]) := by
    unfold insertPieces
    simp only [hschema, ok_bind, htable]
    rfl
  rw [hpieces]
  refine hslots.result fun slots _ hslots => ⟨fun l => ?reads, ?binds⟩
  case reads =>
    have hts : List.Forall₂ (TextOf (fun _ => "?") f.dialect l 0) (s.storedFields.map i.slotText) slots :=
      List.forall₂_map_left_iff.2 (hslots.imp fun _ _ => Insert.Slot.textOf)
    have hread : _ = layoutWith (fun _ => "?") f.dialect l 0 _ :=
      (textOf_insert (p := ⟨fun _ => "?", l⟩) table s.storedFields hts).1
    rw [layout, ← hread]
    rfl
  case binds =>
    have hcolumns : (s.storedFields.map fun c => [Piece.ident c.columnName]).flatMap parameters = [] := by
      rw [List.flatMap_map]
      exact List.flatMap_eq_nil_iff.2 fun _ _ => rfl
    rw [slots_bind hslots]
    simp only [parameters_append, parameters_separated, hcolumns]
    exact congrArg _ (List.append_nil _).symm

/-- An insert into a table compiles exactly if it fills all stored fields. Then it names their columns in the
order of declaration, which are the declared columns of the table, and it has as many slots, in the same
order: the database fills in what is left to it, and all others bind the first value of their field. If it
does not compile, it misses a value, and the first stored field without one is told. -/
theorem inserts_aligned (hs : RecordSchema.build catalog i.record = .ok s)
    (hr : Registrable catalog i.record) {table : String} (htable : s.table = some table) {σ : Session}
    (hσ : σ.cache.BuiltFrom catalog) (options : Options) :
    ((∃ c, ((compile catalog options (.insert i)).runIn σ).1 = .ok c) ↔ ∀ f ∈ s.storedFields, i.Fills f) ∧
    (∀ c, ((compile catalog options (.insert i)).runIn σ).1 = .ok c →
      c.sql = i.text options table s.storedFields ∧
      (s.storedFields.filter fun f => ¬i.LeavesOut f).map (fun f => i.values.value? f.name) =
        c.parameters.map some) ∧
    (∀ e, ((compile catalog options (.insert i)).runIn σ).1 = .error e → i.Misses s e) ∧
    ∀ dialect ds, s.declarations dialect = .ok ds →
      declaredColumns ds = s.storedFields.map (·.columnName) := by
  obtain ⟨g, -, hschema, hrun⟩ := compile_of_record hs hr hσ (s := .insert i)
    (fun q hq => List.mem_singleton.1 hq) (List.mem_singleton_self _) options
  have decided : Decides (∀ f ∈ s.storedFields, i.Fills f)
      (fun c : Compiled => c.sql = i.text options table s.storedFields ∧
        (s.storedFields.filter fun f => ¬i.LeavesOut f).map (fun f => i.values.value? f.name) =
          c.parameters.map some)
      (i.Misses s) ((compile catalog options (.insert i)).runIn σ).1 := by
    rw [hrun]
    exact (insertPieces_decides (f := { dialect := options.dialect, registry := g }) (build_names hs).2 hschema
      htable).map fun ps _ hps => ⟨hps.reads options.layout, hps.binds⟩
  exact ⟨decided.exists_iff, fun c hc => (decided.ok hc).2, fun e he => (decided.error he).2,
    fun dialect ds hds => declarations_columns (by rw [htable]; rfl) hds⟩

/-- Receipts. -/
def receipt : RecordType := ⟨"Receipt"⟩

/-- Receipts are numbered by the database; what is still due of their total is computed. -/
def tills : Catalog where
  declared :=
    [(receipt,
      { typeName := "Receipt", table := some "receipts",
        fields :=
          [{ numberDescriptor "number" true none with generated := some { strategy := .auto } },
            { numberDescriptor "total" false none with column := { name := some "amount" } },
            numberDescriptor "due" false (some {}), numberDescriptor "printed" false none] })]

/-- The schema of receipts. -/
def receiptSchema : RecordSchema where
  record := receipt
  typeName := "Receipt"
  table := some "receipts"
  computed := none
  fields :=
    [{ numberField "number" "number" true none with generated := some { strategy := .auto } },
      { numberField "total" "amount" false none with column := { name := some "amount" } },
      numberField "due" "due" false (some {}), numberField "printed" "printed" false none]
  keyGenerator := some ⟨"number", .auto, none⟩
  indexes := []
  unique := []
  fullText := []
  generators := []

theorem build_receipt : RecordSchema.build tills receipt = .ok receiptSchema :=
  rfl

/-- A receipt with two totals and with a value for no field; the database says when it is printed. -/
def secondTotal : Insert where
  record := receipt
  values := [("till", .integer 2), ("total", .integer 30), ("total", .integer 50)]
  identityFields := ["printed"]

/-- The first total is written, and a receipt without one is refused. -/
theorem secondTotal_aligned :
    RecordSchema.build tills receipt = .ok receiptSchema ∧ Registrable tills receipt ∧
    (∃ c, ((compile tills {} (.insert secondTotal)).runIn {}).1 = .ok c ∧
      c.sql = "insert into receipts (number, amount, printed) values (default, ?, default)" ∧
      c.parameters = [.integer 30]) ∧
    ∃ e, ((compile tills {} (.insert { secondTotal with values := [] })).runIn {}).1 = .error e ∧
      Insert.Misses { secondTotal with values := [] } receiptSchema e := by
  have hr : Registrable tills receipt := registrable_of_unshadowing build_receipt rfl
  have hnew : ({} : Session).cache.BuiltFrom tills := List.forall_mem_nil _
  obtain ⟨hiff, hok, -, -⟩ :=
    inserts_aligned (i := secondTotal) build_receipt hr rfl hnew {}
  obtain ⟨c, hc⟩ := hiff.2 (by decide)
  obtain ⟨hsql, hvalues⟩ := hok c hc
  have hbound : c.parameters = [.integer 30] :=
    List.map_injective_iff.2 (Option.some_injective _) hvalues.symm
  obtain ⟨hiff', -, herror, -⟩ :=
    inserts_aligned (i := { secondTotal with values := [] }) build_receipt hr rfl hnew {}
  refine ⟨build_receipt, hr, ⟨c, hc, by rw [hsql]; decide +kernel, hbound⟩, ?_⟩
  cases hrun : ((compile tills {} (.insert { secondTotal with values := [] })).runIn {}).1 with
  | ok c' => exact absurd (hiff'.1 ⟨c', hrun⟩) (by decide)
  | error e => exact ⟨e, rfl, herror e hrun⟩

end RecordSql
