import Mathlib.Tactic.Choose
import RecordSql.Proofs.Key.Conditions

/-!
# Rows that keys select

A restriction to a key is a conjunction of tests of columns, which SQL evaluates in a logic of three truth
values: what is compared with null is not known to be equal. A component of a key that is null is tested for
null instead. The values of a choice are all compared, so that a null among them never matches.

- `Truth`, `Test`, `Component`: truth values, and the tests of columns.
- `readRestriction?`: the tests that a written restriction consists of.
- `Selects`: a row passes all tests of a restriction.
- `selects_key`, `selects_choice`: the rows that a key selects, and a key with a choice of values.
- `choice_selects`: a key with a choice of values selects what its keys select, but for those of nulls.
-/

namespace RecordSql

/-! ### Truth values -/

/-- What a test comes to in SQL; nothing stands for a truth value that is not known. -/
abbrev Truth := Option Bool

namespace Truth

/-- Both of two tests. -/
def and : Truth → Truth → Truth
  | some false, _ => some false
  | _, some false => some false
  | some true, some true => some true
  | _, _ => none

/-- One of two tests. -/
def or : Truth → Truth → Truth
  | some true, _ => some true
  | _, some true => some true
  | some false, some false => some false
  | _, _ => none

/-- All of some tests. -/
def all (ts : List Truth) : Truth :=
  ts.foldr and (some true)

/-- Any of some tests. -/
def any (ts : List Truth) : Truth :=
  ts.foldr or (some false)

theorem and_eq_true_iff {a b : Truth} : a.and b = some true ↔ a = some true ∧ b = some true := by
  rcases a with _ | _ | _ <;> rcases b with _ | _ | _ <;> decide

theorem or_eq_true_iff {a b : Truth} : a.or b = some true ↔ a = some true ∨ b = some true := by
  rcases a with _ | _ | _ <;> rcases b with _ | _ | _ <;> decide

theorem all_eq_true_iff {ts : List Truth} : all ts = some true ↔ ∀ t ∈ ts, t = some true := by
  induction ts with
  | nil => simp [all]
  | cons t ts ih =>
    rw [List.forall_mem_cons, ← ih]
    exact and_eq_true_iff

theorem any_eq_true_iff {ts : List Truth} : any ts = some true ↔ ∃ t ∈ ts, t = some true := by
  induction ts with
  | nil => simp [any]
  | cons t ts ih =>
    rw [List.exists_mem_cons_iff, ← ih]
    exact or_eq_true_iff

end Truth

/-! ### Tests of columns -/

/-- Whether two values are equal, which is not known if one of them is null; `equal` says which other values
a database takes to be equal. -/
def equalTruth (equal : Value → Value → Bool) (x v : Value) : Truth :=
  if x.isNull || v.isNull then none else some (equal x v)

/-- What a column is tested for. -/
inductive Test
  | isNull
  | equals (v : Value)
  | among (vs : List Value)

/-- What a test of a value comes to. -/
def Test.truth (equal : Value → Value → Bool) (x : Value) : Test → Truth
  | .isNull => some x.isNull
  | .equals v => equalTruth equal x v
  | .among vs => .any (vs.map (equalTruth equal x))

/-- The test for a component of a key. -/
def Test.of (v : Value) : Test :=
  if v.isNull then .isNull else .equals v

/-- A column of a table with a test of it. -/
structure Component where
  label : TableLabel
  column : String
  test : Test

/-- The values of the columns of some tables. -/
abbrev RowValues := TableLabel → String → Value

/-- What a test of a column comes to in a row. -/
def Component.truth (equal : Value → Value → Bool) (row : RowValues) (c : Component) : Truth :=
  c.test.truth equal (row c.label c.column)

/-- A value passes the test for a component of a key. -/
def Admits (equal : Value → Value → Bool) (x v : Value) : Prop :=
  (Test.of v).truth equal x = some true

section Tests

variable {equal : Value → Value → Bool} {x v : Value}

theorem equalTruth_eq_true_iff :
    equalTruth equal x v = some true ↔ x.isNull = false ∧ v.isNull = false ∧ equal x v = true := by
  unfold equalTruth
  cases x.isNull <;> cases v.isNull <;> simp

/-- A null admits nulls alone. -/
theorem admits_null (hv : v.isNull) : Admits equal x v ↔ x.isNull := by
  simp [Admits, Test.of, hv, Test.truth]

/-- Any other value admits the values that are known to be equal to it. -/
theorem admits_value (hv : v.isNull = false) : Admits equal x v ↔ equalTruth equal x v = some true := by
  simp [Admits, Test.of, hv, Test.truth]

/-- A value is among others if one of these is not null and admits it. -/
theorem among_iff {vs : List Value} :
    (Test.among vs).truth equal x = some true ↔ ∃ v ∈ vs, v.isNull = false ∧ Admits equal x v := by
  rw [Test.truth, Truth.any_eq_true_iff]
  constructor
  · rintro ⟨t, ht, rfl⟩
    obtain ⟨v, hv, hequal⟩ := List.mem_map.1 ht
    have hvalue := (equalTruth_eq_true_iff.1 hequal).2.1
    exact ⟨v, hv, hvalue, (admits_value hvalue).2 hequal⟩
  · rintro ⟨v, hv, hvalue, hadmits⟩
    exact ⟨_, List.mem_map_of_mem hv, (admits_value hvalue).1 hadmits⟩

end Tests

/-! ### Reading restrictions -/

/-- The values of a choice, up to its closing parenthesis. -/
def readChoice? : List Piece → Option (List Value)
  | [.value v, .word ")"] => some [v]
  | .value v :: .word ", " :: rest => (readChoice? rest).map (v :: ·)
  | _ => none

/-- A test of a column. -/
def readComponent? : List Piece → Option Component
  | [.column label name, .word " is null"] => some ⟨label, name, .isNull⟩
  | [.column label name, .word " = ", .value v] => some ⟨label, name, .equals v⟩
  | [.column label name, .word " in (", .word ")"] => some ⟨label, name, .among []⟩
  | .column label name :: .word " in (" :: rest =>
    (readChoice? rest).map fun vs => ⟨label, name, .among vs⟩
  | _ => none

/-- Whether a piece stands between two tests. -/
def Piece.isAnd : Piece → Bool
  | .word " and " => true
  | _ => false

/-- The tests of a restriction. -/
def readRestriction? : List Piece → Option (List Component)
  | .clauseBreak :: .word "where " :: rest => (rest.splitOnP Piece.isAnd).mapM readComponent?
  | _ => none

/-- A row passes all tests of a restriction. -/
def Selects (equal : Value → Value → Bool) (row : RowValues) (ps : List Piece) : Prop :=
  (readRestriction? ps).map (fun cs => Truth.all (cs.map (·.truth equal row))) = some (some true)

instance (equal : Value → Value → Bool) (row : RowValues) (ps : List Piece) : Decidable (Selects equal row ps) :=
  inferInstanceAs (Decidable (_ = _))

/-- Pieces read as a test of a column, and nothing in them stands between two tests. -/
def Component.Reads (ps : List Piece) (c : Component) : Prop :=
  readComponent? ps = some c ∧ ∀ p ∈ ps, p.isAnd = false

section Reading

variable {label : TableLabel} {name : String}

theorem reads_compared (v : Value) :
    Component.Reads (compared [.column label name] v) ⟨label, name, Test.of v⟩ := by
  unfold compared Test.of
  cases v.isNull with
  | true => exact ⟨rfl, by simp [Piece.isAnd]⟩
  | false => exact ⟨rfl, by simp [Piece.isAnd]⟩

theorem readChoice?_values (v : Value) (vs : List Value) :
    readChoice? (valueList (v :: vs) ++ [.word ")"]) = some (v :: vs) := by
  induction vs generalizing v with
  | nil => rfl
  | cons w vs ih =>
    have hread : readChoice? (valueList (v :: w :: vs) ++ [.word ")"]) =
        (readChoice? (valueList (w :: vs) ++ [.word ")"])).map (v :: ·) := rfl
    rw [hread, ih]
    rfl

/-- The values of a choice begin with the first one. -/
theorem valueList_cons (v : Value) (vs : List Value) : ∃ rest, valueList (v :: vs) = .value v :: rest := by
  cases vs with
  | nil => exact ⟨[], rfl⟩
  | cons w vs => exact ⟨_, rfl⟩

/-- Nothing stands between two tests in the values of a choice. -/
theorem valueList_isAnd (vs : List Value) : ∀ p ∈ valueList vs, p.isAnd = false := by
  induction vs with
  | nil => exact List.forall_mem_nil _
  | cons v vs ih =>
    cases vs with
    | nil => exact List.forall_mem_singleton.2 rfl
    | cons w vs => exact List.forall_mem_cons.2 ⟨rfl, List.forall_mem_cons.2 ⟨rfl, ih⟩⟩

theorem reads_chosen (vs : List Value) :
    Component.Reads (chosen [.column label name] vs) ⟨label, name, .among vs⟩ := by
  constructor
  · cases vs with
    | nil => rfl
    | cons v vs =>
      obtain ⟨rest, hrest⟩ := valueList_cons v vs
      have hread : readComponent? (chosen [.column label name] (v :: vs)) =
          (readChoice? (valueList (v :: vs) ++ [.word ")"])).map fun vs => ⟨label, name, .among vs⟩ := by
        rw [chosen, hrest]
        rfl
      rw [hread, readChoice?_values]
      rfl
  · refine List.forall_mem_cons.2 ⟨rfl, List.forall_mem_cons.2 ⟨rfl, List.forall_mem_append.2 ?_⟩⟩
    exact ⟨valueList_isAnd vs, List.forall_mem_singleton.2 rfl⟩

/-- Components are told apart by what stands between them. -/
theorem splitOnP_separated : ∀ {pss : List (List Piece)}, pss ≠ [] →
    (∀ ps ∈ pss, ∀ p ∈ ps, p.isAnd = false) → (separated " and " pss).splitOnP Piece.isAnd = pss
  | [], hne, _ => absurd rfl hne
  | [ps], _, h => List.splitOnP_eq_singleton (h ps List.mem_cons_self)
  | ps :: qs :: pss, _, h => by
    obtain ⟨hfirst, hrest⟩ := List.forall_mem_cons.1 h
    show (ps ++ .word " and " :: separated " and " (qs :: pss)).splitOnP Piece.isAnd = _
    rw [List.splitOnP_append_cons_of_forall_mem hfirst _ rfl, splitOnP_separated (List.cons_ne_nil _ _) hrest]

/-- A restriction is read component by component. -/
theorem readRestriction?_components {pss : List (List Piece)} {cs : List Component}
    (h : List.Forall₂ Component.Reads pss cs) (hne : pss ≠ []) :
    readRestriction? (restriction pss) = some cs := by
  have hapart : ∀ ps ∈ pss, ∀ p ∈ ps, p.isAnd = false := fun ps hps => by
    obtain ⟨c, -, hc⟩ := exists_of_forall₂ h.flip ps hps
    exact hc.2
  show ((separated " and " pss).splitOnP Piece.isAnd).mapM readComponent? = some cs
  rw [splitOnP_separated hne hapart]
  clear hne hapart
  induction h with
  | nil => rfl
  | cons hc _ ih => rw [List.mapM_cons, hc.1, ih]; rfl

/-- A restriction that is read is passed if all its tests are. -/
theorem selects_iff {equal : Value → Value → Bool} {row : RowValues} {ps : List Piece} {cs : List Component}
    (h : readRestriction? ps = some cs) :
    Selects equal row ps ↔ ∀ c ∈ cs, c.truth equal row = some true := by
  rw [Selects, h, Option.map_some, Option.some_inj, Truth.all_eq_true_iff, List.forall_mem_map]

end Reading

/-! ### Columns of key fields -/

section Columns

variable {catalog : Catalog} {f : Frame} {r : RecordType} {s : RecordSchema} {depth : Nat}

/-- A column of a table that a field is written as. -/
def Frame.WritesColumn (f : Frame) (depth : Nat) (r : RecordType) (n : String) (c : TableLabel × String) :
    Prop :=
  referencePieces (expandWith depth) f .key (.of r n) = .ok [.column c.1 c.2]

/-- A stored key field that no select around defines is written as a column. -/
theorem keyColumn_plain (hs : RecordSchema.build catalog r = .ok s) (hr : f.registry.schema r = .ok s)
    (hplain : ∀ field ∈ s.fields, field.id → field.computed = none) {n : String} (hn : n ∈ s.primaryKey)
    (hdef : f.definition? r n = none) {column : List Piece}
    (h : referencePieces (expandWith depth) f .key (.of r n) = .ok column) :
    ∃ c, f.WritesColumn depth r n c := by
  obtain ⟨field, hfield, rfl⟩ := List.mem_map.1 hn
  obtain ⟨hmem, hid⟩ := List.mem_filter.1 hfield
  have hstored : field.computed = none := hplain field hmem hid
  have hliteral : field.literal = none := by rw [FieldSchema.literal, hstored]; rfl
  have hget : s.getField field.name = .ok field := getField_of_mem (build_names hs).2 hmem
  have hcolumn := h
  rw [reference_plain hdef, hr, ok_bind, hget, ok_bind] at hcolumn
  obtain ⟨stored, hstored, hcolumn⟩ := bind_eq_ok hcolumn
  unfold Frame.stored at hstored
  rw [hliteral] at hstored
  dsimp only at hstored
  split at hstored
  · cases hstored
  · obtain ⟨label, -, hstored⟩ := bind_eq_ok hstored
    cases hstored
    cases hcolumn
    exact ⟨(label, field.columnName), h⟩

/-- Fields that are written as columns are so together. -/
theorem keyColumns_of_written {names : List String} {c : String → TableLabel × String}
    (h : ∀ n ∈ names, f.WritesColumn depth r n (c n)) :
    keyColumns depth f r names = .ok (names.map fun n => [.column (c n).1 (c n).2]) := by
  unfold keyColumns
  induction names with
  | nil => rfl
  | cons n names ih =>
    obtain ⟨hfirst, hrest⟩ := List.forall_mem_cons.1 h
    rw [List.mapM_cons, hfirst, ok_bind, ih hrest]
    rfl

/-- The components of key fields, with the values that are found for them, read as tests of their columns. -/
theorem reads_components {value? : String → Option Value} (c : String → TableLabel × String) :
    ∀ {names : List String} {values : List Value}, names.map value? = values.map some →
      ∃ cs, List.Forall₂ Component.Reads
          (List.zipWith compared (names.map fun n => [.column (c n).1 (c n).2]) values) cs ∧
        cs.length = names.length ∧ ∀ equal row, (∀ t ∈ cs, t.truth equal row = some true) ↔
          ∀ n ∈ names, ∀ v, value? n = some v → Admits equal (row (c n).1 (c n).2) v
  | [], [], _ => ⟨[], .nil, rfl, by simp⟩
  | n :: names, v :: values, h => by
    obtain ⟨hfirst, hrest⟩ := List.cons.inj h
    obtain ⟨cs, hreads, hlength, htruth⟩ := reads_components c hrest
    refine ⟨_ :: cs, .cons (reads_compared v) hreads, congrArg (· + 1) hlength, fun equal row => ?_⟩
    rw [List.forall_mem_cons, List.forall_mem_cons, htruth]
    refine and_congr_left fun _ => ?_
    rw [hfirst]
    simp only [Option.some.injEq, forall_eq']
    rfl

end Columns

/-! ### Selected rows -/

/-- The key of the rows with one of the values of a choice. -/
def MultiKey.keyAt (k : MultiKey) (v : Value) : Key where
  record := k.record
  values := k.fixed ++ [(k.field, v)]

section Selected

variable {f : Frame} {s : RecordSchema} {depth : Nat} {c : String → TableLabel × String}

/-- A key selects the rows whose columns admit its values. -/
theorem selects_key {k : Key} {values : List Value} (hr : f.registry.schema k.record = .ok s)
    (hvalues : k.valuesInOrder s.primaryKey = .ok values)
    (hc : ∀ n ∈ s.primaryKey, f.WritesColumn depth k.record n (c n)) :
    ∃ ps, conditionPieces (expandWith depth) f (.key k) = .ok ps ∧ (readRestriction? ps).isSome ∧
      ∀ equal row, Selects equal row ps ↔
        ∀ n ∈ s.primaryKey, ∀ v, k.value? n = some v → Admits equal (row (c n).1 (c n).2) v := by
  obtain ⟨hkeyed, -, hmap⟩ := valuesInOrder_eq_ok_iff.1 hvalues
  obtain ⟨cs, hreads, hlength, htruth⟩ := reads_components c hmap
  have hsome : List.zipWith compared (s.primaryKey.map fun n => [.column (c n).1 (c n).2]) values ≠ [] := by
    rw [← List.length_pos_iff, hreads.length_eq, hlength]
    exact List.length_pos_iff.2 hkeyed
  have hread := readRestriction?_components hreads hsome
  refine ⟨_, by rw [columnKey_pieces hr hvalues, keyColumns_of_written hc, ok_bind], by rw [hread]; rfl,
    fun equal row => ?_⟩
  rw [selects_iff hread, htruth]

/-- A key with a choice of values selects the rows whose columns admit the fixed values and one of the
choice that is not null. -/
theorem selects_choice {k : MultiKey} {values : List Value} (hr : f.registry.schema k.record = .ok s)
    (hvalues : k.fixedInOrder s.primaryKey = .ok values)
    (hc : ∀ n ∈ s.primaryKey, f.WritesColumn depth k.record n (c n)) :
    ∃ ps, conditionPieces (expandWith depth) f (.multiKey k) = .ok ps ∧ (readRestriction? ps).isSome ∧
      ∀ equal row, Selects equal row ps ↔
        (∀ n ∈ k.fixedFields s.primaryKey, ∀ v, k.fixed.value? n = some v →
          Admits equal (row (c n).1 (c n).2) v) ∧
        ∃ v ∈ k.values, v.isNull = false ∧ Admits equal (row (c k.field).1 (c k.field).2) v := by
  obtain ⟨hvarying, -, hmap⟩ := fixedInOrder_eq_ok_iff.1 hvalues
  obtain ⟨cs, hreads, -, htruth⟩ := reads_components c hmap
  have hfixed : keyColumns depth f k.record (k.fixedFields s.primaryKey) =
      .ok ((k.fixedFields s.primaryKey).map fun n => [.column (c n).1 (c n).2]) :=
    keyColumns_of_written fun n hn => hc n (mem_fixedFields.1 hn).1
  have hlast : Component.Reads (chosen [.column (c k.field).1 (c k.field).2] k.values)
      ⟨(c k.field).1, (c k.field).2, .among k.values⟩ := reads_chosen k.values
  have hread := readRestriction?_components (List.rel_append hreads (.cons hlast .nil)) (by simp)
  refine ⟨_, by rw [choiceKey_pieces hr hvalues, hfixed, ok_bind, hc k.field hvarying, ok_bind],
    by rw [hread]; rfl, fun equal row => ?_⟩
  rw [selects_iff hread, List.forall_mem_append, htruth, List.forall_mem_singleton]
  exact and_congr_right fun _ => among_iff

/-- The values of the keys of a choice: the fixed ones, and one of the choice in place of the varying one. -/
theorem keyAt_value? {k : MultiKey} (hvarying : k.field ∉ k.fixed.map (·.1)) (v : Value) (n : String) :
    (k.keyAt v).value? n = if n = k.field then some v else k.fixed.value? n := by
  have hlookup : (k.keyAt v).value? n = (k.fixed.value? n).or (if n = k.field then some v else none) := by
    rw [Key.value?, FieldValues.value?, MultiKey.keyAt, List.lookup_append]
    by_cases hn : n = k.field
    · simp [hn, FieldValues.value?]
    · have hother : (n == k.field) = false := by simpa using hn
      simp [hn, hother, FieldValues.value?, List.lookup_cons]
  rw [hlookup]
  split
  · rename_i hn
    rw [hn, value?_eq_none_iff.2 hvarying]
    rfl
  · exact Option.or_none

/-- The rows of the key with one of the values of a choice. -/
theorem selects_keyAt {k : MultiKey} {values : List Value} (hr : f.registry.schema k.record = .ok s)
    (hvalues : k.fixedInOrder s.primaryKey = .ok values)
    (hc : ∀ n ∈ s.primaryKey, f.WritesColumn depth k.record n (c n)) (v : Value) :
    ∃ ps, conditionPieces (expandWith depth) f (.key (k.keyAt v)) = .ok ps ∧ (readRestriction? ps).isSome ∧
      ∀ equal row, Selects equal row ps ↔
        (∀ n ∈ k.fixedFields s.primaryKey, ∀ w, k.fixed.value? n = some w →
          Admits equal (row (c n).1 (c n).2) w) ∧
        Admits equal (row (c k.field).1 (c k.field).2) v := by
  obtain ⟨hvarying, hnames⟩ := exists_fixedInOrder_iff.1 ⟨values, hvalues⟩
  have hfixed : k.field ∉ k.fixed.map (·.1) := fun h => ((hnames _).1 h).2 rfl
  obtain ⟨vs, hvs⟩ : ∃ vs, (k.keyAt v).valuesInOrder s.primaryKey = .ok vs := by
    refine exists_valuesInOrder_iff.2 ⟨List.ne_nil_of_mem hvarying, fun n => ?_⟩
    rw [MultiKey.keyAt, List.map_append, List.mem_append, hnames]
    by_cases hn : n = k.field
    · simp [hn, hvarying]
    · simp [hn]
  obtain ⟨ps, hps, hread, hselects⟩ := selects_key hr hvs hc
  refine ⟨ps, hps, hread, fun equal row => ?_⟩
  rw [hselects]
  simp only [keyAt_value? hfixed, mem_fixedFields]
  constructor
  · intro h
    refine ⟨fun n hn w hw => h n hn.1 w (by rw [if_neg hn.2, hw]), h k.field hvarying v (if_pos rfl)⟩
  · rintro ⟨hall, hone⟩ n hn w hw
    split at hw
    · rename_i hfield
      cases hw
      rw [hfield]
      exact hone
    · rename_i hfield
      exact hall n ⟨hn, hfield⟩ w hw

/-- Where a key with a choice of values is written on a record whose key fields are stored, each of them is
written as a column. -/
theorem choice_writes {catalog : Catalog} {k : MultiKey} (hs : RecordSchema.build catalog k.record = .ok s)
    (hplain : ∀ field ∈ s.fields, field.id → field.computed = none)
    (hr : f.registry.schema k.record = .ok s)
    (hdef : ∀ n ∈ s.primaryKey, f.definition? k.record n = none) {ps : List Piece}
    (h : conditionPieces (expandWith depth) f (.multiKey k) = .ok ps) :
    ∃ values, k.fixedInOrder s.primaryKey = .ok values ∧
      ∃ c : String → TableLabel × String, ∀ n ∈ s.primaryKey, f.WritesColumn depth k.record n (c n) := by
  cases hvalues : k.fixedInOrder s.primaryKey with
  | error e =>
    rw [choiceKey_error hr hvalues] at h
    cases h
  | ok values =>
    rw [choiceKey_pieces hr hvalues] at h
    obtain ⟨columns, hcolumns, h⟩ := bind_eq_ok h
    obtain ⟨column, hcolumn, -⟩ := bind_eq_ok h
    have hwritten : ∀ n ∈ s.primaryKey, ∃ c, f.WritesColumn depth k.record n c := by
      intro n hn
      by_cases hfield : n = k.field
      · exact keyColumn_plain hs hr hplain hn (hdef n hn) (hfield ▸ hcolumn)
      · obtain ⟨column, -, hcolumn⟩ :=
          exists_of_forall₂ (mapM_eq_ok hcolumns).flip n (mem_fixedFields.2 ⟨hn, hfield⟩)
        exact keyColumn_plain hs hr hplain hn (hdef n hn) hcolumn
    have : Nonempty (TableLabel × String) := ⟨.named "", ""⟩
    choose! c hc using hwritten
    exact ⟨values, rfl, c, hc⟩

end Selected

/-- Where a key with a choice of values is written on a record whose key fields are stored, so are all keys
with one of the values, and all of them read as tests of the columns. The choice selects the rows that these
keys select, if none of its values is null. In general it selects what they select for the values that are
not null, and what the key of a null selects it leaves out. -/
theorem choice_selects {catalog : Catalog} {k : MultiKey} {s : RecordSchema}
    (hs : RecordSchema.build catalog k.record = .ok s)
    (hplain : ∀ field ∈ s.fields, field.id → field.computed = none) {f : Frame}
    (hr : f.registry.schema k.record = .ok s)
    (hdef : ∀ n ∈ s.primaryKey, f.definition? k.record n = none) {depth : Nat} {ps : List Piece}
    (h : conditionPieces (expandWith depth) f (.multiKey k) = .ok ps) :
    ∃ qs : Value → List Piece,
      (∀ v, conditionPieces (expandWith depth) f (.key (k.keyAt v)) = .ok (qs v)) ∧
      (readRestriction? ps).isSome ∧ (∀ v, (readRestriction? (qs v)).isSome) ∧
      ∀ equal row,
        ((∀ v ∈ k.values, v.isNull = false) →
          (Selects equal row ps ↔ ∃ v ∈ k.values, Selects equal row (qs v))) ∧
        (Selects equal row ps ↔ ∃ v ∈ k.values, v.isNull = false ∧ Selects equal row (qs v)) ∧
        ∀ v ∈ k.values, v.isNull → Selects equal row (qs v) → ¬Selects equal row ps := by
  obtain ⟨values, hvalues, c, hc⟩ := choice_writes hs hplain hr hdef h
  choose qs hqs hreads hkeys using selects_keyAt hr hvalues hc
  obtain ⟨ps', hps, hread, hchoice⟩ := selects_choice hr hvalues hc
  obtain rfl : ps = ps' := Except.ok.inj (h.symm.trans hps)
  refine ⟨qs, hqs, hread, hreads, fun equal row => ?_⟩
  have hiff : Selects equal row ps ↔ ∃ v ∈ k.values, v.isNull = false ∧ Selects equal row (qs v) := by
    simp only [hchoice, hkeys]
    constructor
    · rintro ⟨hall, v, hv, hvalue, hadmits⟩
      exact ⟨v, hv, hvalue, hall, hadmits⟩
    · rintro ⟨v, hv, hvalue, hall, hadmits⟩
      exact ⟨hall, v, hv, hvalue, hadmits⟩
  refine ⟨fun hvalued => ?_, hiff, fun v hv hnull hkey hselected => ?_⟩
  · rw [hiff]
    exact exists_congr fun v => and_congr_right fun hv => and_iff_right (hvalued v hv)
  · obtain ⟨-, hadmits⟩ := (hkeys v equal row).1 hkey
    obtain ⟨-, w, -, hvalue, hequal⟩ := (hchoice equal row).1 hselected
    have hcolumn := (equalTruth_eq_true_iff.1 ((admits_value hvalue).1 hequal)).1
    rw [(admits_null hnull).1 hadmits] at hcolumn
    cases hcolumn

/-- Whole numbers are equal if they are the same. -/
def sameNumber : Value → Value → Bool
  | .integer m, .integer n => m == n
  | _, _ => false

/-- A member of a club as a row. -/
def memberRow (club member : Value) : RowValues
  | .abbreviation 0, "club" => club
  | .abbreviation 0, "member" => member
  | _, _ => .null

/-- The first member of the third club is selected with the second one, as the key of the first one does. -/
theorem thirdClub_selects :
    ∃ ps qs, conditionPieces (expandWith 1) membershipFrame (.multiKey thirdClub) = .ok ps ∧
      conditionPieces (expandWith 1) membershipFrame (.key (thirdClub.keyAt (.integer 1))) = .ok qs ∧
      Selects sameNumber (memberRow (.integer 3) (.integer 1)) qs ∧
      Selects sameNumber (memberRow (.integer 3) (.integer 1)) ps := by
  have hbuild : RecordSchema.build clubs membership = .ok membershipSchema := rfl
  obtain ⟨ps, hps⟩ : ∃ ps, conditionPieces (expandWith 1) membershipFrame (.multiKey thirdClub) = .ok ps :=
    ⟨_, rfl⟩
  obtain ⟨qs, hqs, -, -, hselects⟩ :=
    choice_selects (k := thirdClub) hbuild (by decide) rfl (fun _ _ => rfl) hps
  have hkey : Selects sameNumber (memberRow (.integer 3) (.integer 1)) (qs (.integer 1)) := by
    obtain ⟨q, hq, hselected⟩ : ∃ q,
        conditionPieces (expandWith 1) membershipFrame (.key (thirdClub.keyAt (.integer 1))) = .ok q ∧
        Selects sameNumber (memberRow (.integer 3) (.integer 1)) q := ⟨_, rfl, by decide +kernel⟩
    rwa [Except.ok.inj ((hqs _).symm.trans hq)]
  obtain ⟨hvalued, -, -⟩ := hselects sameNumber (memberRow (.integer 3) (.integer 1))
  exact ⟨ps, qs (.integer 1), hps, hqs _, hkey,
    (hvalued (List.forall_mem_cons.2 ⟨rfl, List.forall_mem_singleton.2 rfl⟩)).2
      ⟨.integer 1, List.mem_cons_of_mem _ (List.mem_singleton_self _), hkey⟩⟩

/-- Members of the third club without a number. -/
def unnumbered : MultiKey where
  record := membership
  fixed := [("club", .integer 3)]
  field := "member"
  values := [.null]

/-- A member without a number is selected by the key with a null, and not by the choice of it. -/
theorem unnumbered_unselected :
    MultiKey.make membership [("club", .integer 3)] "member" [.null] = .ok unnumbered ∧
    ∃ ps qs, conditionPieces (expandWith 1) membershipFrame (.multiKey unnumbered) = .ok ps ∧
      conditionPieces (expandWith 1) membershipFrame (.key (unnumbered.keyAt .null)) = .ok qs ∧
      Selects sameNumber (memberRow (.integer 3) .null) qs ∧
      ¬Selects sameNumber (memberRow (.integer 3) .null) ps :=
  ⟨rfl, _, _, rfl, rfl, by decide +kernel, by decide +kernel⟩

end RecordSql
