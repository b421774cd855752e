import RecordSql.Proofs.Instance.Restriction
import RecordSql.Proofs.Key.Coverage
import RecordSql.Proofs.Rendering.Laid
import RecordSql.Proofs.Rendering.Simulation.Keys

/-!
# Restrictions to keys

A restriction to a key has one component for each field of the primary key, in the order of declaration: a
column and what it is compared with. A key with a choice of values has its varying component at the end.

- `keyColumns`: the columns of key fields, as a restriction refers to them.
- `columnKey_pieces`, `choiceKey_pieces`: what restrictions are put together of.
- `textOf_restriction`, `parameters_restriction`: how components read, and what they bind.
- `Key.Restricts`, `MultiKey.Restricts`: all that a key comes to on its record.
- `keys_covered`: every key comes to that on every record.
-/

namespace RecordSql

/-! ### Columns and components -/

/-- The columns of some key fields, as they are referred to in a restriction. -/
def keyColumns (depth : Nat) (f : Frame) (r : RecordType) (names : List String) :
    Except Error (List (List Piece)) :=
  names.mapM fun n => referencePieces (expandWith depth) f .key (.of r n)

/-- The last column of a key is compared with a choice of values. -/
def chosen (column : List Piece) (values : List Value) : List Piece :=
  column ++ .word " in (" :: valueList values ++ [Piece.word ")"]

/-- Components of a restriction behind its keyword. -/
def restriction (components : List (List Piece)) : List Piece :=
  [Piece.clauseBreak, .word "where "] ++ separated " and " components

/-- How a component reads whose column is compared with one value. -/
def comparedText (column : String) (v : Value) : String :=
  column ++ if v.isNull then " is null" else " = ?"

/-- How a component reads whose column is compared with a choice of values. -/
def chosenText (column : String) (values : List Value) : String :=
  column ++ (" in (" ++ ", ".intercalate (values.map fun _ => "?")) ++ ")"

/-- How some pieces read in a frame, inside of some sub-selects. -/
def Frame.reads (f : Frame) (l : Layout) (inside : Nat) (ps : List Piece) : String :=
  layoutWith (fun _ => "?") f.dialect l inside ps

/-- How a restriction reads whose components read in a certain way. -/
def restrictionText (l : Layout) (inside : Nat) (components : List String) : String :=
  l.clauseBreak inside ++ "where " ++ " and ".intercalate components

/-- What the components of a key bind: what a column brings along, then the value if it is not null. -/
def componentParameters (columns : List (List Piece)) (values : List Value) : Parameters :=
  (List.zipWith (fun column v => parameters column ++ if v.isNull then [] else [v]) columns values).flatten

section Pieces

variable {expand : Frame → Expr → Rendered} {f : Frame} {s : RecordSchema} {depth : Nat}

/-- A restriction to a key compares the columns of the primary key, in their order, with the values of the
key. It can fail for a column only. -/
theorem columnKey_pieces {k : Key} {values : List Value} (hr : f.registry.schema k.record = .ok s)
    (hvalues : k.valuesInOrder s.primaryKey = .ok values) :
    conditionPieces (expandWith depth) f (.key k) =
      keyColumns depth f k.record s.primaryKey >>= fun columns =>
        .ok (restriction (List.zipWith compared columns values)) := by
  have hlength : s.primaryKey.length = values.length := (Simulation.valuesInOrder_length hvalues).symm
  have hkey : keyPieces (expandWith depth) f k =
      componentsPieces (expandWith depth) f k.record (s.primaryKey.zip values) >>= fun pss =>
        .ok (separated " and " pss) := by
    unfold keyPieces
    simp only [hr, ok_bind, hvalues]
    rfl
  rw [conditionPieces, hkey, componentsPieces_zip k.record hlength, keyColumns]
  cases s.primaryKey.mapM fun n => referencePieces (expandWith depth) f .key (.of k.record n) <;> rfl

/-- A restriction to a key with a choice of values has the fixed components in front. -/
theorem choiceKey_pieces {k : MultiKey} {values : List Value} (hr : f.registry.schema k.record = .ok s)
    (hvalues : k.fixedInOrder s.primaryKey = .ok values) :
    conditionPieces (expandWith depth) f (.multiKey k) = (do
      let columns ← keyColumns depth f k.record (k.fixedFields s.primaryKey)
      let column ← referencePieces (expandWith depth) f .key (.of k.record k.field)
      .ok (restriction (List.zipWith compared columns values ++ [chosen column k.values]))) := by
  have hlength : (k.fixedFields s.primaryKey).length = values.length :=
    (Simulation.fixedInOrder_ok hvalues).2.symm
  have hkey : multiKeyPieces (expandWith depth) f k = (do
      let fixed ← componentsPieces (expandWith depth) f k.record ((k.fixedFields s.primaryKey).zip values)
      let column ← referencePieces (expandWith depth) f .key (.of k.record k.field)
      .ok (separated " and " (fixed ++ [chosen column k.values]))) := by
    unfold multiKeyPieces
    simp only [hr, ok_bind, hvalues]
    rfl
  rw [conditionPieces, hkey, componentsPieces_zip k.record hlength, keyColumns]
  cases (k.fixedFields s.primaryKey).mapM fun n =>
      referencePieces (expandWith depth) f .key (.of k.record n) with
  | error e => rfl
  | ok columns => cases referencePieces (expandWith depth) f .key (.of k.record k.field) <;> rfl

/-- A restriction whose values fail to be found fails alike. -/
theorem columnKey_error {k : Key} {e : Error} (hr : f.registry.schema k.record = .ok s)
    (h : k.valuesInOrder s.primaryKey = .error e) :
    conditionPieces expand f (.key k) = .error e := by
  unfold conditionPieces keyPieces
  simp only [hr, ok_bind, h]
  rfl

theorem choiceKey_error {k : MultiKey} {e : Error} (hr : f.registry.schema k.record = .ok s)
    (h : k.fixedInOrder s.primaryKey = .error e) :
    conditionPieces expand f (.multiKey k) = .error e := by
  unfold conditionPieces multiKeyPieces
  simp only [hr, ok_bind, h]
  rfl

/-- There are as many columns as names. -/
theorem keyColumns_length {r : RecordType} {names : List String} {columns : List (List Piece)}
    (h : keyColumns depth f r names = .ok columns) : columns.length = names.length :=
  (mapM_eq_ok h).length_eq.symm

end Pieces

/-! ### Texts -/

section Texts

variable {f : Frame} {l : Layout} {inside depth : Nat}

/-- What a reference is written as is well nested. -/
theorem referencePieces_nested {use : ColumnUse} {c : FieldRef} {ps : List Piece}
    (h : referencePieces (expandWith depth) f use c = .ok ps) : WellNested ps :=
  (referenceText_matches (p := placeholders) (expandsAlike_expandWith depth) use c).nested ps h

/-- Well nested pieces are laid out by the text that they read as. -/
theorem WellNested.textOf {ps : List Piece} (h : WellNested ps) :
    TextOf (fun _ => "?") f.dialect l inside (f.reads l inside ps) ps :=
  ⟨rfl, h⟩

theorem textOf_compared {t : String} {column : List Piece} (v : Value)
    (h : TextOf (fun _ => "?") f.dialect l inside t column) :
    TextOf (fun _ => "?") f.dialect l inside (comparedText t v) (compared column v) := by
  refine h.append (.ite (fun _ => .word (by decide)) fun _ => ?_)
  exact (TextOf.word (s := " = ") (by decide)).cons (TextOf.plain (p := .value v) rfl)

theorem textOf_chosen {t : String} {column : List Piece} (values : List Value)
    (h : TextOf (fun _ => "?") f.dialect l inside t column) :
    TextOf (fun _ => "?") f.dialect l inside (chosenText t values) (chosen column values) :=
  (h.append ((TextOf.word (by decide)).cons (textOf_values (p := ⟨fun _ => "?", l⟩) values))).append
    (.word (by decide))

/-- Columns and values read as components one by one. -/
theorem textOf_components : ∀ {columns : List (List Piece)} (values : List Value),
    (∀ column ∈ columns, WellNested column) →
    List.Forall₂ (TextOf (fun _ => "?") f.dialect l inside)
      (List.zipWith comparedText (columns.map (f.reads l inside)) values)
      (List.zipWith compared columns values)
  | [], _, _ => .nil
  | _ :: _, [], _ => .nil
  | column :: columns, v :: values, h => by
    obtain ⟨hfirst, hrest⟩ := List.forall_mem_cons.1 h
    exact .cons (textOf_compared v hfirst.textOf) (textOf_components values hrest)

/-- A restriction reads as its components do. -/
theorem textOf_restriction {ts : List String} {components : List (List Piece)}
    (h : List.Forall₂ (TextOf (fun _ => "?") f.dialect l inside) ts components) :
    f.reads l inside (restriction components) = restrictionText l inside ts :=
  (textOf_where (p := ⟨fun _ => "?", l⟩) (TextOf.separated (by decide) h)).1.symm

end Texts

/-! ### Bound values -/

section Parameters

theorem parameters_restriction (components : List (List Piece)) :
    parameters (restriction components) = components.flatMap parameters := by
  rw [restriction, parameters_append, parameters_separated]
  rfl

theorem parameters_components : ∀ (columns : List (List Piece)) (values : List Value),
    (List.zipWith compared columns values).flatMap parameters = componentParameters columns values
  | [], _ => rfl
  | _ :: _, [] => rfl
  | column :: columns, v :: values => by
    rw [List.zipWith_cons_cons, List.flatMap_cons, parameters_compared, parameters_components columns values]
    rfl

theorem parameters_valueList (values : List Value) : parameters (valueList values) = values := by
  rw [valueList, parameters_separated, List.flatMap_map]
  exact List.flatMap_singleton' values

theorem parameters_chosen (column : List Piece) (values : List Value) :
    parameters (chosen column values) = parameters column ++ values := by
  rw [chosen, List.append_assoc, parameters_append]
  show parameters column ++ parameters (valueList values ++ [Piece.word ")"]) = _
  rw [parameters_append, parameters_valueList]
  simp [parameters, Piece.value?]

/-- Components whose columns bind nothing bind the values that are not null. -/
theorem componentParameters_of_columns {columns : List (List Piece)} {values : List Value}
    (hlength : columns.length = values.length) (h : ∀ column ∈ columns, parameters column = []) :
    componentParameters columns values = values.filter fun v => !v.isNull := by
  rw [← parameters_components]
  exact flatMap_compared hlength (List.flatMap_eq_nil_iff.2 h)

variable {f : Frame} {r : RecordType} {depth : Nat}

/-- Columns of fields that no select around defines bind nothing. -/
theorem keyColumns_parameters {names : List String} {columns : List (List Piece)}
    (h : keyColumns depth f r names = .ok columns) (hdef : ∀ n ∈ names, f.definition? r n = none) :
    ∀ column ∈ columns, parameters column = [] := by
  intro column hcolumn
  obtain ⟨n, hn, hname⟩ := mem_of_mapM h column hcolumn
  exact (reference_binds (hdef n hn)).2 column hname

/-- The column of a key field can be written where no select around defines it and there is a table behind
its record. -/
theorem keyColumn_written {catalog : Catalog} {s : RecordSchema} {n : String}
    (hs : RecordSchema.build catalog r = .ok s) (hg : f.registry.Closed catalog)
    (hr : f.registry.schema r = .ok s) (howner : s.tableOwner.isSome) (hn : n ∈ s.primaryKey)
    (hdef : f.definition? r n = none) :
    ∃ column, referencePieces (expandWith depth) f .key (.of r n) = .ok column := by
  obtain ⟨field, hfield, rfl⟩ := List.mem_map.1 hn
  have hget : s.getField field.name = .ok field :=
    getField_of_mem (build_names hs).2 (List.mem_filter.1 hfield).1
  exact reference_written hg hr hget howner hdef

end Parameters

/-! ### What keys come to -/

/-- A key is at fault on a primary key. -/
def Key.AtFault (k : Key) (primaryKey : List String) : Prop :=
  ∃ fault, k.valuesInOrder primaryKey = .error (.keyMismatch k.record.name fault)

/-- How the restriction to a key with some values is written in a frame. -/
structure Key.Written (k : Key) (s : RecordSchema) (values : List Value) (depth : Nat) (f : Frame) :
    Prop where
  pieces : conditionPieces (expandWith depth) f (.key k) =
    keyColumns depth f k.record s.primaryKey >>= fun columns =>
      .ok (restriction (List.zipWith compared columns values))
  components : ∀ columns, keyColumns depth f k.record s.primaryKey = .ok columns →
    (List.zipWith compared columns values).length = s.primaryKey.length ∧
    (∀ l inside, f.reads l inside (restriction (List.zipWith compared columns values)) =
      restrictionText l inside (List.zipWith comparedText (columns.map (f.reads l inside)) values)) ∧
    parameters (restriction (List.zipWith compared columns values)) = componentParameters columns values ∧
    ((∀ n ∈ s.primaryKey, f.definition? k.record n = none) →
      parameters (restriction (List.zipWith compared columns values)) = values.filter fun v => !v.isNull)
  columns : ∀ catalog, RecordSchema.build catalog k.record = .ok s → f.registry.Closed catalog →
    s.tableOwner.isSome → (∀ n ∈ s.primaryKey, f.definition? k.record n = none) →
    ∃ columns, keyColumns depth f k.record s.primaryKey = .ok columns

/-- All that a key comes to on the schema of its record. -/
structure Key.Restricts (k : Key) (s : RecordSchema) : Prop where
  fault_iff : k.AtFault s.primaryKey ↔
    s.primaryKey = [] ∨ (∃ n ∈ s.primaryKey, n ∉ k.values.map (·.1)) ∨
      ∃ n ∈ k.values.map (·.1), n ∉ s.primaryKey
  fault : ∀ e, k.valuesInOrder s.primaryKey = .error e → k.AtFault s.primaryKey ∧
    ∀ expand f, f.registry.schema k.record = .ok s → conditionPieces expand f (.key k) = .error e
  written : ∀ values, k.valuesInOrder s.primaryKey = .ok values →
    s.primaryKey.map k.value? = values.map some ∧
    ∀ depth f, f.registry.schema k.record = .ok s → k.Written s values depth f
  permuted : ∀ k' : Key, k'.record = k.record → k'.values.Perm k.values → (k.values.map (·.1)).Nodup →
    (k'.AtFault s.primaryKey ↔ k.AtFault s.primaryKey) ∧
    (¬k.AtFault s.primaryKey → ∀ depth f, f.registry.schema k.record = .ok s →
      conditionPieces (expandWith depth) f (.key k') = conditionPieces (expandWith depth) f (.key k))

/-- How the restriction to a key with a choice of values is written in a frame. -/
structure MultiKey.Written (k : MultiKey) (s : RecordSchema) (values : List Value) (depth : Nat)
    (f : Frame) : Prop where
  pieces : conditionPieces (expandWith depth) f (.multiKey k) = (do
    let columns ← keyColumns depth f k.record (k.fixedFields s.primaryKey)
    let column ← referencePieces (expandWith depth) f .key (.of k.record k.field)
    .ok (restriction (List.zipWith compared columns values ++ [chosen column k.values])))
  components : ∀ columns column,
    keyColumns depth f k.record (k.fixedFields s.primaryKey) = .ok columns →
    referencePieces (expandWith depth) f .key (.of k.record k.field) = .ok column →
    (List.zipWith compared columns values ++ [chosen column k.values]).length = s.primaryKey.length ∧
    (∀ l inside,
      f.reads l inside (restriction (List.zipWith compared columns values ++ [chosen column k.values])) =
        restrictionText l inside
          (List.zipWith comparedText (columns.map (f.reads l inside)) values ++
            [chosenText (f.reads l inside column) k.values])) ∧
    parameters (restriction (List.zipWith compared columns values ++ [chosen column k.values])) =
      componentParameters columns values ++ (parameters column ++ k.values) ∧
    ((∀ n ∈ s.primaryKey, f.definition? k.record n = none) →
      parameters (restriction (List.zipWith compared columns values ++ [chosen column k.values])) =
        values.filter (fun v => !v.isNull) ++ k.values)
  columns : ∀ catalog, RecordSchema.build catalog k.record = .ok s → f.registry.Closed catalog →
    s.tableOwner.isSome → (∀ n ∈ s.primaryKey, f.definition? k.record n = none) →
    ∃ columns column, keyColumns depth f k.record (k.fixedFields s.primaryKey) = .ok columns ∧
      referencePieces (expandWith depth) f .key (.of k.record k.field) = .ok column

/-- All that a key with a choice of values comes to on the schema of its record. -/
structure MultiKey.Restricts (k : MultiKey) (s : RecordSchema) : Prop where
  values_iff : (∃ values, k.fixedInOrder s.primaryKey = .ok values) ↔
    k.field ∈ s.primaryKey ∧ ∀ n, n ∈ k.fixed.map (·.1) ↔ n ∈ s.primaryKey ∧ n ≠ k.field
  fault : ∀ e, k.fixedInOrder s.primaryKey = .error e →
    ∀ expand f, f.registry.schema k.record = .ok s → conditionPieces expand f (.multiKey k) = .error e
  written : ∀ values, k.fixedInOrder s.primaryKey = .ok values →
    (k.fixedFields s.primaryKey).map k.fixed.value? = values.map some ∧
    ∀ depth f, f.registry.schema k.record = .ok s → k.Written s values depth f

section Coverage

variable {catalog : Catalog} {r : RecordType} {s : RecordSchema}

/-- The names of key fields differ from each other. -/
theorem primaryKey_nodup (hs : RecordSchema.build catalog r = .ok s) : s.primaryKey.Nodup :=
  (build_names hs).2.sublist (List.Sublist.map _ List.filter_sublist)

/-- The fixed fields are all fields of the primary key but one. -/
theorem length_fixedFields {k : MultiKey} {primaryKey : List String} (hnodup : primaryKey.Nodup)
    (hvarying : k.field ∈ primaryKey) : (k.fixedFields primaryKey).length + 1 = primaryKey.length := by
  have herase : k.fixedFields primaryKey = primaryKey.erase k.field :=
    (hnodup.erase_eq_filter k.field).symm
  rw [herase, List.length_erase_of_mem hvarying]
  exact Nat.sub_add_cancel (List.length_pos_of_mem hvarying)

theorem Key.not_atFault {k : Key} {primaryKey : List String} (h : ¬k.AtFault primaryKey) :
    ∃ values, k.valuesInOrder primaryKey = .ok values := by
  cases hx : k.valuesInOrder primaryKey with
  | ok values => exact ⟨values, rfl⟩
  | error e =>
    obtain ⟨fault, rfl⟩ := valuesInOrder_error hx
    exact absurd ⟨fault, hx⟩ h

/-- What a key is written as, once its values are found. -/
theorem Key.written_of_values {k : Key} {values : List Value} {depth : Nat} {f : Frame}
    (hr : f.registry.schema k.record = .ok s) (hvalues : k.valuesInOrder s.primaryKey = .ok values) :
    k.Written s values depth f := by
  refine ⟨columnKey_pieces hr hvalues, fun columns hcolumns => ?_, fun catalog hs hg howner hdef =>
    mapM_of_ok fun n hn => keyColumn_written hs hg hr howner hn (hdef n hn)⟩
  have hnames : columns.length = s.primaryKey.length := keyColumns_length hcolumns
  have hlength : columns.length = values.length := by
    rw [hnames, Simulation.valuesInOrder_length hvalues]
  have hnested : ∀ column ∈ columns, WellNested column := by
    intro column hcolumn
    obtain ⟨n, -, hn⟩ := mem_of_mapM hcolumns column hcolumn
    exact referencePieces_nested hn
  have hbound : parameters (restriction (List.zipWith compared columns values)) =
      componentParameters columns values := by
    rw [parameters_restriction, parameters_components]
  refine ⟨?_, fun l inside => textOf_restriction (textOf_components values hnested), hbound, fun hdef => ?_⟩
  · rw [List.length_zipWith, ← hlength, Nat.min_self, hnames]
  · rw [hbound]
    exact componentParameters_of_columns hlength (keyColumns_parameters hcolumns hdef)

/-- What a key with a choice of values is written as, once its fixed values are found. -/
theorem MultiKey.written_of_values (hs : RecordSchema.build catalog r = .ok s) {k : MultiKey}
    {values : List Value} {depth : Nat} {f : Frame} (hr : f.registry.schema k.record = .ok s)
    (hvalues : k.fixedInOrder s.primaryKey = .ok values) : k.Written s values depth f := by
  obtain ⟨hvarying, hcount⟩ := Simulation.fixedInOrder_ok hvalues
  have hfixed : k.fixedFields s.primaryKey ⊆ s.primaryKey := List.filter_sublist.subset
  refine ⟨choiceKey_pieces hr hvalues, fun columns column hcolumns hcolumn => ?_,
    fun catalog hs hg howner hdef => ?_⟩
  · have hnames : columns.length = (k.fixedFields s.primaryKey).length := keyColumns_length hcolumns
    have hlength : columns.length = values.length := by rw [hnames, hcount]
    have hnested : ∀ column ∈ columns, WellNested column := by
      intro column hcolumn
      obtain ⟨n, -, hn⟩ := mem_of_mapM hcolumns column hcolumn
      exact referencePieces_nested hn
    have hbound :
        parameters (restriction (List.zipWith compared columns values ++ [chosen column k.values])) =
          componentParameters columns values ++ (parameters column ++ k.values) := by
      rw [parameters_restriction, List.flatMap_append, parameters_components, List.flatMap_singleton,
        parameters_chosen]
    refine ⟨?_, fun l inside => textOf_restriction ?_, hbound, fun hdef => ?_⟩
    · rw [List.length_append, List.length_zipWith, ← hlength, Nat.min_self, hnames]
      exact length_fixedFields (primaryKey_nodup hs) hvarying
    · refine List.rel_append (textOf_components values hnested) (.cons ?_ .nil)
      exact textOf_chosen k.values (referencePieces_nested hcolumn).textOf
    · have hplain : parameters column = [] := (reference_binds (hdef k.field hvarying)).2 column hcolumn
      rw [hbound, hplain, List.nil_append, componentParameters_of_columns hlength
        (keyColumns_parameters hcolumns fun n hn => hdef n (hfixed hn))]
  · obtain ⟨columns, hcolumns⟩ : ∃ columns,
        keyColumns depth f k.record (k.fixedFields s.primaryKey) = .ok columns :=
      mapM_of_ok fun n hn => keyColumn_written hs hg hr howner (hfixed hn) (hdef n (hfixed hn))
    obtain ⟨column, hcolumn⟩ : ∃ column,
        referencePieces (expandWith depth) f .key (.of k.record k.field) = .ok column :=
      keyColumn_written hs hg hr howner hvarying (hdef k.field hvarying)
    exact ⟨columns, column, hcolumns, hcolumn⟩

/-- Keys cover the primary key of their record, which is made of the declared key fields in their order. A
key is refused if there is no primary key, if it misses a field of it, or if it names another one, and
only then. Otherwise a restriction to it has one component for each field of the primary key, in order,
whatever the order of the key; it binds the values that are not null, and in front of each one what a
definition of the column binds. The same holds of a key with a choice of values, whose varying component
comes last and binds all values of the choice. -/
theorem keys_covered (hs : RecordSchema.build catalog r = .ok s) :
    s.primaryKey = ((catalog.descriptor r).fields.filter (·.id)).map (·.name) ∧ s.primaryKey.Nodup ∧
    (∀ k : Key, k.record = r → k.Restricts s) ∧ ∀ k : MultiKey, k.record = r → k.Restricts s := by
  refine ⟨build_primaryKey hs, primaryKey_nodup hs, fun k hk => ?_, fun k hk => ?_⟩
  · refine ⟨valuesInOrder_fails_iff, fun e he => ?fault, fun values hvalues => ?written,
      fun k' hrecord hperm hnodup => ?permuted⟩
    case fault =>
      obtain ⟨fault, rfl⟩ := valuesInOrder_error he
      exact ⟨⟨fault, he⟩, fun expand f hr => columnKey_error hr he⟩
    case written =>
      exact ⟨(valuesInOrder_eq_ok_iff.1 hvalues).2.2, fun depth f hr => k.written_of_values hr hvalues⟩
    case permuted =>
      have hnames : ∀ n, n ∈ k'.values.map (·.1) ↔ n ∈ k.values.map (·.1) := fun n =>
        (hperm.map _).mem_iff
      refine ⟨?_, fun hcovers depth f hr => ?_⟩
      · rw [Key.AtFault, Key.AtFault, valuesInOrder_fails_iff, valuesInOrder_fails_iff]
        simp only [hnames]
      · obtain ⟨values, hvalues⟩ := Key.not_atFault hcovers
        have hvalues' : k'.valuesInOrder s.primaryKey = .ok values :=
          valuesInOrder_perm hnodup hperm hvalues
        rw [columnKey_pieces hr hvalues, columnKey_pieces (hrecord ▸ hr) hvalues', hrecord]
  · exact ⟨exists_fixedInOrder_iff, fun e he expand f hr => choiceKey_error hr he,
      fun values hvalues => ⟨(fixedInOrder_eq_ok_iff.1 hvalues).2.2,
        fun depth f hr => MultiKey.written_of_values hs hr hvalues⟩⟩

end Coverage

/-! ### Keys of members and of novels -/

/-- Members of clubs. -/
def membership : RecordType := ⟨"Membership"⟩

/-- Members are known by their club and by their number in it, with a field in between. -/
def clubs : Catalog where
  declared :=
    [(membership,
        { typeName := "Membership", table := some "memberships",
          fields :=
            [numberDescriptor "club" true none, numberDescriptor "since" false none,
              numberDescriptor "member" true none] })]

/-- The schema of members. -/
def membershipSchema : RecordSchema :=
  (clubs.descriptor membership).numbersSchema membership

/-- What restrictions to members are written in. -/
def membershipFrame : Frame where
  dialect := .mySql
  registry := ({} : Registry).add membership membershipSchema

/-- The seventh member of no club, the number first. -/
def seventhMember : Key where
  record := membership
  values := [("member", .integer 7), ("club", .null)]

/-- Two members of the third club. -/
def thirdClub : MultiKey where
  record := membership
  fixed := [("club", .integer 3)]
  field := "member"
  values := [.integer 2, .integer 1]

/-- The club comes before the number, as it is declared. -/
theorem members_covered :
    RecordSchema.build clubs membership = .ok membershipSchema ∧
    (∃ ps, conditionPieces (expandWith 1) membershipFrame (.key seventhMember) = .ok ps ∧
      membershipFrame.reads .compact 0 ps = " where t0.club is null and t0.member = ?" ∧
      parameters ps = [.integer 7]) ∧
    (∃ ps, conditionPieces (expandWith 1) membershipFrame (.multiKey thirdClub) = .ok ps ∧
      membershipFrame.reads .compact 0 ps = " where t0.club = ? and t0.member in (?, ?)" ∧
      parameters ps = [.integer 3, .integer 2, .integer 1]) ∧
    (⟨membership, [("member", .integer 7)]⟩ : Key).AtFault membershipSchema.primaryKey := by
  have hbuild : RecordSchema.build clubs membership = .ok membershipSchema := rfl
  obtain ⟨-, -, hkeys, hchoices⟩ := keys_covered hbuild
  have key := ((hkeys seventhMember rfl).written [.null, .integer 7] rfl).2 1 membershipFrame rfl
  have choice := ((hchoices thirdClub rfl).written [.integer 3] rfl).2 1 membershipFrame rfl
  obtain ⟨-, hkeyText, -, hkeyValues⟩ := key.components
    [[.column (.abbreviation 0) "club"], [.column (.abbreviation 0) "member"]] rfl
  obtain ⟨-, hchoiceText, -, hchoiceValues⟩ := choice.components
    [[.column (.abbreviation 0) "club"]] [.column (.abbreviation 0) "member"] rfl rfl
  have hmissing := (hkeys ⟨membership, [("member", .integer 7)]⟩ rfl).fault_iff.2
    (.inr (.inl ⟨"club", by decide, by decide⟩))
  exact ⟨hbuild, ⟨_, key.pieces, (hkeyText _ _).trans (by decide +kernel), hkeyValues fun _ _ => rfl⟩,
    ⟨_, choice.pieces, (hchoiceText _ _).trans (by decide +kernel), hchoiceValues fun _ _ => rfl⟩, hmissing⟩

/-- The novels whose number is three, where an override raises the numbers by five. -/
def raisedNumber : Select where
  record := novel
  fields := ["author"]
  condition := some (.key ⟨novel, [("id", .integer 3)]⟩)
  definitions :=
    [{ field := "id", expr := .binary .add (.column (.of novel "id")) (.value (.integer 5)), kind := .override }]

/-- What stands for the column of a key may bind a value of its own, next to that of the key. -/
theorem raisedNumber_bound :
    ∃ c schema, ((compile bookshop {} (.select raisedNumber)).runIn openShop).1 = .ok c ∧
      c.sql = "select t0.author from novels as t0 where t0.id + ? = ?" ∧
      RecordSchema.build bookshop novel = .ok schema ∧
      (⟨novel, [("id", .integer 3)]⟩ : Key).valuesInOrder schema.primaryKey = .ok [.integer 3] ∧
      c.parameters = [.integer 5, .integer 3] ∧
      c.parameters ≠ [Value.integer 3].filter fun v => !v.isNull := by
  rw [compile_runIn, build_register (by decide)]
  refine ⟨_, (bookshop.descriptor novel).numbersSchema novel, rfl, by decide +kernel, rfl, rfl, rfl,
    fun h => ?_⟩
  have hlength : 2 = 1 := congrArg List.length h
  omega

end RecordSql
