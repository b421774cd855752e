import RecordSql.Proofs.Binding.Opening
import RecordSql.Proofs.Insertion
import RecordSql.Proofs.Instance.Restriction

/-!
# Statements on instances

An instance is inserted, found by its key and updated. The values that these statements bind are those
that stand at the places of the fields that are stored, that form the key, or that are asked for.

- `Statement.CompilesTo`: a statement compiles and binds certain values in every session of a catalog.
- `compiles_of_record`: statements that refer to one record are checked and written in any registry of it.
- `insert_compiles`, `select_compiles`, `update_compiles`, `delete_compiles`: statements on the row of an
  instance.
- `RecordSchema.KeyedBy`: what can be said of the key of an instance.
- `instances_stored`: instances are inserted, found by their keys and updated.
-/

namespace RecordSql

variable {catalog : Catalog} {s : RecordSchema} {i : Instance}

/-- A statement compiles and binds certain values, in every session of a catalog and in every way of
writing it. -/
def Statement.CompilesTo (catalog : Catalog) (s : Statement) (values : Parameters) : Prop :=
  ∀ (options : Options) (σ : Session), σ.cache.BuiltFrom catalog →
    ∃ c, ((compile catalog options s).runIn σ).1 = .ok c ∧ c.parameters = values

/-- An update of the named fields of the row of an instance, which is found by its key. -/
def Update.ofKeyed (i : Instance) (names : List String) (k : Key) : Update :=
  { Update.ofInstance i names with condition := some (.key k) }

/-- A select of the named fields of a row that is found by a key. -/
def Select.ofKey (names : List String) (k : Key) : Select :=
  { record := k.record, fields := names, condition := some (.key k) }

/-! ### Statements on the record of an instance -/

section Compiling

variable (hs : RecordSchema.build catalog i.record = .ok s) (hi : i.Listed catalog)
  (hr : Registrable catalog i.record)

include hs

/-- A statement on one record compiles if it is checked and written wherever the record is registered. -/
theorem compiles_of_record (hr : Registrable catalog i.record) {st : Statement} {values : Parameters}
    (hone : ∀ r ∈ st.records, r = i.record) (hmem : i.record ∈ st.records)
    (h : ∀ (d : Dialect) (g : Registry), g.Closed catalog → g.schema i.record = .ok s →
      ∃ ps, checkedPieces d g st = .ok ps ∧ parameters ps = values) :
    st.CompilesTo catalog values := by
  intro options σ hσ
  obtain ⟨g, hg, hschema, hrun⟩ := compile_of_record hs hr hσ hone hmem options
  obtain ⟨ps, hps, hvalues⟩ := h options.dialect g hg hschema
  refine ⟨.ofPieces options ps, ?_, hvalues⟩
  rw [hrun, compiledIn, hps]
  rfl

/-- Named fields that all exist are those that a select asks for. -/
theorem selectedFields_known {names : List String} (hnames : ∀ n ∈ names, ∃ f, s.getField n = .ok f) :
    ∃ fields, selectedFields s names = .ok fields ∧ ∀ f ∈ fields, s.getField f.name = .ok f := by
  have hall : ∀ f ∈ s.fields, s.getField f.name = .ok f := fun f hf =>
    getField_of_mem (build_names hs).2 hf
  unfold selectedFields
  split
  · exact ⟨_, rfl, hall⟩
  · obtain ⟨fields, hfields⟩ := mapM_of_ok hnames
    refine ⟨fields, hfields, fun f hf => ?_⟩
    obtain ⟨n, -, hn⟩ := mem_of_mapM hfields f hf
    exact hall f (RecordSchema.getField_mem hn)

include hi hr

/-- An instance of a record that owns a table is inserted: it has values for all of its fields. -/
theorem insert_compiles (htable : s.table.isSome) :
    (Statement.insert (.ofInstance i)).CompilesTo catalog
      (s.valuesWhere i fun f => !f.isComputed && !f.isIdentity) := by
  refine compiles_of_record hs hr (by simp [Statement.records, Insert.ofInstance])
    (by simp [Statement.records, Insert.ofInstance]) fun d g hg hschema => ?_
  obtain ⟨table, htable⟩ := Option.isSome_iff_exists.1 htable
  have decided := insertPieces_decides (i := .ofInstance i) (f := { dialect := d, registry := g })
    (build_names hs).2 hschema htable
  have hfilled : ∀ f ∈ s.storedFields, (Insert.ofInstance i).Fills f := by
    intro f hf
    have hname := List.mem_map_of_mem (f := FieldSchema.name) (List.mem_of_mem_filter hf)
    rw [names_listed hs hi] at hname
    exact .inr hname
  obtain ⟨ps, hps⟩ := decided.exists_iff.2 hfilled
  refine ⟨ps, hps, ?_⟩
  have hbound := (decided.ok hps).2.binds
  have hleft : (s.storedFields.filter fun f => ¬(Insert.ofInstance i).LeavesOut f) =
      s.fields.filter fun f => !f.isComputed && !f.isIdentity := by
    rw [RecordSchema.storedFields, List.filter_filter]
    simp [Insert.LeavesOut, Insert.ofInstance, Bool.and_comm]
  rw [hleft] at hbound
  have hfound := values_found hs hi fun f => !f.isComputed && !f.isIdentity
  exact List.map_injective_iff.2 (Option.some_injective _) (hbound.symm.trans hfound)

/-! ### Statements on the row of an instance -/

omit hs hi hr in
/-- A statement on a registered record binds this record. -/
theorem ownScope_binds {g : Registry} (hschema : g.schema i.record = .ok s) :
    ∃ scope, ownScope g i.record = .ok scope ∧ scope.tables = [] ∧
      ∀ place outer, verifyRecord (scope :: outer) place i.record = .ok () := by
  refine ⟨{ owner := i.record, records := [i.record] ++ i.record :: s.shadowOf.toList }, ?_, rfl, ?_⟩
  · rw [ownScope, bindRecord, hschema]
    rfl
  · intro place outer
    simp [verifyRecord, Scopes.binds]

omit hi hr in
theorem tableOwner_of_table (htable : s.table.isSome) : s.tableOwner.isSome := by
  rw [RecordSchema.tableOwner, (build_resolved hs).2.table_iff.1 htable]
  rfl

/-- The row of an instance is deleted. -/
theorem delete_compiles {k : Key} (hk : s.keyOf i = .ok k) (htable : s.table.isSome) :
    (Statement.delete ⟨i.record, .key k⟩).CompilesTo catalog (s.keyParameters i) := by
  obtain ⟨hrecord, -⟩ := keyOf_inOrder hs hi hk
  have hrecords : (Statement.delete ⟨i.record, .key k⟩).records = [i.record, i.record] := by
    simp [Statement.records, Condition.records, hrecord]
  refine compiles_of_record hs hr (by simp [hrecords]) (by simp [hrecords]) fun d g hg hschema => ?_
  have howner : s.tableOwner.isSome := tableOwner_of_table hs htable
  obtain ⟨scope, hscope, -, hbound⟩ := ownScope_binds hschema
  obtain ⟨-, n, hn⟩ := hg.names_table hschema htable
  obtain ⟨table, htable⟩ := Option.isSome_iff_exists.1 htable
  have hverify : verify g (.delete ⟨i.record, .key k⟩) = .ok () := by
    simp only [verify, verifyCondition, hscope, ok_bind, hrecord, hbound]
  have hwhere : ∀ unaliased, ∃ ps,
      conditionPieces (expandWith (expansionDepth (Condition.definitionCount (.key k))))
        { dialect := d, registry := g, unaliased := unaliased } (.key k) = .ok ps ∧
      parameters ps = s.keyParameters i := fun _ =>
    key_written hs hi hk hg hschema howner fun _ _ => rfl
  simp only [checkedPieces, hverify, ok_bind, statementPieces, deletePieces, hschema, htable]
  cases d.deleteTakesAlias with
  | true =>
    obtain ⟨ps, hps, hvalues⟩ := hwhere none
    simp only [if_true, hn, hps, ok_bind]
    exact ⟨_, rfl, hvalues⟩
  | false =>
    obtain ⟨ps, hps, hvalues⟩ := hwhere (some i.record)
    simp only [Bool.false_eq_true, if_false, hps, ok_bind]
    exact ⟨_, rfl, hvalues⟩

omit hr in
/-- An update assigns the named fields the values at their places. -/
theorem assignments_ofInstance (names : List String) :
    (Update.ofInstance i names).assignments =
      (s.paired i fun f => names.contains f.name).map fun q => (q.1.name, .value q.2) := by
  rw [Update.ofInstance, filter_values hs hi, List.map_map]
  rfl

omit hs hi hr in
/-- Values refer to no records. -/
theorem records_assigned (pairs : List (FieldSchema × Value)) :
    (pairs.map fun q => (q.1.name, Expr.value q.2)).flatMap (fun a => a.2.records) = [] := by
  rw [List.flatMap_map]
  exact List.flatMap_eq_nil_iff.2 fun _ _ => rfl

omit hs hi hr in
/-- Values refer to nothing that has to be bound. -/
theorem verify_assigned (g : Registry) (scopes : Scopes) (target : Target)
    (pairs : List (FieldSchema × Value)) :
    verifyAssignments g scopes target (pairs.map fun q => (q.1.name, .value q.2)) = .ok () := by
  induction pairs with
  | nil => rfl
  | cons q pairs ih =>
    exact ih

omit hi hr in
/-- Fields that are stored are assigned values. -/
theorem pieces_assigned (expand : Frame → Expr → Rendered) (f : Frame)
    {pairs : List (FieldSchema × Value)}
    (hpairs : ∀ q ∈ pairs, q.1 ∈ s.fields ∧ q.1.isComputed = false) :
    (pairs.map fun q => (q.1.name, Expr.value q.2)).mapM
        (fun a => assignmentPieces expand f i.record s a.1 a.2) =
      .ok (pairs.map fun q => [.ident q.1.columnName, .word " = ", .value q.2]) := by
  induction pairs with
  | nil => rfl
  | cons q pairs ih =>
    obtain ⟨⟨hfield, hstored⟩, hrest⟩ := List.forall_mem_cons.1 hpairs
    have hfirst : assignmentPieces expand f i.record s q.1.name (.value q.2) =
        .ok [.ident q.1.columnName, .word " = ", .value q.2] := by
      rw [assignmentPieces, getField_of_mem (build_names hs).2 hfield, ok_bind, hstored]
      rfl
    rw [List.map_cons, List.mapM_cons, hfirst, ok_bind, ih hrest]
    rfl

/-- The named fields of the row of an instance are updated, unless there are none or one of them is
computed. -/
theorem update_compiles {k : Key} (hk : s.keyOf i = .ok k) (htable : s.table.isSome)
    {names : List String} (hsome : ∃ f ∈ s.fields, names.contains f.name)
    (hstored : ∀ f ∈ s.fields, names.contains f.name → f.isComputed = false) :
    (Statement.update (.ofKeyed i names k)).CompilesTo catalog
      (s.valuesWhere i (fun f => names.contains f.name) ++ s.keyParameters i) := by
  obtain ⟨hrecord, -⟩ := keyOf_inOrder hs hi hk
  have hassigned : (Update.ofKeyed i names k).assignments =
      (s.paired i fun f => names.contains f.name).map fun q => (q.1.name, .value q.2) :=
    assignments_ofInstance hs hi names
  have hfields := paired_fields hs hi fun f => names.contains f.name
  have hvalues : s.valuesWhere i (fun f => names.contains f.name) =
      (s.paired i fun f => names.contains f.name).map (·.2) := rfl
  rw [hvalues]
  generalize s.paired i (fun f => names.contains f.name) = pairs at hassigned hfields ⊢
  have hmem : ∀ q ∈ pairs, q.1 ∈ s.fields ∧ q.1.isComputed = false := by
    intro q hq
    have hq := List.mem_map_of_mem (f := Prod.fst) hq
    rw [hfields] at hq
    obtain ⟨hf, hname⟩ := List.mem_filter.1 hq
    exact ⟨hf, hstored _ hf hname⟩
  have hpairs : pairs ≠ [] := by
    rintro rfl
    obtain ⟨f, hf, hname⟩ := hsome
    exact List.filter_eq_nil_iff.1 hfields.symm f hf hname
  have hrecords : (Statement.update (.ofKeyed i names k)).records = [i.record, i.record] := by
    have hnone := records_assigned pairs
    rw [← hassigned] at hnone
    simp only [Statement.records, hnone]
    simp [Update.ofKeyed, Update.ofInstance, Condition.records, hrecord]
  refine compiles_of_record hs hr (by simp [hrecords]) (by simp [hrecords]) fun d g hg hschema => ?_
  have howner : s.tableOwner.isSome := tableOwner_of_table hs htable
  obtain ⟨scope, hscope, -, hbound⟩ := ownScope_binds hschema
  obtain ⟨-, n, hn⟩ := hg.names_table hschema htable
  obtain ⟨table, htable⟩ := Option.isSome_iff_exists.1 htable
  have hverify : verify g (.update (.ofKeyed i names k)) = .ok () := by
    have hcondition : (Update.ofKeyed i names k).condition = some (.key k) := rfl
    have hown : ownScope g (Update.ofKeyed i names k).record = .ok scope := hscope
    simp only [verify, hown, ok_bind, hassigned, verify_assigned, hcondition, verifyCondition, hrecord,
      hbound]
  obtain ⟨ps, hps, hkeyed⟩ : ∃ ps,
      conditionPieces (expandWith (expansionDepth (exprsDefinitionCount
          ((pairs.map fun q => (q.1.name, Expr.value q.2)).map (·.2)) +
            Condition.definitionCount (.key k))))
        { dialect := d, registry := g } (.key k) = .ok ps ∧ parameters ps = s.keyParameters i :=
    key_written hs hi hk hg hschema howner fun _ _ => rfl
  have hnonempty : ((pairs.map fun q => (q.1.name, Expr.value q.2)).isEmpty) = false := by
    simpa using hpairs
  have hcondition : (Update.ofKeyed i names k).condition = some (.key k) := rfl
  have hown : (Update.ofKeyed i names k).record = i.record := rfl
  rw [checkedPieces, hverify, ok_bind, statementPieces, updatePieces, hcondition]
  simp only [hassigned, hnonempty, hown, hschema, ok_bind, htable, hn, pieces_assigned hs _ _ hmem, hps,
    Bool.false_eq_true, if_false]
  refine ⟨_, rfl, ?_⟩
  have hbinds : (pairs.map fun q => [Piece.ident q.1.columnName, .word " = ", .value q.2]).flatMap
      parameters = pairs.map (·.2) := by
    rw [List.flatMap_map, List.map_eq_flatMap]
    rfl
  simp only [parameters_append, parameters_separated, hbinds, hkeyed]
  rfl

omit hs hi hr in
/-- The scope of a select on a registered record opens. -/
theorem openScope_binds {g : Registry} (hschema : g.schema i.record = .ok s)
    (howner : s.tableOwner.isSome) :
    ∃ scope, openScope g [] i.record none [] = .ok scope ∧
      ∀ place, verifyRecord [scope] place i.record = .ok () := by
  obtain ⟨own, hown, htables, hbound⟩ := ownScope_binds hschema
  obtain ⟨t, ht⟩ := Option.isSome_iff_exists.1 howner
  refine ⟨{ own with tables := own.tables ++ [t] }, ?_, fun place => hbound place []⟩
  have hclaims : Scopes.claims [own] t = false := by simp [Scopes.claims, htables]
  have hclaim : claimTable g [] (.whole (.select i.record)) own i.record =
      .ok { own with tables := own.tables ++ [t] } := by
    simp only [claimTable, hschema, ok_bind, ht, hclaims, Bool.false_eq_true, if_false]
    rfl
  simp only [openScope, hown, ok_bind, hclaim]
  rfl

omit hi hr in
/-- The fields that a select asks for are written and bind nothing. -/
theorem projection_written (expand : Frame → Expr → Rendered) {f : Frame} (hg : f.registry.Closed catalog)
    (hschema : f.registry.schema i.record = .ok s) (howner : s.tableOwner.isSome) {names : List String}
    (hnames : ∀ n ∈ names, ∃ field, s.getField n = .ok field)
    (hdef : ∀ n, f.definition? i.record n = none) :
    ∃ ps, projectionPieces expand f i.record names = .ok ps ∧ parameters ps = [] := by
  obtain ⟨fields, hfields, hall⟩ := selectedFields_known hs hnames
  obtain ⟨items, hitems⟩ : ∃ items, (fields.filter (f.projects i.record)).mapM
      (fun field => referencePieces expand f .projection (.of i.record field.name)) = .ok items :=
    mapM_of_ok fun field hfield =>
      reference_written hg hschema (hall field (List.mem_filter.1 hfield).1) howner (hdef field.name)
  have hbinds : Binds (List.flatMap parameters) ((fields.filter (f.projects i.record)).mapM
      fun field => referencePieces expand f .projection (.of i.record field.name))
      ((fields.filter (f.projects i.record)).flatMap fun _ => []) :=
    Binds.mapM fun field _ => reference_binds (hdef field.name)
  refine ⟨separated ", " items, ?_, ?_⟩
  · simp only [projectionPieces, hschema, ok_bind, hfields, hitems]
    rfl
  · rw [parameters_separated, hbinds.2 items hitems]
    exact List.flatMap_eq_nil_iff.2 fun _ _ => rfl

/-- The row of an instance is found by its key. -/
theorem select_compiles {k : Key} (hk : s.keyOf i = .ok k) (howner : s.tableOwner.isSome)
    {names : List String} (hnames : ∀ n ∈ names, ∃ field, s.getField n = .ok field) :
    (Statement.select (.ofKey names k)).CompilesTo catalog (s.keyParameters i) := by
  obtain ⟨hrecord, -⟩ := keyOf_inOrder hs hi hk
  have hrecords : (Statement.select (.ofKey names k)).records = [i.record, i.record] := by
    simp [Statement.records, Select.ofKey, Select.records, Condition.records, hrecord,
      definitionsRecords, joinsRecords]
  refine compiles_of_record hs hr (by simp [hrecords]) (by simp [hrecords]) fun d g hg hschema => ?_
  obtain ⟨scope, hscope, hbound⟩ := openScope_binds hschema howner
  obtain ⟨t, ht⟩ := Option.isSome_iff_exists.1 howner
  obtain ⟨⟨table, htable⟩, n, hn⟩ := hg.names_owner hschema ht
  have howned : g.tableOf i.record = .ok t := by
    rw [Registry.tableOf, hschema, ok_bind, ht]
    rfl
  have hverify : verify g (.select (.ofKey names k)) = .ok () := by
    have hnone : Scopes.owns [] i.record = false := rfl
    have hdefinitions : verifyDefinitions g i.record [] = .ok () := by
      rw [verifyDefinitions, hschema]
      rfl
    rw [verify, verifySelect_eq]
    simp only [Select.ofKey, hrecord, hnone, hscope, ok_bind, hdefinitions, verifyDefined, verifyJoins,
      verifyWhere, verifyCondition, hbound]
    rfl
  rw [checkedPieces, hverify, ok_bind, statementPieces, selectStatementPieces]
  generalize expandWith (expansionDepth (Select.ofKey names k).definitionCount) = expand
  have hreadable : Frame.readable { dialect := d, registry := g } (.ofKey names k) = .ok () := by
    simp only [Frame.readable, Select.ofKey, hrecord, howned]
    rfl
  have hdef : ∀ n, (Frame.enter { dialect := d, registry := g } (.ofKey names k)).definition? i.record n =
      none := fun n => by simp [Frame.definition?, Frame.enter, Select.ofKey]
  have hregistry : (Frame.enter { dialect := d, registry := g } (.ofKey names k)).registry = g := rfl
  have hselected : (Select.ofKey names k).record = i.record := hrecord
  rw [selectPieces_eq, hreadable, ok_bind, hselected]
  generalize Frame.enter { dialect := d, registry := g } (.ofKey names k) = f at hdef hregistry
  subst hregistry
  obtain ⟨projected, hprojected, hnothing⟩ :=
    projection_written hs expand hg hschema howner hnames hdef
  obtain ⟨restricted, hrestricted, hkeyed⟩ : ∃ ps, conditionPieces expand f (.key k) = .ok ps ∧
    parameters ps = s.keyParameters i := key_written hs hi hk hg hschema howner fun n _ => hdef n
  have hsources : sourcePieces f i.record none = .ok [.table table (.abbreviation n)] := by
    simp only [sourcePieces, Option.getD_none, List.mapM_cons, Frame.tablePiece, howned, htable, hn,
      ok_bind]
    rfl
  simp only [Select.ofKey, hprojected, hsources, wherePieces, hrestricted, joinPieces, groupPieces,
    sortPieces, ok_bind]
  refine ⟨_, rfl, ?_⟩
  simp only [parameters_append, parameters_cons, hnothing, hkeyed]
  simp [limitPieces, lockPieces, parameters, Piece.value?]

end Compiling

/-! ### Instances in statements -/

/-- What can be said of a key of an instance. In a restriction the columns of the primary key are compared,
in their order, with the values of the instance; nothing but a column can fail, and where no definition
replaces a column, exactly the values that are not null are bound. So the row is selected, updated and
deleted. -/
structure RecordSchema.KeyedBy (catalog : Catalog) (s : RecordSchema) (i : Instance) (k : Key) : Prop where
  inOrder : k.record = i.record ∧ k.valuesInOrder s.primaryKey = .ok (s.valuesWhere i (·.id))
  restriction : ∀ (expand : Frame → Expr → Rendered) (f : Frame), f.registry.schema i.record = .ok s →
    conditionPieces expand f (.key k) =
      (s.primaryKey.mapM fun n => referencePieces expand f .key (.of i.record n)) >>= fun columns =>
        .ok ([Piece.clauseBreak, .word "where "] ++
          separated " and " (List.zipWith compared columns (s.valuesWhere i (·.id))))
  bound : ∀ (expand : Frame → Expr → Rendered) (f : Frame), f.registry.schema i.record = .ok s →
    (∀ n ∈ s.primaryKey, f.definition? i.record n = none) →
    Binds parameters (conditionPieces expand f (.key k)) (s.keyParameters i)
  selected : s.tableOwner.isSome → ∀ names : List String,
    (∀ n ∈ names, ∃ field, s.getField n = .ok field) →
    (Statement.select (.ofKey names k)).CompilesTo catalog (s.keyParameters i)
  updated : s.table.isSome → ∀ names : List String, (∃ f ∈ s.fields, names.contains f.name) →
    (∀ f ∈ s.fields, names.contains f.name → f.isComputed = false) →
    (Statement.update (.ofKeyed i names k)).CompilesTo catalog
      (s.valuesWhere i (fun f => names.contains f.name) ++ s.keyParameters i)
  deleted : s.table.isSome →
    (Statement.delete ⟨i.record, .key k⟩).CompilesTo catalog (s.keyParameters i)

/-- An instance that lists its fields, and whose record and shadows have schemas, is inserted with the values
of the fields that are stored and that the database does not fill in. It has a key if and only if its
record has a key field, and its row is found by the key. An update assigns the named fields. Values come
in the order of declaration. -/
theorem instances_stored (hi : i.Listed catalog) (hr : Registrable catalog i.record) :
    ∃ s, RecordSchema.build catalog i.record = .ok s ∧
      (s.table.isSome → (Statement.insert (.ofInstance i)).CompilesTo catalog
        (s.valuesWhere i fun f => !f.isComputed && !f.isIdentity)) ∧
      ((∃ k, s.keyOf i = .ok k) ↔ ∃ f ∈ s.fields, f.id) ∧
      (∀ k, s.keyOf i = .ok k → s.KeyedBy catalog i k) ∧
      ∀ names : List String, (Update.ofInstance i names).assignments =
        (s.paired i fun f => names.contains f.name).map fun q => (q.1.name, .value q.2) := by
  obtain ⟨s, hs⟩ := hr i.record .self
  refine ⟨s, hs, insert_compiles hs hi hr, keyOf_iff hs hi, fun k hk => ?_,
    assignments_ofInstance hs hi⟩
  exact
    { inOrder := keyOf_inOrder hs hi hk
      restriction := fun _ _ hschema => key_pieces hs hi hk hschema
      bound := fun _ _ hschema hdef => key_binds hs hi hk hschema hdef
      selected := fun howner _ hnames => select_compiles hs hi hr hk howner hnames
      updated := fun htable _ hsome hstored => update_compiles hs hi hr hk htable hsome hstored
      deleted := delete_compiles hs hi hr hk }

/-- Copies of novels. -/
def copy : RecordType := ⟨"Copy"⟩

/-- Copies on the shelves of a bookshop: each is known by its novel and its shelf, if it is on one. -/
def shelves : Catalog where
  declared :=
    [(copy,
      { typeName := "Copy", table := some "copies",
        fields :=
          [numberDescriptor "novel" true none, numberDescriptor "pages" false none,
            { numberDescriptor "shelf" true none with column := { nullable := true } },
            numberDescriptor "worth" false (some { required := false })] })]

/-- The schema of copies. -/
def copySchema : RecordSchema where
  record := copy
  typeName := "Copy"
  table := some "copies"
  computed := none
  fields :=
    [numberField "novel" "novel" true none, numberField "pages" "pages" false none,
      { numberField "shelf" "shelf" true none with column := { nullable := true } },
      numberField "worth" "worth" false (some { required := false })]
  keyGenerator := none
  indexes := []
  unique := []
  fullText := []
  generators := []

theorem build_copy : RecordSchema.build shelves copy = .ok copySchema :=
  rfl

/-- Copies shadow no other record. -/
theorem copy_registrable : Registrable shelves copy :=
  registrable_of_unshadowing build_copy rfl

/-- A copy that is on no shelf. -/
def loneCopy : Instance where
  record := copy
  values := [("novel", .integer 3), ("pages", .integer 250), ("shelf", .null), ("worth", .integer 7)]

/-- A copy that is on no shelf is inserted without its worth, and it is found by its novel. -/
theorem loneCopy_stored :
    loneCopy.Listed shelves ∧ Registrable shelves loneCopy.record ∧
      (Statement.insert (.ofInstance loneCopy)).CompilesTo shelves [.integer 3, .integer 250, .null] ∧
      ∃ k, k.record = copy ∧
        (Statement.select (.ofKey ["pages"] k)).CompilesTo shelves [.integer 3] ∧
        (Statement.update (.ofKeyed loneCopy ["pages"] k)).CompilesTo shelves [.integer 250, .integer 3] ∧
        (Statement.delete ⟨copy, .key k⟩).CompilesTo shelves [.integer 3] := by
  have hlisted : loneCopy.Listed shelves := rfl
  obtain ⟨s, hs, hinsert, hkey, hkeyed, -⟩ := instances_stored hlisted copy_registrable
  obtain rfl : copySchema = s := Except.ok.inj (build_copy.symm.trans hs)
  obtain ⟨k, hk⟩ := hkey.2 ⟨numberField "novel" "novel" true none, by decide, rfl⟩
  have keyed := hkeyed k hk
  refine ⟨hlisted, copy_registrable, hinsert rfl, k, keyed.inOrder.1, ?_, ?_, keyed.deleted rfl⟩
  · exact keyed.selected rfl ["pages"] (by simp; exact ⟨_, rfl⟩)
  · exact keyed.updated rfl ["pages"] (by decide) (by decide)

end RecordSql
