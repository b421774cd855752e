import RecordSql.Proofs.Accord
import RecordSql.Proofs.Definition.Parentheses
import RecordSql.Proofs.Expression.Records
import RecordSql.Proofs.Registration.Closure
import RecordSql.Proofs.Rendering.Nesting
import RecordSql.Proofs.Rendering.Parts

/-!
# Twin frames

The same reference is written in two frames that differ in the dialect and in the record without alias.
What is looked up is found in both or in neither, since all records are registered and every table behind
them can be named; and the same values are bound.

- `Frame.Twins`: two such frames, whose definitions mention registered records only.
- `Agree`, `AgreeAll`: renderings that bind the same values, or fail alike without missing a record.
- `reference_agrees`, `key_agrees`, `multiKey_agrees`: references and keys.
- `fullText_agrees`: full-text matches, which the dialects write in different ways.
- `projection_agrees`, `source_agrees`, `joinTable_agrees`: the other parts of a select.
-/

namespace RecordSql

/-! ### Bound values of pieces -/

theorem parameters_cons (p : Piece) (ps : List Piece) :
    parameters (p :: ps) = p.value?.toList ++ parameters ps := by
  cases h : p.value? <;> simp [parameters, h]

theorem parameters_separated (s : String) (pss : List (List Piece)) :
    parameters (separated s pss) = pss.flatMap parameters := by
  induction pss with
  | nil => rfl
  | cons ps pss ih =>
    cases pss with
    | nil => simp [separated]
    | cons qs pss =>
      show parameters (ps ++ .word s :: separated s (qs :: pss)) = _
      rw [parameters_append, parameters_cons, ih, List.flatMap_cons]
      rfl

theorem parameters_flatten (pss : List (List Piece)) :
    parameters pss.flatten = pss.flatMap parameters := by
  induction pss with
  | nil => rfl
  | cons ps pss ih => rw [List.flatten_cons, parameters_append, ih, List.flatMap_cons]

/-! ### Twins -/

/-- Two frames of one registry with the same selects around, whose definitions mention registered records
only. They may differ in the dialect and in the record that is written without alias. -/
structure Frame.Twins (g : Registry) (f f' : Frame) : Prop where
  registry : f.registry = g
  registry' : f'.registry = g
  selects : f'.selects = f.selects
  covered : ∀ p ∈ f.selects, ∀ d ∈ p.2, d.expr.records ⊆ g.records

/-- Renderings that bind the same values, or fail alike without missing a record. -/
abbrev Agree : Rendered → Rendered → Prop :=
  Accord fun ps qs => parameters ps = parameters qs

/-- The same of lists of pieces. -/
abbrev AgreeAll : Except Error (List (List Piece)) → Except Error (List (List Piece)) → Prop :=
  Accord fun pss qss => pss.flatMap parameters = qss.flatMap parameters

/-- What stands for a definition agrees in twin frames. -/
def ExpandsAgree (g : Registry) (expand : Frame → Expr → Rendered) : Prop :=
  ∀ f f' e, Frame.Twins g f f' → e.records ⊆ g.records → Agree (expand f e) (expand f' e)

/-- Items that agree one by one. -/
theorem agreeAll_mapM {ι : Type} {f g : ι → Rendered} {l : List ι}
    (h : ∀ i ∈ l, Agree (f i) (g i)) : AgreeAll (l.mapM f) (l.mapM g) := by
  refine (Accord.mapM h).mono fun pss qss hall => ?_
  induction hall with
  | nil => rfl
  | cons hps _ ih => rw [List.flatMap_cons, List.flatMap_cons, hps, ih]

namespace Frame.Twins

variable {g : Registry} {f f' : Frame}

/-- A select is entered by both frames. -/
theorem enter (h : Frame.Twins g f f') {s : Select} (hs : s.records ⊆ g.records) :
    Frame.Twins g (f.enter s) (f'.enter s) := by
  refine ⟨h.registry, h.registry', ?_, ?_⟩
  · show (s.record, s.definitions) :: f'.selects = _
    rw [h.selects]
    rfl
  · refine List.forall_mem_cons.2 ⟨fun d hd => ?_, h.covered⟩
    exact List.Subset.trans (Select.records_definition hd) hs

theorem definition?_eq (h : Frame.Twins g f f') (r : RecordType) (field : String) :
    f'.definition? r field = f.definition? r field := by
  unfold Frame.definition?
  rw [h.selects]

/-- A definition mentions registered records only. -/
theorem definition_covered (h : Frame.Twins g f f') {r : RecordType} {field : String} {d : Definition}
    (hd : f.definition? r field = some d) : d.expr.records ⊆ g.records := by
  obtain ⟨p, hp, -, hmem, -⟩ := Frame.mem_of_definition? hd
  exact h.covered p hp d hmem

end Frame.Twins

/-- A table that can be named has a label, under its own name or abbreviated. -/
theorem label_of_names {g : Registry} {f : Frame} {t : RecordType} (hf : f.registry = g)
    (ht : g.Names t) : ∃ l, f.label t = .ok l := by
  subst hf
  obtain ⟨⟨name, hname⟩, n, hn⟩ := ht
  unfold Frame.label
  by_cases hself : f.unaliased = some t
  · rw [if_pos hself, hname]
    exact ⟨.named name, rfl⟩
  · rw [if_neg hself, hn]
    exact ⟨.abbreviation n, rfl⟩

/-! ### What is looked up -/

theorem pickValues_informed (record : String) (values : FieldValues) (fields : List String) :
    Informed (pickValues record values fields) := by
  induction fields with
  | nil => exact .ok []
  | cons n fields ih =>
    rw [pickValues]
    cases values.value? n with
    | none => exact fun r h => nomatch h
    | some v => exact ih.bind fun rest _ => .ok (v :: rest)

theorem valuesInOrder_informed (k : Key) (primaryKey : List String) :
    Informed (k.valuesInOrder primaryKey) := by
  unfold Key.valuesInOrder
  split
  · exact fun r h => nomatch h
  · split
    · exact fun r h => nomatch h
    · exact pickValues_informed _ _ _

theorem fixedInOrder_informed (k : MultiKey) (primaryKey : List String) :
    Informed (k.fixedInOrder primaryKey) := by
  unfold MultiKey.fixedInOrder
  split
  · exact fun r h => nomatch h
  · split
    · exact fun r h => nomatch h
    · exact pickValues_informed _ _ _

theorem selectedFields_informed (schema : RecordSchema) (names : List String) :
    Informed (selectedFields schema names) := by
  unfold selectedFields
  split
  · exact .ok _
  · exact Informed.mapM fun n _ => getField_informed schema n

section References

variable {catalog : Catalog} {g : Registry} {f f' : Frame} {expand : Frame → Expr → Rendered}
  (hg : g.Closed catalog) (h : Frame.Twins g f f')

include hg h

/-! ### References and keys -/

theorem reference_agrees (hexp : ExpandsAgree g expand) (use : ColumnUse) {c : FieldRef}
    (hc : c.records ⊆ g.records) :
    Agree (referencePieces expand f use c) (referencePieces expand f' use c) := by
  unfold referencePieces
  cases hr : c.record with
  | none => exact .ok rfl
  | some record =>
    have hrecord : record ∈ g.records := hc (by simp [FieldRef.records, hr])
    obtain ⟨schema, hschema⟩ := schema_of_registered hrecord
    simp only [h.registry, h.registry', hschema, ok_bind, h.definition?_eq]
    refine Accord.same (getField_informed schema c.field) fun field hfield => ?_
    cases hd : (f.definition? record c.field).filter (Definition.applies use) with
    | some d =>
      have hdefined : f.definition? record c.field = some d := (Option.filter_eq_some_iff.1 hd).1
      refine (hexp f f' d.expr h (h.definition_covered hdefined)).bind fun ps qs hpq => ?_
      exact .ok (by rw [parameters_append, parameters_append, hpq])
    | none =>
      cases field.literal with
      | some sql => exact .ok rfl
      | none =>
        cases howner : (field.shadowOf <|> schema.tableOwner) with
        | none => exact .error fun r h => nomatch h
        | some t =>
          cases c.qualifier with
          | some a => exact .ok rfl
          | none =>
            have hnames : g.Names t := hg.names_source hschema hfield howner
            obtain ⟨l, hl⟩ := label_of_names h.registry hnames
            obtain ⟨l', hl'⟩ := label_of_names h.registry' hnames
            simp only [hl, hl', ok_bind]
            exact .ok rfl

theorem component_agrees (hexp : ExpandsAgree g expand) {record : RecordType}
    (hr : record ∈ g.records) (field : String) (v : Value) :
    Agree (componentPieces expand f record field v) (componentPieces expand f' record field v) := by
  have hc : (FieldRef.of record field).records ⊆ g.records := by
    simpa [FieldRef.records, FieldRef.of] using hr
  refine (reference_agrees hg h hexp .key hc).bind fun ps qs hpq => .ok ?_
  rw [parameters_append, parameters_append, hpq]

theorem components_agree (hexp : ExpandsAgree g expand) {record : RecordType}
    (hr : record ∈ g.records) (components : List (String × Value)) :
    AgreeAll (componentsPieces expand f record components)
      (componentsPieces expand f' record components) :=
  agreeAll_mapM fun p _ => component_agrees hg h hexp hr p.1 p.2

theorem key_agrees (hexp : ExpandsAgree g expand) {k : Key} (hk : k.record ∈ g.records) :
    Agree (keyPieces expand f k) (keyPieces expand f' k) := by
  unfold keyPieces
  rw [h.registry, h.registry']
  refine Accord.same (schema_informed hk) fun schema _ => ?_
  refine Accord.same (valuesInOrder_informed k schema.primaryKey) fun values _ => ?_
  refine (components_agree hg h hexp hk _).bind fun pss qss hall => .ok ?_
  rw [parameters_separated, parameters_separated, hall]

theorem multiKey_agrees (hexp : ExpandsAgree g expand) {k : MultiKey} (hk : k.record ∈ g.records) :
    Agree (multiKeyPieces expand f k) (multiKeyPieces expand f' k) := by
  have hc : (FieldRef.of k.record k.field).records ⊆ g.records := by
    simpa [FieldRef.records, FieldRef.of] using hk
  unfold multiKeyPieces
  rw [h.registry, h.registry']
  refine Accord.same (schema_informed hk) fun schema _ => ?_
  refine Accord.same (fixedInOrder_informed k schema.primaryKey) fun values _ => ?_
  refine (components_agree hg h hexp hk _).bind fun pss qss hall => ?_
  refine (reference_agrees hg h hexp .key hc).bind fun ps qs hpq => .ok ?_
  simp only [parameters_separated, List.flatMap_append, List.flatMap_singleton, parameters_append,
    hall, hpq]

end References

/-! ### Full text -/

/-- The columns of a full-text index bind no value. -/
theorem index_written {f : Frame} {schema : RecordSchema} {t : RecordType} {l : TableLabel}
    (hl : f.label t = .ok l) {names : List String}
    (hnames : ∀ n ∈ names, ∃ field, schema.getField n = .ok field) :
    ∃ pss, indexPieces f schema t names = .ok pss ∧ pss.flatMap parameters = [] := by
  induction names with
  | nil => exact ⟨[], rfl, rfl⟩
  | cons n names ih =>
    obtain ⟨⟨field, hfield⟩, hrest⟩ := List.forall_mem_cons.1 hnames
    obtain ⟨pss, hpss, hnone⟩ := ih hrest
    unfold indexPieces at hpss ⊢
    refine ⟨[.column l field.columnName] :: pss, ?_, ?_⟩
    · rw [List.mapM_cons, hpss, hl, ok_bind, hfield]
      rfl
    · rw [List.flatMap_cons, hnone]
      rfl

section FullText

variable {catalog : Catalog} {g : Registry} {f f' : Frame} {record t : RecordType}
  {schema : RecordSchema} {index : String}

/-- A match against an index binds its query. One dialect looks up a label and a field for every column of
the index, the other one a single label; but a table that is found has a label, and the fields of an
index exist. -/
theorem fullText_written (hg : g.Closed catalog) (hf : f.registry = g) {i : FullTextIndex}
    (hschema : g.schema record = .ok schema) (hi : schema.fullTextIndex? index = some i)
    (ht : g.tableOf record = .ok t) (query : String) :
    ∃ ps, fullTextPieces f record index query = .ok ps ∧ parameters ps = [.string query] := by
  subst hf
  obtain ⟨l, hl⟩ := label_of_names (f := f) rfl (hg.names_tableOf ht)
  unfold fullTextPieces
  simp only [hschema, ok_bind, hi, ht]
  cases f.dialect with
  | mySql =>
    have hfields := fullText_fields (hg.built.schema hschema) hi
    obtain ⟨pss, hpss, hnone⟩ := index_written hl hfields
    refine ⟨_, by rw [hpss, ok_bind]; rfl, ?_⟩
    rw [parameters_append, parameters_cons, parameters_separated, hnone]
    rfl
  | postgreSql =>
    rw [hl, ok_bind]
    exact ⟨_, rfl, rfl⟩

/-- A match against an index that does not exist, or on a record without table, fails alike in all frames
of a registry. -/
theorem fullText_failed {e : Error} (hf : f.registry = g) (hschema : g.schema record = .ok schema)
    (he : (schema.fullTextIndex? index = none ∧
        e = .invalidSchema record.name (.noFullTextIndex index)) ∨
      ((schema.fullTextIndex? index).isSome ∧ g.tableOf record = .error e)) (query : String) :
    fullTextPieces f record index query = .error e := by
  subst hf
  unfold fullTextPieces
  simp only [hschema, ok_bind]
  rcases he with ⟨hi, rfl⟩ | ⟨hi, ht⟩
  · rw [hi]
    rfl
  · obtain ⟨i, hi⟩ := Option.isSome_iff_exists.1 hi
    simp only [hi, ht]
    rfl

theorem fullText_agrees (hg : g.Closed catalog) (h : Frame.Twins g f f') (hr : record ∈ g.records)
    (index query : String) :
    Agree (fullTextPieces f record index query) (fullTextPieces f' record index query) := by
  obtain ⟨schema, hschema⟩ := schema_of_registered hr
  cases hi : schema.fullTextIndex? index with
  | none =>
    rw [fullText_failed h.registry hschema (.inl ⟨hi, rfl⟩) query,
      fullText_failed h.registry' hschema (.inl ⟨hi, rfl⟩) query]
    exact .error fun r h => nomatch h
  | some i =>
    cases ht : g.tableOf record with
    | ok t =>
      obtain ⟨ps, hps, hvalues⟩ := fullText_written hg h.registry hschema hi ht query
      obtain ⟨qs, hqs, hvalues'⟩ := fullText_written hg h.registry' hschema hi ht query
      rw [hps, hqs]
      exact .ok (hvalues.trans hvalues'.symm)
    | error e =>
      have hindex : (schema.fullTextIndex? index).isSome := by rw [hi]; rfl
      rw [fullText_failed h.registry hschema (.inr ⟨hindex, ht⟩) query,
        fullText_failed h.registry' hschema (.inr ⟨hindex, ht⟩) query]
      exact .error fun r he => tableOf_informed hr r (by rw [ht, he])

end FullText

section Clauses

variable {catalog : Catalog} {g : Registry} {f f' : Frame} {expand : Frame → Expr → Rendered}
  (hg : g.Closed catalog) (h : Frame.Twins g f f')

include hg h

/-! ### Projections and tables -/

theorem projection_agrees (hexp : ExpandsAgree g expand) {record : RecordType}
    (hr : record ∈ g.records) (names : List String) :
    Agree (projectionPieces expand f record names) (projectionPieces expand f' record names) := by
  have hprojects : f'.projects record = f.projects record := by
    funext field
    unfold Frame.projects
    rw [h.definition?_eq]
  unfold projectionPieces
  rw [h.registry, h.registry', hprojects]
  refine Accord.same (schema_informed hr) fun schema _ => ?_
  refine Accord.same (selectedFields_informed schema names) fun fields _ => ?_
  have items : AgreeAll
      ((fields.filter (f.projects record)).mapM fun field =>
        referencePieces expand f .projection (.of record field.name))
      ((fields.filter (f.projects record)).mapM fun field =>
        referencePieces expand f' .projection (.of record field.name)) := by
    refine agreeAll_mapM fun field _ => reference_agrees hg h hexp .projection ?_
    simpa [FieldRef.records, FieldRef.of] using hr
  refine items.bind fun pss qss hall => .ok ?_
  rw [parameters_separated, parameters_separated, hall]

/-- The table behind a registered record is named in the same way in both frames. -/
theorem tablePiece_agrees {r : RecordType} (hr : r ∈ g.records) :
    f'.tablePiece r = f.tablePiece r ∧ Informed (f.tablePiece r) := by
  unfold Frame.tablePiece
  rw [h.registry, h.registry']
  refine ⟨rfl, (tableOf_informed hr).bind fun t ht => ?_⟩
  obtain ⟨⟨name, hname⟩, n, hn⟩ := hg.names_tableOf ht
  simp only [hname, hn, ok_bind]
  exact .ok _

theorem source_agrees {record : RecordType} {sources : Option (List RecordType)}
    (hr : sources.getD [record] ⊆ g.records) :
    Agree (sourcePieces f record sources) (sourcePieces f' record sources) := by
  have tables : Accord (List.Forall₂ (· = ·)) ((sources.getD [record]).mapM f.tablePiece)
      ((sources.getD [record]).mapM f'.tablePiece) := by
    refine Accord.mapM fun r hmem => ?_
    obtain ⟨hsame, hinformed⟩ := tablePiece_agrees hg h (hr hmem)
    rw [hsame]
    exact .refl hinformed
  refine tables.bind fun ts us hall => .ok ?_
  rw [List.forall₂_eq_eq_eq] at hall
  rw [hall]

/-- The table of a join, named in the same way in both frames. -/
theorem joinTable_agrees {r : RecordType} (hr : r ∈ g.records) (tableAlias : Option String) :
    Accord (fun p q => p.value? = q.value?) (joinTable f r tableAlias) (joinTable f' r tableAlias) := by
  unfold joinTable
  rw [h.registry, h.registry']
  refine Accord.same (tableOf_informed hr) fun t ht => ?_
  obtain ⟨⟨name, hname⟩, n, hn⟩ := hg.names_tableOf ht
  cases tableAlias with
  | some a =>
    simp only [hname, ok_bind]
    exact .ok rfl
  | none =>
    simp only [hname, hn, ok_bind]
    exact .ok rfl

end Clauses

end RecordSql
