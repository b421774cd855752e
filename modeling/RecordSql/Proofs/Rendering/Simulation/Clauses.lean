import RecordSql.Proofs.Rendering.Simulation

/-!
# Alike clauses

What does not depend on the expressions of a select is rendered alike in two alike frames: full-text
conditions, the fields that are asked for, tables, limits and locks.

- `fullText_follows`: full-text conditions.
- `projection_follows`: the fields that a select asks for.
- `source_follows`, `joinTable_follows`: tables.
- `limit_rel`, `lock_rel`: the end of a select.
-/

namespace RecordSql

namespace Simulation

variable {L : Likeness} {S : Simulation L} {f f' : Frame}

/-! ### Full text -/

theorem index_follows {schema : RecordSchema} {t : RecordType} (ha : S.alike f f')
    (fields : List String) :
    Matches S.fails (S.Items True) (indexPieces f schema t fields) (indexPieces f' schema t fields) := by
  obtain ⟨selects, rfl⟩ : ∃ selects, f' = { f with selects := selects } := ⟨_, S.base ha⟩
  have column : ∀ name ∈ fields, ∀ name', name = name' → S.Follows True
      (do
        let label ← f.label t
        let field ← schema.getField name
        return [.column label field.columnName])
      (do
        let label ← f.label t
        let field ← schema.getField name'
        return [.column label field.columnName]) := by
    rintro name _ _ rfl
    refine Matches.bindSame fun label _ => Matches.bindSame fun field _ => ?_
    exact S.rel_piece (p := .column label field.columnName) rfl
  have steps := items (List.forall₂_same.2 fun _ _ => rfl) column
  rw [show (∀ n ∈ fields, True) = True by simp] at steps
  exact steps

theorem fullText_follows {record : RecordType} {index query query' : String} (ha : S.alike f f')
    (hq : L.value (.string query) (.string query')) :
    S.Follows True (fullTextPieces f record index query) (fullTextPieces f' record index query') := by
  obtain ⟨selects, hf⟩ : ∃ selects, f' = { f with selects := selects } := ⟨_, S.base ha⟩
  unfold fullTextPieces
  rw [show f'.registry = f.registry by rw [hf], show f'.dialect = f.dialect by rw [hf]]
  refine Matches.bindSame fun schema _ => ?_
  cases schema.fullTextIndex? index with
  | none => exact S.fails.agree_self _
  | some i =>
    refine Matches.bindSame fun t _ => ?_
    cases f.dialect with
    | mySql =>
      refine (index_follows ha i.fields).bind fun pss qss h => ?_
      have head := rel_before [.word "match("] (by decide) (h.separated (s := ", "))
      have tail := rel_before [.word ") against ("] (by decide)
        (rel_after [.word " in boolean mode)"] (by decide) (S.rel_value hq))
      exact rel_congr (S.rel_append head tail) (and_self_iff)
    | postgreSql =>
      rw [show f'.label t = f.label t by rw [hf]; rfl]
      refine Matches.bindSame fun label _ => ?_
      exact rel_before [.column label (fullTextColumn i.name), .word " @@ to_tsquery('default', "]
        (by simp [Piece.value?]) (rel_after [.word ")"] (by decide) (S.rel_value hq))

/-! ### Clauses of a select -/

/-- The fields of a projection are the ones it asks for. -/
theorem selectedFields_name {schema : RecordSchema} {names : List String} {fields : List FieldSchema}
    (h : selectedFields schema names = .ok fields) :
    fields.map (·.name) = if names.isEmpty then schema.fields.map (·.name) else names := by
  unfold selectedFields at h
  split at h
  case isTrue he =>
    cases h
    rw [if_pos he]
  case isFalse he =>
    rw [if_neg he]
    clear he
    induction names generalizing fields with
    | nil =>
      cases h
      rfl
    | cons n names ih =>
      rw [List.mapM_cons] at h
      cases hn : schema.getField n with
      | error e =>
        rw [hn] at h
        cases h
      | ok field =>
        cases hr : names.mapM schema.getField with
        | error e =>
          rw [hn, hr] at h
          cases h
        | ok rest =>
          rw [hn, hr] at h
          cases h
          rw [List.map_cons, RecordSchema.getField_name hn, ih hr]

theorem selectedFields_projected {g : Registry} {r : RecordType} {schema : RecordSchema}
    {names : List String} {fields : List FieldSchema} (hs : g.schema r = .ok schema)
    (h : selectedFields schema names = .ok fields) : fields.map (·.name) = g.projected r names := by
  rw [selectedFields_name h, Registry.projected, hs]

theorem mem_projected {g : Registry} {r : RecordType} {schema : RecordSchema} {names : List String}
    {fields : List FieldSchema} {field : FieldSchema} (hs : g.schema r = .ok schema)
    (h : selectedFields schema names = .ok fields) (hfield : field ∈ fields) :
    field.name ∈ g.projected r names := by
  rw [← selectedFields_projected hs h]
  exact List.mem_map_of_mem hfield

theorem applied?_projection (f : Frame) (record : RecordType) (name : String) :
    f.applied? .projection (.of record name) = f.definition? record name := by
  show (f.definition? record name).filter (Definition.applies .projection) = _
  cases f.definition? record name with
  | none => rfl
  | some d => simp [Option.filter, Definition.applies]

theorem projection_follows {record : RecordType} {names : List String} (ha : S.alike f f')
    (hp : L.projection record names) :
    S.Follows (∀ n ∈ f.registry.projected record names, S.keepsField f .projection (.of record n))
      (projectionPieces S.expand f record names) (projectionPieces S.expand' f' record names) := by
  unfold projectionPieces
  rw [show f'.registry = f.registry by rw [S.base ha]]
  refine Matches.bindSame fun schema hs => Matches.bindSame fun fields hfields => ?_
  have hmem : ∀ field ∈ fields, field.name ∈ f.registry.projected record names :=
    fun field hf => mem_projected hs hfields hf
  have hprojects : fields.filter (f'.projects record) = fields.filter (f.projects record) := by
    refine List.filter_congr fun field hf => ?_
    have hl := S.projection ha hp (hmem field hf)
    rw [applied?_projection, applied?_projection] at hl
    unfold Frame.projects
    generalize f.definition? record field.name = o at hl ⊢
    generalize f'.definition? record field.name = o' at hl ⊢
    cases hl <;> rfl
  rw [hprojects]
  have steps := items (S := S) (k := fun field => S.keepsField f .projection (.of record field.name))
    (f := fun field => referencePieces S.expand f .projection (.of record field.name))
    (g := fun field => referencePieces S.expand' f' .projection (.of record field.name))
    (show List.Forall₂ Eq (fields.filter (f.projects record)) _ from List.forall₂_refl _)
    fun field hf _ h => by
      rw [← h]
      exact reference_follows ha (S.projection ha hp (hmem field (List.mem_filter.1 hf).1))
  refine steps.bind fun pss qss h => rel_congr h.separated ?_
  rw [← selectedFields_projected hs hfields, List.forall_mem_map]
  constructor
  · intro h field hf d hd
    have hproj : f.projects record field = true := by
      rw [applied?_projection] at hd
      unfold Frame.projects
      rw [hd, Option.isSome_some, Bool.or_true]
    exact h field (List.mem_filter.2 ⟨hf, hproj⟩) d hd
  · exact fun h field hf => h field (List.mem_filter.1 hf).1

theorem table_follows (ha : S.alike f f') (r : RecordType) :
    Matches S.fails (fun q q' => S.rel True [q] [q']) (f.tablePiece r) (f'.tablePiece r) := by
  obtain ⟨selects, rfl⟩ : ∃ selects, f' = { f with selects := selects } := ⟨_, S.base ha⟩
  exact Matches.bindSame fun _ _ => Matches.bindSame fun name _ => Matches.bindSame fun n _ =>
    S.rel_piece (p := .table name (.abbreviation n)) rfl

theorem source_follows (ha : S.alike f f') (record : RecordType) (sources : Option (List RecordType)) :
    S.Follows True (sourcePieces f record sources) (sourcePieces f' record sources) := by
  refine (Matches.mapM fun r _ => table_follows ha r).bind fun ts qs h => ?_
  have all : S.Items True (ts.map fun t => [t]) (qs.map fun t => [t]) := by
    induction h with
    | nil => exact .nil
    | cons ht _ ih =>
      rw [← and_self True]
      exact .cons ht ih
  exact all.separated

theorem joinTable_follows (ha : S.alike f f') (record : RecordType) (tableAlias : Option String) :
    Matches S.fails (fun q q' => S.rel True [q] [q']) (joinTable f record tableAlias)
      (joinTable f' record tableAlias) := by
  obtain ⟨selects, rfl⟩ : ∃ selects, f' = { f with selects := selects } := ⟨_, S.base ha⟩
  refine Matches.bindSame fun _ _ => Matches.bindSame fun name _ => ?_
  cases tableAlias with
  | some a => exact S.rel_piece (p := .table name (.named a)) rfl
  | none =>
    exact Matches.bindSame fun n _ => S.rel_piece (p := .table name (.abbreviation n)) rfl

theorem limit_rel {l l' : Option Limit} (h : L.Limits l l') :
    S.rel True (limitPieces l) (limitPieces l') := by
  cases l with
  | none =>
    rw [show l' = none from h]
    exact S.rel_nil
  | some l =>
    obtain ⟨m, rfl, hcount, hoffset⟩ := h
    have count := rel_before [.clauseBreak, .word "limit "] (by simp [Piece.value?]) (S.rel_value hcount)
    have offset := rel_before [.word " offset "] (by decide) (S.rel_value hoffset)
    exact rel_congr (S.rel_append count offset) (and_self_iff)

theorem lock_rel (forUpdate : Bool) : S.rel True (lockPieces forUpdate) (lockPieces forUpdate) := by
  cases forUpdate with
  | true => exact rel_pieces (by simp [lockPieces, Piece.value?])
  | false => exact S.rel_nil

end Simulation

end RecordSql
