import RecordSql.Proofs.Binding.Verified
import RecordSql.Proofs.Registration
import RecordSql.Proofs.Rendering.Provenance

/-!
# Declared qualifiers

A column is qualified by the label of a table. Where references are bound, that table is declared by the
select around the column or by one further out, but for two kinds of records that may be named without
their tables: a record that a field shadows, and the record of a select that reads other tables.

- `Statement.Qualified`: what a qualifier can be.
- `Statement.Reaches.qualified`: the columns that are written where references are bound.
- `qualifiers_declared`: the columns of compiled statements.
-/

namespace RecordSql

/-- What the qualifier of a column can be: a label that is declared around the column, that of a record
which a field shadows, or that of the record of a select around which reads other tables. -/
inductive Statement.Qualified (s : Statement) (dialect : Dialect) (g : Registry) (p : Site)
    (label : TableLabel) (name : String) : Prop
  | declared : label ∈ (p.surroundings g (s.target dialect g)).flatten →
      Qualified s dialect g p label name
  | shadowing {use c r schema field t} : p.item = .reference use c → c.record = some r →
      c.qualifier = none → g.schema r = .ok schema → schema.getField c.field = .ok field →
      field.shadowOf = some t → name = field.columnName →
      (s.frame dialect g).label t = .ok label → Qualified s dialect g p label name
  | leftOut {u : Select} : u ∈ p.around → u.sources.isSome → label ∉ g.labels u →
      g.declaredAs? u.record none = some label → Qualified s dialect g p label name

/-- The table that a statement writes to is that of a concrete record. -/
def Statement.Writable (g : Registry) : Statement → Prop
  | .select _ | .insert _ => True
  | .update u => ∃ schema, g.schema u.record = .ok schema ∧ schema.table.isSome
  | .delete d => ∃ schema, g.schema d.record = .ok schema ∧ schema.table.isSome

theorem statementPieces_writable {dialect : Dialect} {g : Registry} {s : Statement} {ps : List Piece}
    (h : statementPieces dialect g s = .ok ps) : s.Writable g := by
  cases s with
  | select _ | insert _ => trivial
  | update u =>
    obtain ⟨_, schema, _, _, _, _, _, -, hschema, htable, -⟩ := updatePieces_eq_ok h
    exact ⟨schema, hschema, by rw [htable]; rfl⟩
  | delete d =>
    obtain ⟨schema, _, _, _, hschema, htable, -⟩ := deletePieces_eq_ok h
    exact ⟨schema, hschema, by rw [htable]; rfl⟩

section Labels

variable {catalog : Catalog} {g : Registry} {s : Statement} {dialect : Dialect} {r t : RecordType}
  {schema : RecordSchema} {label : TableLabel}

/-! ### Labels of records -/

/-- A shadow has the label of the record that it is the shadow of. -/
theorem declaredAs?_shadow (hg : g.BuiltFrom catalog) {shadow : RecordType} {st : RecordSchema}
    (hr : g.schema r = .ok schema) (hshadow : schema.shadowOf = some shadow)
    (hs : g.schema shadow = .ok st) : g.declaredAs? shadow none = g.declaredAs? r none := by
  have howner : schema.tableOwner = some shadow := by
    unfold RecordSchema.tableOwner
    unfold RecordSchema.shadowOf at hshadow
    cases hc : schema.computed with
    | none => rw [hc] at hshadow; cases hshadow
    | some c => rw [hc] at hshadow; exact hshadow
  have hself := tableOwner_self (hg.schema hr) (hg.schema hs) howner
  have hrOf : g.tableOf r = .ok shadow := by
    rw [Registry.tableOf, hr, ok_bind, howner]
    rfl
  have hsOf : g.tableOf shadow = .ok shadow := by
    rw [Registry.tableOf, hs, ok_bind, hself]
    rfl
  rw [Registry.declaredAs?, Registry.declaredAs?, hrOf, hsOf]

theorem mem_labels {u : Select} {tableAlias : Option String} (h : (r, tableAlias) ∈ u.tables)
    (hl : g.declaredAs? r tableAlias = some label) : label ∈ g.labels u :=
  List.mem_filterMap.2 ⟨_, h, hl⟩

/-- A table that is written under its abbreviation is declared by it. -/
theorem declaredAs?_label {f : Frame} (hr : f.registry.schema r = .ok schema)
    (howner : schema.tableOwner = some t) (ht : f.unaliased ≠ some t)
    (hl : f.label t = .ok label) : f.registry.declaredAs? r none = some label := by
  have hOf : f.registry.tableOf r = .ok t := by
    rw [Registry.tableOf, hr, ok_bind, howner]
    rfl
  rw [Frame.label, if_neg ht] at hl
  rw [Registry.declaredAs?, hOf, ok_bind, hl]
  rfl

/-! ### Labels around a site -/

variable {p : Site} {name : String}

theorem Statement.Qualified.ofSelect {u : Select} (hu : u ∈ p.around) (h : label ∈ g.labels u) :
    s.Qualified dialect g p label name := by
  refine .declared (List.mem_flatten.2 ⟨g.labels u, ?_, h⟩)
  exact List.mem_append_left _ (List.mem_map_of_mem hu)

theorem Statement.Qualified.ofTarget (h : label ∈ (s.target dialect g).flatten) :
    s.Qualified dialect g p label name := by
  obtain ⟨labels, hlabels, hmem⟩ := List.mem_flatten.1 h
  exact .declared (List.mem_flatten.2 ⟨labels, List.mem_append_right _ hlabels, hmem⟩)

/-- A statement's own record is labelled as the table that it writes to. -/
theorem label_record (dialect : Dialect) (g : Registry) (s : Statement) :
    (s.frame dialect g).label s.record = s.targetLabel dialect g := by
  cases s with
  | select | insert | update => rfl
  | delete d =>
    rw [Statement.targetLabel, Statement.frame, Frame.label, Statement.record]
    by_cases halias : dialect.deleteTakesAlias
    · rw [if_pos halias, if_pos halias]
      rfl
    · rw [if_neg halias, if_neg halias, if_pos rfl]

theorem mem_target (hs : s.target dialect g = [(s.targetLabel dialect g).toOption.toList])
    (hl : (s.frame dialect g).label s.record = .ok label) : label ∈ (s.target dialect g).flatten := by
  rw [hs, ← label_record, hl]
  exact List.mem_singleton_self label

/-- A statement that binds scopes of its own declares the table that it writes to. -/
theorem target_of_opens {scopes : Scopes} {scope : Scope} (hs : s.Opens g scopes)
    (hmem : scope ∈ scopes) : s.target dialect g = [(s.targetLabel dialect g).toOption.toList] := by
  cases s with
  | select | insert =>
    cases hs
    cases hmem
  | update | delete => rfl

/-- A table without alias is the one that a statement deletes from. -/
theorem target_of_unaliased (ht : (s.frame dialect g).unaliased = some t) :
    t = s.record ∧ s.target dialect g = [(s.targetLabel dialect g).toOption.toList] := by
  cases s with
  | delete d =>
    rw [Statement.frame] at ht
    dsimp only at ht
    split at ht
    · cases ht
    · exact ⟨(Option.some.inj ht).symm, rfl⟩
  | select | insert | update => cases ht

/-- The record of a table that a statement writes to has no shadow. -/
theorem target_record (hg : g.BuiltFrom catalog) (hw : s.Writable g) {scopes : Scopes} {scope : Scope}
    (hs : s.Opens g scopes) (hmem : scope ∈ scopes) (hr : r ∈ scope.records)
    (hschema : g.schema r = .ok schema) : r = s.record ∧ schema.tableOwner = some r := by
  obtain ⟨written, hwritten, htable, hown⟩ : ∃ written, g.schema s.record = .ok written ∧
      written.table.isSome ∧ ownScope g s.record = .ok scope := by
    cases s with
    | select | insert =>
      cases hs
      cases hmem
    | update | delete =>
      obtain ⟨own, hown, rfl⟩ := hs
      obtain ⟨written, hwritten, htable⟩ := hw
      cases List.mem_singleton.1 hmem
      exact ⟨written, hwritten, htable, hown⟩
  obtain ⟨-, resolved⟩ := build_resolved (hg.schema hwritten)
  have hconcrete : written.computed = none := resolved.table_iff.1 htable
  have hopens : Scope.Opens g [] s.record [] scope := .own hown
  obtain ⟨r', hr', hshadow⟩ := hopens.mem_records r hr
  obtain rfl : r' = s.record := hr'.resolve_right (by simp)
  obtain rfl | ⟨written', hwritten', hshadow⟩ := hshadow
  · cases hschema.symm.trans hwritten
    refine ⟨rfl, ?_⟩
    rw [RecordSchema.tableOwner, hconcrete, resolved.record]
  · cases hwritten.symm.trans hwritten'
    rw [RecordSchema.shadowOf, hconcrete] at hshadow
    cases hshadow

/-- The table of a record that may be named is declared, or the record is that of a select which reads
other tables. -/
theorem Statement.Around.qualified (hg : g.BuiltFrom catalog) (hw : s.Writable g) {scope : Scope}
    (ha : s.Around g p.around scope) (hr : r ∈ scope.records) (hschema : g.schema r = .ok schema)
    (howner : schema.tableOwner = some t) (hl : (s.frame dialect g).label t = .ok label) :
    s.Qualified dialect g p label name := by
  by_cases ht : (s.frame dialect g).unaliased = some t
  · obtain ⟨rfl, htarget⟩ := target_of_unaliased ht
    exact .ofTarget (mem_target htarget hl)
  obtain ⟨u, hu, outer, hopens⟩ | ⟨scopes, hs, hmem⟩ := ha
  · have hdeclared : g.declaredAs? r none = some label := by
      have hr' : (s.frame dialect g).registry.schema r = .ok schema := by
        rw [s.frame_registry]
        exact hschema
      have h := declaredAs?_label hr' howner ht hl
      rwa [s.frame_registry] at h
    obtain ⟨r', hr', hshadow⟩ := hopens.mem_records r hr
    have hlabel : g.declaredAs? r' none = some label := by
      obtain rfl | ⟨schema', hschema', hshadow⟩ := hshadow
      · exact hdeclared
      · rw [← declaredAs?_shadow hg hschema' hshadow hschema]
        exact hdeclared
    by_cases hmem : label ∈ g.labels u
    · exact .ofSelect hu hmem
    -- the record is not among the tables, so it is the select's own one
    have hnot : (r', none) ∉ u.tables := fun h => hmem (mem_labels h hlabel)
    obtain rfl : r' = u.record := hr'.resolve_right hnot
    refine .leftOut hu ?_ hmem hlabel
    by_contra hsources
    refine hnot (List.mem_append_left _ ?_)
    rw [Option.not_isSome_iff_eq_none.1 hsources]
    exact List.mem_singleton_self _
  · obtain ⟨rfl, howner'⟩ := target_record hg hw hs hmem hr hschema
    cases howner.symm.trans howner'
    exact .ofTarget (mem_target (target_of_opens hs hmem) hl)

/-- A column that is written where references are bound is qualified. -/
theorem Statement.Binds.qualified (hg : g.BuiltFrom catalog) (hw : s.Writable g)
    (hb : s.Binds g p) (hcolumn : (s.frame dialect g).Writes p label name) :
    s.Qualified dialect g p label name := by
  cases hcolumn with
  | @reference around use c _ _ hresolve =>
    obtain ⟨r, schema, field, t, hr, hschema, hfield, howner, rfl, hlabel⟩ :=
      Frame.resolve_column hresolve
    rw [Frame.within_registry, s.frame_registry] at hschema
    cases hq : c.qualifier with
    | some a =>
      rw [hq] at hlabel
      cases hlabel
      obtain ⟨u, hu, hjoin⟩ := hb.join_mem hr hq
      exact .ofSelect hu (mem_labels hjoin rfl)
    | none =>
      rw [hq] at hlabel
      replace hlabel : (s.frame dialect g).label t = .ok label := by
        rw [← Frame.label_within]
        exact hlabel
      cases hshadow : field.shadowOf with
      | some t' =>
        rw [hshadow] at howner
        cases howner
        exact .shadowing rfl hr hq hschema hfield hshadow rfl hlabel
      | none =>
        rw [hshadow] at howner
        obtain ⟨scope, hscope, hmem⟩ := hb.record_mem hr hq
        exact hscope.qualified hg hw hmem hschema howner hlabel
  | @fullText around record index query t _ _ ht hl =>
    obtain ⟨scope, hscope, hmem⟩ := hb.fullText_mem
    rw [s.frame_registry] at ht
    obtain ⟨schema, hschema, ht⟩ := bind_eq_ok ht
    have howner : schema.tableOwner = some t := by
      split at ht
      · cases ht
        assumption
      · cases ht
    exact hscope.qualified hg hw hmem hschema howner hl

/-- An alias is declared by a join, and a target without alias by its own name. -/
theorem Statement.Qualified.named {a : String} (h : s.Qualified dialect g p (.named a) name) :
    .named a ∈ (p.surroundings g (s.target dialect g)).flatten := by
  cases h with
  | declared h => exact h
  | @shadowing _ _ _ _ _ t _ _ _ _ _ _ _ hl =>
    by_cases ht : (s.frame dialect g).unaliased = some t
    · obtain ⟨rfl, htarget⟩ := target_of_unaliased ht
      obtain ⟨labels, hlabels, hmem⟩ := List.mem_flatten.1 (mem_target htarget hl)
      exact List.mem_flatten.2 ⟨labels, List.mem_append_right _ hlabels, hmem⟩
    · rw [Frame.label, if_neg ht] at hl
      cases hn : (s.frame dialect g).registry.abbreviation t <;> rw [hn] at hl <;> cases hl
  | @leftOut u _ _ _ hl =>
    rw [Registry.declaredAs?] at hl
    cases hn : g.tableOf u.record >>= g.abbreviation <;> rw [hn] at hl <;> cases hl

end Labels

/-! ### Compiled statements -/

/-- Every column of a compiled statement has been written at a site where references are bound. -/
theorem column_site {dialect : Dialect} {g : Registry} {s : Statement} {ps : List Piece}
    (hv : verify g s = .ok ()) (hps : statementPieces dialect g s = .ok ps) {label : TableLabel}
    {name : String} {around : Surroundings}
    (hmem : (.column label name, around) ∈ s.surroundings dialect g ps) :
    ∃ p, s.Reaches (s.frame dialect g) p ∧ around = p.surroundings g (s.target dialect g) ∧
      s.Binds g p ∧ (s.frame dialect g).Writes p label name := by
  obtain ⟨p, hp, haround, hwrites⟩ : s.Written (s.frame dialect g) (s.target dialect g) around
      (.column label name) :=
    Statement.statementPieces_written hps _ hmem
  have hbinds := (hp.bound (s.frame_selects dialect g) (by rw [s.frame_registry]; exact hv)).1
  rw [s.frame_registry] at haround hbinds
  exact ⟨p, hp, haround, hbinds, hwrites label name rfl⟩

/-- Every qualifier of a compiled statement is declared around its column, and without exception if it is
an alias; any other may be that of a record which a field shadows, or that of a select's own record where
the select reads other tables. -/
theorem qualifiers_declared {catalog : Catalog} {options : Options} {s : Statement} {σ : Session}
    {c : Compiled} (hσ : σ.cache.BuiltFrom catalog)
    (h : ((compile catalog options s).runIn σ).1 = .ok c) :
    ∃ g σ' ps, (Registry.build catalog s.records).runIn σ = (.ok g, σ') ∧
      statementPieces options.dialect g s = .ok ps ∧ c = .ofPieces options ps ∧
      ∀ label name around,
        (.column label name, around) ∈ s.surroundings options.dialect g ps →
        (∀ a, label = .named a → label ∈ around.flatten) ∧
        ∃ p, s.Reaches (s.frame options.dialect g) p ∧
          around = p.surroundings g (s.target options.dialect g) ∧
          s.Qualified options.dialect g p label name := by
  obtain ⟨g, σ', ps, hg, built, hv, hps, hc⟩ := compile_built hσ h
  refine ⟨g, σ', ps, hg, hps, hc, fun label name around hmem => ?_⟩
  obtain ⟨p, hp, haround, hbinds, hwrites⟩ := column_site hv hps hmem
  have hqualified := hbinds.qualified built (statementPieces_writable hps) hwrites
  refine ⟨?_, p, hp, haround, hqualified⟩
  rintro a rfl
  rw [haround]
  exact hqualified.named

/-- The authors of some novels, chosen by their reviews. -/
def reviewedNovels : Select where
  record := novel
  fields := ["author"]
  condition := some (.expr (.exists
    { record := review
      fields := ["id"]
      condition := some (.expr
        (.binary .eq (.column (.of review "novel")) (.column (.of novel "id")))) }))

/-- A column of a sub-select may be qualified by a table of the select around it. -/
theorem reviewedNovels_declared :
    openShop.cache.BuiltFrom bookshop ∧
    ∃ c, ((compile bookshop {} (.select reviewedNovels)).runIn openShop).1 = .ok c ∧
      c.sql = "select t0.author from novels as t0 " ++
        "where exists (select t1.id from reviews as t1 where t1.novel = t0.id)" ∧
      ∃ g σ' ps, (Registry.build bookshop (Statement.select reviewedNovels).records).runIn openShop =
          (.ok g, σ') ∧
        statementPieces .mySql g (.select reviewedNovels) = .ok ps ∧ c = .ofPieces {} ps ∧
        ∀ label name around,
          (.column label name, around) ∈ (Statement.select reviewedNovels).surroundings .mySql g ps →
          (∀ a, label = .named a → label ∈ around.flatten) ∧
          ∃ p, (Statement.select reviewedNovels).Reaches
              ((Statement.select reviewedNovels).frame .mySql g) p ∧
            around = p.surroundings g ((Statement.select reviewedNovels).target .mySql g) ∧
            (Statement.select reviewedNovels).Qualified .mySql g p label name := by
  obtain ⟨c, hc, hsql⟩ : ∃ c,
      ((compile bookshop {} (.select reviewedNovels)).runIn openShop).1 = .ok c ∧
      c.sql = "select t0.author from novels as t0 " ++
        "where exists (select t1.id from reviews as t1 where t1.novel = t0.id)" := by
    rw [compile_runIn, build_register (by decide)]
    exact ⟨_, rfl, by decide +kernel⟩
  exact ⟨openShop_built, c, hc, hsql, qualifiers_declared openShop_built hc⟩

/-- Novels, read from the table of reviews. -/
def misreadNovels : Select where
  record := novel
  fields := ["id"]
  sources := some [review]

/-- A select that reads other tables may still name its own record, whose table is not declared then. -/
theorem misreadNovels_undeclared :
    openShop.cache.BuiltFrom bookshop ∧
    ∃ c, ((compile bookshop {} (.select misreadNovels)).runIn openShop).1 = .ok c ∧
      c.sql = "select t0.id from reviews as t1" ∧
      ∃ g ps, (Registry.build bookshop (Statement.select misreadNovels).records).runIn openShop =
          (.ok g, openShop) ∧
        statementPieces .mySql g (.select misreadNovels) = .ok ps ∧ c = .ofPieces {} ps ∧
        (.column (.abbreviation 0) "id", [[.abbreviation 1]]) ∈
          (Statement.select misreadNovels).surroundings .mySql g ps ∧
        .abbreviation 0 ∉ ([[.abbreviation 1]] : Surroundings).flatten := by
  refine ⟨openShop_built, ?_⟩
  have hbuild : (Registry.build bookshop (Statement.select misreadNovels).records).runIn openShop =
      (.ok (shopRegistry [novel, review]), openShop) :=
    build_register (by decide)
  rw [compile_runIn, hbuild]
  refine ⟨_, rfl, by decide +kernel, _, _, rfl, rfl, rfl, ?_, by decide⟩
  exact List.mem_cons_of_mem _ List.mem_cons_self

end RecordSql
