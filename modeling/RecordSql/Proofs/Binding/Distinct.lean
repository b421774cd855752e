import Mathlib.Data.List.Nodup
import RecordSql.Proofs.Binding.Qualifiers
import RecordSql.Proofs.Expression.Selects

/-!
# Distinct tables

A select claims the names of its tables: no select inside of it may declare a table by one of them again.
So the tables around a place have different names, as long as every select stands where it has been
checked.

- `Scopes.Taken`: the names that scopes have claimed.
- `Scope.Opens.labels_fresh`: the tables of a select have names that differ and are not taken.
- `Statement.Distinct`: all selects stand where they have been checked, and none of them reuses the name
  of the table that the statement writes to.
- `tables_distinct`: the tables around the pieces of compiled statements.
-/

namespace RecordSql

/-! ### Names -/

theorem abbreviationText_inj {n m : Nat} (h : abbreviationText n = abbreviationText m) : n = m := by
  have hlist : 't' :: Nat.toDigits 10 n = 't' :: Nat.toDigits 10 m := by
    rw [← abbreviationText_toList, h, abbreviationText_toList]
  have hvalue : ∀ k, Nat.ofDigitChars 10 (Nat.toDigits 10 k) 0 = k :=
    fun k => Nat.ofDigitChars_toDigits (by decide) (by decide)
  rw [← hvalue n, (List.cons.inj hlist).2, hvalue]

/-- Abbreviations are reserved. -/
theorem abbreviationText_reserved (n : Nat) : isReservedAlias (abbreviationText n) = true := by
  unfold isReservedAlias
  rw [abbreviationText_toList]
  refine Bool.and_eq_true_iff.2 ⟨?_, List.all_eq_true.2 fun c hc => ?_⟩
  · have hne : Nat.toDigits 10 n ≠ [] := Nat.toDigits_ne_nil
    cases hd : Nat.toDigits 10 n with
    | nil => exact absurd hd hne
    | cons => rfl
  · exact Nat.isDigit_of_mem_toDigits (by decide) (by decide) hc

/-- The names that tables are declared by. -/
def labelNames (labels : List TableLabel) : List String :=
  labels.map TableLabel.name

/-- A name that a scope has claimed: the abbreviation of one of its tables, or one of its aliases. -/
def Scopes.Taken (g : Registry) (scopes : Scopes) (name : String) : Prop :=
  ∃ scope ∈ scopes, (∃ t ∈ scope.tables, ∃ n, g.tables.idxOf? t = some n ∧ name = abbreviationText n) ∨
    ∃ r, (name, r) ∈ scope.aliases

/-- No alias looks like an abbreviation. -/
def Scopes.Unreserved (scopes : Scopes) : Prop :=
  ∀ scope ∈ scopes, ∀ p ∈ scope.aliases, isReservedAlias p.1 = false

section Scopes

variable {catalog : Catalog} {g : Registry} {outer : Scopes} {scope scope' : Scope} {r : RecordType}
  {tableAlias : Option String} {label : TableLabel} {name : String}

theorem Scopes.Taken.mono {scopes scopes' : Scopes} (h : Scopes.Taken g scopes name)
    (hsub : ∀ scope ∈ scopes, ∃ scope' ∈ scopes', scope.tables ⊆ scope'.tables ∧
      scope.aliases ⊆ scope'.aliases) : Scopes.Taken g scopes' name := by
  obtain ⟨scope, hscope, htaken⟩ := h
  obtain ⟨scope', hscope', htables, haliases⟩ := hsub scope hscope
  refine ⟨scope', hscope', ?_⟩
  obtain ⟨t, ht, hname⟩ | ⟨r, hr⟩ := htaken
  · exact .inl ⟨t, htables ht, hname⟩
  · exact .inr ⟨r, haliases hr⟩

/-- What outer scopes have claimed stays claimed. -/
theorem Scopes.Taken.cons (h : Scopes.Taken g outer name) (scope : Scope) :
    Scopes.Taken g (scope :: outer) name :=
  h.mono fun scope' hscope =>
    ⟨scope', List.mem_cons_of_mem scope hscope, List.Subset.refl _, List.Subset.refl _⟩

/-- Binding another table keeps what has been claimed. -/
theorem Scope.Binds.keeps {table : RecordType × Option String}
    (h : Scope.Binds g outer scope table scope') (ht : Scopes.Taken g (scope :: outer) name) :
    Scopes.Taken g (scope' :: outer) name := by
  refine ht.mono (List.forall_mem_cons.2 ⟨⟨scope', List.mem_cons_self, ?_⟩, fun s hs =>
    ⟨s, List.mem_cons_of_mem _ hs, List.Subset.refl _, List.Subset.refl _⟩⟩)
  cases h with
  | source => exact ⟨List.subset_append_left _ _, List.Subset.refl _⟩
  | join => exact ⟨List.Subset.refl _, List.subset_append_left _ _⟩

/-- A table without alias is declared by the abbreviation of the record that owns it. -/
theorem declaredAs?_owner (hg : g.BuiltFrom catalog) (h : g.declaredAs? r none = some label) :
    ∃ schema t n, g.schema r = .ok schema ∧ schema.tableOwner = some t ∧
      g.tables.idxOf? t = some n ∧ label = .abbreviation n := by
  rw [Registry.declaredAs?] at h
  cases hn : g.tableOf r >>= g.abbreviation with
  | error e => rw [hn] at h; cases h
  | ok n =>
    rw [hn] at h
    cases h
    obtain ⟨t, ht, hn⟩ := bind_eq_ok hn
    obtain ⟨schema, hschema, ht⟩ := bind_eq_ok ht
    obtain ⟨t', ht', hn⟩ := bind_eq_ok hn
    obtain ⟨schema', hschema', ht'⟩ := bind_eq_ok ht'
    split at ht
    · rename_i howner
      cases ht
      -- the owner owns its own table
      rw [tableOwner_self (hg.schema hschema) (hg.schema hschema') howner] at ht'
      cases ht'
      refine ⟨schema, t, n, hschema, howner, ?_, rfl⟩
      split at hn
      · rename_i hidx
        cases hn
        exact hidx
      · cases hn
    · cases ht

theorem alias?_none {scopes : Scopes} {a : String} (h : scopes.alias? a = none) :
    ∀ scope ∈ scopes, ∀ r, (a, r) ∉ scope.aliases := by
  intro scope hscope r hr
  have hnone := List.findSome?_eq_none_iff.1 h scope hscope
  rw [List.lookup_eq_none_iff] at hnone
  simpa using hnone _ hr

/-- The name of a table is not taken before the table is bound, and it is afterwards. -/
theorem Scope.Binds.fresh (hg : g.BuiltFrom catalog) (hu : Scopes.Unreserved (scope :: outer))
    (h : Scope.Binds g outer scope (r, tableAlias) scope')
    (hl : g.declaredAs? r tableAlias = some label) :
    ¬Scopes.Taken g (scope :: outer) label.name ∧ Scopes.Taken g (scope' :: outer) label.name := by
  cases h with
  | @source _ schema rs hschema _ hfree =>
    obtain ⟨schema', t, n, hschema', howner, hidx, rfl⟩ := declaredAs?_owner hg hl
    cases hschema.symm.trans hschema'
    refine ⟨?_, _, List.mem_cons_self, .inl ⟨t, ?_, n, hidx, rfl⟩⟩
    · rintro ⟨s, hs, ⟨t', ht', n', hidx', hname⟩ | ⟨q, hq⟩⟩
      · cases abbreviationText_inj hname
        obtain ⟨_, ht, -⟩ := List.idxOf?_eq_some_iff.1 hidx
        obtain ⟨_, htt, -⟩ := List.idxOf?_eq_some_iff.1 hidx'
        obtain rfl : t = t' := ht.symm.trans htt
        have hclaimed : Scopes.claims (scope :: outer) t = true :=
          List.any_eq_true.2 ⟨s, hs, List.contains_iff_mem.2 ht'⟩
        rw [hfree t howner] at hclaimed
        cases hclaimed
      · have hreserved := hu s hs _ hq
        rw [show (TableLabel.abbreviation n).name = abbreviationText n from rfl,
          abbreviationText_reserved] at hreserved
        cases hreserved
    · rw [howner]
      exact List.mem_append_right _ (List.mem_singleton_self t)
  | @join _ a hfree hnone =>
    cases hl
    refine ⟨?_, _, List.mem_cons_self, .inr ⟨r, ?_⟩⟩
    · rintro ⟨s, hs, ⟨t, -, n, -, hname⟩ | ⟨q, hq⟩⟩
      · rw [show a = abbreviationText n from hname, abbreviationText_reserved] at hfree
        cases hfree
      · exact alias?_none hnone s hs q hq
    · exact List.mem_append_right _ (List.mem_singleton_self _)

/-- The labels of some tables. -/
def Registry.tableLabels (g : Registry) (tables : List (RecordType × Option String)) :
    List TableLabel :=
  tables.filterMap fun t => g.declaredAs? t.1 t.2

theorem Scope.Opens.unreserved {record : RecordType} {tables : List (RecordType × Option String)}
    (h : Scope.Opens g outer record tables scope) :
    ∀ p ∈ scope.aliases, isReservedAlias p.1 = false := by
  induction h with
  | own h =>
    rw [(ownScope_eq_ok h).2]
    exact List.forall_mem_nil _
  | bind _ hb ih =>
    cases hb with
    | source => exact ih
    | join hfree => exact List.forall_mem_append.2 ⟨ih, List.forall_mem_singleton.2 hfree⟩

/-- The tables of a select have different names, and none that is taken around it. -/
theorem Scope.Opens.labels_fresh (hg : g.BuiltFrom catalog) (hu : Scopes.Unreserved outer)
    {record : RecordType} {tables : List (RecordType × Option String)}
    (h : Scope.Opens g outer record tables scope) :
    (labelNames (g.tableLabels tables)).Nodup ∧
      ∀ name ∈ labelNames (g.tableLabels tables),
        ¬Scopes.Taken g outer name ∧ Scopes.Taken g (scope :: outer) name := by
  induction h with
  | own => exact ⟨List.nodup_nil, List.forall_mem_nil _⟩
  | @bind tables table scope scope' hopens hb ih =>
    obtain ⟨hnodup, htaken⟩ := ih
    obtain ⟨r, tableAlias⟩ := table
    have hkept : ∀ name ∈ labelNames (g.tableLabels tables),
        ¬Scopes.Taken g outer name ∧ Scopes.Taken g (scope' :: outer) name :=
      fun name hname => ⟨(htaken name hname).1, hb.keeps (htaken name hname).2⟩
    unfold labelNames Registry.tableLabels at *
    rw [List.filterMap_append, List.map_append]
    cases hl : g.declaredAs? r tableAlias with
    | none =>
      rw [List.filterMap_cons, hl]
      simp only [List.filterMap_nil, List.map_nil, List.append_nil]
      exact ⟨hnodup, hkept⟩
    | some label =>
      have hall : Scopes.Unreserved (scope :: outer) :=
        List.forall_mem_cons.2 ⟨hopens.unreserved, hu⟩
      obtain ⟨hfresh, hbound⟩ := hb.fresh hg hall hl
      rw [List.filterMap_cons, hl]
      simp only [List.filterMap_nil, List.map_cons, List.map_nil]
      refine ⟨List.nodup_append.2 ⟨hnodup, List.nodup_singleton _, ?_⟩, ?_⟩
      · rintro name hname _ hmem rfl
        cases List.mem_singleton.1 hmem
        exact hfresh (htaken _ hname).2
      · refine List.forall_mem_append.2 ⟨hkept, List.forall_mem_singleton.2 ⟨?_, hbound⟩⟩
        exact fun h => hfresh (h.cons scope)

end Scopes

/-! ### Statements -/

/-- All selects of a statement stand where they have been checked: none is part of a definition, which may
be written in other places than its own. -/
def Statement.InPlace (s : Statement) : Prop :=
  ∀ t ∈ s.selects, ∀ d ∈ t.definitions, d.expr.selects = []

/-- No select of a statement reuses the name of the table that the statement writes to. -/
def Statement.TargetFree (s : Statement) (dialect : Dialect) (g : Registry) : Prop :=
  ∀ label ∈ (s.target dialect g).flatten, ∀ t ∈ s.selects, label.name ∉ labelNames (g.labels t)

section Sites

variable {catalog : Catalog} {g : Registry} {s : Statement} {dialect : Dialect} {f : Frame} {p q : Site}

/-- The names declared by the selects around a site. -/
def Site.names (g : Registry) (p : Site) : List String :=
  labelNames (p.around.flatMap g.labels)

/-- The selects around a site have different names, and something that holds further selects is bound in
scopes that have claimed all of these names. -/
def Site.Distinct (g : Registry) (p : Site) : Prop :=
  (p.names g).Nodup ∧
    (p.item.selects = [] ∨
      ∃ scopes, Scopes.Unreserved scopes ∧ p.item.BoundIn g scopes ∧
        ∀ name ∈ p.names g, Scopes.Taken g scopes name)

/-- Entering a select adds names that are not taken. -/
theorem Site.Distinct.enter (hg : g.BuiltFrom catalog) {scopes : Scopes} {scope : Scope} {t : Select}
    (hnodup : (p.names g).Nodup) (hu : Scopes.Unreserved scopes)
    (htaken : ∀ name ∈ p.names g, Scopes.Taken g scopes name) (ht : t.Accepted g scopes scope) :
    Site.Distinct g ⟨t :: p.around, .select t⟩ := by
  obtain ⟨hlabels, hfresh⟩ := ht.opened.labels_fresh hg hu
  have hnames : Site.names g ⟨t :: p.around, .select t⟩ =
      labelNames (g.tableLabels t.tables) ++ p.names g := by
    unfold Site.names labelNames
    rw [List.flatMap_cons, List.map_append]
    rfl
  refine ⟨?_, .inr ⟨scope :: scopes, ?_, ⟨scope, scopes, rfl, ht⟩, ?_⟩⟩
  · rw [hnames]
    refine List.nodup_append.2 ⟨hlabels, hnodup, ?_⟩
    rintro name hname _ hmem rfl
    exact (hfresh name hname).1 (htaken name hmem)
  · exact List.forall_mem_cons.2 ⟨ht.opened.unreserved, hu⟩
  · rw [hnames]
    refine List.forall_mem_append.2 ⟨fun name hname => (hfresh name hname).2, ?_⟩
    exact fun name hname => (htaken name hname).cons scope

/-- A step keeps the names around a site distinct. -/
theorem Frame.Leads.distinct (hg : f.registry.BuiltFrom catalog) (hf : f.selects = [])
    (hplace : s.InPlace) (hp : s.Reaches f p) (hpq : f.Leads p q) (hd : p.Distinct f.registry) :
    q.Distinct f.registry := by
  obtain ⟨hnodup, hitem⟩ := hd
  have definition : ∀ {use c d}, (f.within p.around).applied? use c = some d →
      Site.Distinct f.registry ⟨p.around, .expr d.expr⟩ := by
    intro use c d happlied
    obtain ⟨t, ht, -, hd, -⟩ := Frame.applied?_within hf happlied
    have hselect := (hp.selects hf).1 t ht List.mem_cons_self
    exact ⟨hnodup, .inl (hplace t hselect d hd)⟩
  obtain hflat | ⟨scopes, hu, hb, htaken⟩ := hitem
  · -- without selects inside, no select is entered
    obtain ⟨hsame, hsub⟩ | ⟨t, -, hsub⟩ | ⟨use, c, d, happlied, rfl⟩ := hpq.selects
    · rw [hflat] at hsub
      refine ⟨?_, .inl (List.subset_nil.1 hsub)⟩
      rw [Site.names, hsame]
      exact hnodup
    · rw [hflat] at hsub
      cases List.subset_nil.1 hsub
    · exact definition happlied
  · obtain ⟨hsame, hq⟩ | ⟨t, scope, rfl, ht⟩ | ⟨use, c, d, -, happlied, rfl⟩ := hpq.bound hb
    · unfold Site.Distinct Site.names
      rw [hsame]
      exact ⟨hnodup, .inr ⟨scopes, hu, hq, htaken⟩⟩
    · exact .enter hg hnodup hu htaken ht
    · exact definition happlied

/-- The names around all sites of a checked statement are distinct. -/
theorem Statement.Reaches.distinct (hg : f.registry.BuiltFrom catalog) (hf : f.selects = [])
    (hv : verify f.registry s = .ok ()) (hplace : s.InPlace) (h : s.Reaches f p) :
    p.Distinct f.registry := by
  induction h with
  | start =>
    obtain ⟨scopes, hscopes⟩ := verify_opens hv
    refine ⟨List.nodup_nil, .inr ⟨scopes, fun scope hscope => ?_, ⟨hv, hscopes⟩, ?_⟩⟩
    · rw [(target_names hscopes hscope).2]
      exact List.forall_mem_nil _
    · exact List.forall_mem_nil _
  | step hp hpq ih => exact hpq.distinct hg hf hplace hp ih

/-- A statement declares one table around its selects at most. -/
theorem target_nodup (s : Statement) (dialect : Dialect) (g : Registry) :
    (labelNames (s.target dialect g).flatten).Nodup := by
  have single : ∀ o : Option TableLabel, (labelNames [o.toList].flatten).Nodup := by
    intro o
    cases o with
    | none => exact List.nodup_nil
    | some label => exact List.nodup_singleton _
  cases s with
  | select | insert => exact List.nodup_nil
  | update | delete => exact single _

/-- The tables around a site have different names. -/
theorem Site.Distinct.surroundings (hd : p.Distinct g) (hfree : s.TargetFree dialect g)
    (hsub : ∀ t ∈ p.around, t ∈ s.selects) :
    (labelNames (p.surroundings g (s.target dialect g)).flatten).Nodup := by
  have hnames : labelNames (p.surroundings g (s.target dialect g)).flatten =
      p.names g ++ labelNames (s.target dialect g).flatten := by
    unfold Site.surroundings Site.names labelNames
    rw [List.flatten_append, List.map_append, List.flatMap_def]
  rw [hnames]
  refine List.nodup_append.2 ⟨hd.1, target_nodup s dialect g, ?_⟩
  rintro name hname _ hmem rfl
  obtain ⟨label, hlabel, rfl⟩ := List.mem_map.1 hmem
  obtain ⟨label', hlabel', heq⟩ := List.mem_map.1 hname
  obtain ⟨t, ht, hlabel'⟩ := List.mem_flatMap.1 hlabel'
  exact hfree label hlabel t (hsub t ht) (heq ▸ List.mem_map_of_mem hlabel')

end Sites

/-! ### Compiled statements -/

/-- The tables around each piece of a compiled statement have different names, if its selects stand where
they have been checked and none of them reuses the name of the table that the statement writes to. -/
theorem tables_distinct {catalog : Catalog} {options : Options} {s : Statement} {σ : Session}
    {c : Compiled} (hσ : σ.cache.BuiltFrom catalog)
    (h : ((compile catalog options s).runIn σ).1 = .ok c) (hplace : s.InPlace) :
    ∃ g σ' ps, (Registry.build catalog s.records).runIn σ = (.ok g, σ') ∧
      statementPieces options.dialect g s = .ok ps ∧ c = .ofPieces options ps ∧
      (s.TargetFree options.dialect g →
        ∀ q ∈ s.surroundings options.dialect g ps, (labelNames q.2.flatten).Nodup) := by
  obtain ⟨g, σ', ps, hg, built, hv, hps, hc⟩ := compile_built hσ h
  refine ⟨g, σ', ps, hg, hps, hc, fun hfree q hq => ?_⟩
  obtain ⟨p, hp, haround, -⟩ := Statement.statementPieces_written hps q hq
  rw [s.frame_registry] at haround
  have hdistinct := hp.distinct (by rw [s.frame_registry]; exact built) (s.frame_selects _ _)
    (by rw [s.frame_registry]; exact hv) hplace
  rw [s.frame_registry] at hdistinct
  rw [haround]
  exact hdistinct.surroundings hfree fun t ht => (hp.selects (s.frame_selects _ _)).1 t ht List.mem_cons_self

/-- Authors of novels that are reviewed, the novels joined once and looked up again by an alias. -/
def reviewedAuthors : Select where
  record := author
  fields := ["id"]
  joins :=
    [{ record := novel
       condition := .binary .eq (.column (.of novel "author")) (.column (.of author "id")) }]
  condition := some (.expr (.exists
    { record := review
      fields := ["id"]
      joins :=
        [{ record := novel
           condition := .binary .eq (.column { record := novel, field := "id", qualifier := some "n" })
             (.column (.of review "novel"))
           tableAlias := some "n" }] }))

/-- An alias keeps the second use of a table apart from the first one. -/
theorem reviewedAuthors_distinct :
    openShop.cache.BuiltFrom bookshop ∧ (Statement.select reviewedAuthors).InPlace ∧
    ∃ c, ((compile bookshop {} (.select reviewedAuthors)).runIn openShop).1 = .ok c ∧
      c.sql = "select t0.id from authors as t0 inner join novels as t1 on t1.author = t0.id " ++
        "where exists (select t2.id from reviews as t2 inner join novels as n on n.id = t2.novel)" ∧
      ∃ g σ' ps, (Registry.build bookshop (Statement.select reviewedAuthors).records).runIn openShop =
          (.ok g, σ') ∧
        statementPieces .mySql g (.select reviewedAuthors) = .ok ps ∧ c = .ofPieces {} ps ∧
        (Statement.select reviewedAuthors).TargetFree .mySql g ∧
        ∀ q ∈ (Statement.select reviewedAuthors).surroundings .mySql g ps,
          (labelNames q.2.flatten).Nodup := by
  have hplace : (Statement.select reviewedAuthors).InPlace := by
    refine List.forall_mem_cons.2 ⟨nofun, List.forall_mem_cons.2 ⟨nofun, List.forall_mem_nil _⟩⟩
  obtain ⟨c, hc, hsql⟩ : ∃ c,
      ((compile bookshop {} (.select reviewedAuthors)).runIn openShop).1 = .ok c ∧
      c.sql = "select t0.id from authors as t0 inner join novels as t1 on t1.author = t0.id " ++
        "where exists (select t2.id from reviews as t2 inner join novels as n on n.id = t2.novel)" := by
    rw [compile_runIn, build_register (by decide)]
    exact ⟨_, rfl, by decide +kernel⟩
  obtain ⟨g, σ', ps, hg, hps, hcs, hdistinct⟩ := tables_distinct openShop_built hc hplace
  -- a select writes to no table
  have hfree : (Statement.select reviewedAuthors).TargetFree .mySql g := List.forall_mem_nil _
  exact ⟨openShop_built, hplace, c, hc, hsql, g, σ', ps, hg, hps, hcs, hfree, hdistinct hfree⟩

/-- Novels with a review are credited to another author, the novels joined once more without an alias. -/
def reviewedCredit : Update where
  record := novel
  assignments := [("author", .value (.integer 7))]
  condition := some (.expr (.exists
    { record := review
      fields := ["id"]
      joins :=
        [{ record := novel
           condition := .binary .eq (.column (.of review "novel")) (.column (.of novel "id")) }] }))

/-- A select may declare the table that is updated around it once more, by the same name. -/
theorem reviewedCredit_captured :
    openShop.cache.BuiltFrom bookshop ∧ (Statement.update reviewedCredit).InPlace ∧
    ∃ c, ((compile bookshop {} (.update reviewedCredit)).runIn openShop).1 = .ok c ∧
      c.sql = "update novels as t0 set author = ? where exists " ++
        "(select t1.id from reviews as t1 inner join novels as t0 on t1.novel = t0.id)" ∧
      ∃ g ps, (Registry.build bookshop (Statement.update reviewedCredit).records).runIn openShop =
          (.ok g, openShop) ∧
        statementPieces .mySql g (.update reviewedCredit) = .ok ps ∧ c = .ofPieces {} ps ∧
        (.column (.abbreviation 0) "id", [[.abbreviation 1, .abbreviation 0], [.abbreviation 0]]) ∈
          (Statement.update reviewedCredit).surroundings .mySql g ps ∧
        ¬(labelNames
          ([[.abbreviation 1, .abbreviation 0], [.abbreviation 0]] : Surroundings).flatten).Nodup := by
  refine ⟨openShop_built, List.forall_mem_cons.2 ⟨nofun, List.forall_mem_nil _⟩, ?_⟩
  have hbuild : (Registry.build bookshop (Statement.update reviewedCredit).records).runIn openShop =
      (.ok (shopRegistry [novel, review]), openShop) :=
    build_register (by decide)
  rw [compile_runIn, hbuild]
  refine ⟨_, rfl, by decide +kernel, _, _, rfl, rfl, rfl, ?_, by decide⟩
  exact List.mem_of_getElem? (i := 20) rfl

end RecordSql
