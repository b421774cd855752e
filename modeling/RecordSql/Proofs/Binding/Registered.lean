import RecordSql.Proofs.Binding.Acceptance
import RecordSql.Proofs.Binding.Columns
import RecordSql.Proofs.Rendering.Dialects

/-!
# No record is missed

The records of a statement are collected before it is checked and written. Both ask for more than these
records: the checks for the tables behind them, the writing for the columns that fields shadow. All of it
is registered, since a registration follows the shadows of what it registers.

- `verify_informed`: the checks of a statement miss no record.
- `Registry.Serves`: all that can be asked for of a record is registered.
- `records_complete`: compiling misses no record.
-/

namespace RecordSql

section Checks

variable {catalog : Catalog} {g : Registry}

/-! ### Checks -/

/-- The checks of a statement whose records are registered miss no record. -/
theorem verify_informed (hg : g.Closed catalog) {s : Statement} (hs : s.records ⊆ g.records) :
    Informed (verify g s) :=
  (verify_judges hg hs).informed

/-- A statement whose records are registered is checked and written, or fails for another reason than a
missing record. -/
theorem checkedPieces_informed (hg : g.Closed catalog) (d : Dialect) {s : Statement}
    (hs : s.records ⊆ g.records) : Informed (checkedPieces d g s) :=
  (verify_informed hg hs).bind fun _ _ => (statement_agrees hg d d hs).informed

end Checks

/-! ### What can be asked for -/

/-- All that can be asked for of a record is registered: its schema, and a name and an abbreviation of the
table behind it and of the tables that its fields are read from. -/
structure Registry.Serves (g : Registry) (r : RecordType) : Prop where
  owner : ∀ schema t, g.schema r = .ok schema → schema.tableOwner = some t → g.Names t
  source : ∀ schema name field t, g.schema r = .ok schema → schema.getField name = .ok field →
    (field.shadowOf <|> schema.tableOwner) = some t → g.Names t
  schema : ∃ schema, g.schema r = .ok schema

theorem Registry.Closed.serves {catalog : Catalog} {g : Registry} (hg : g.Closed catalog)
    {r : RecordType} (hr : r ∈ g.records) : g.Serves r where
  owner _ _ := hg.names_owner
  source _ _ _ _ := hg.names_source
  schema := schema_of_registered hr

/-! ### Compiled statements -/

/-- After any operations on one catalog, compiling never fails for a record that is not registered. Once
the records of a statement are registered, all that can be asked for is there of every record that its
writing comes by, be it selected, joined or read instead, named by a column, a key or a full-text match,
or only in a definition or a sub-select. -/
theorem records_complete (catalog : Catalog) (operations : List Operation) (options : Options) :
    (∀ s r, ((compile catalog options s).runIn
        (Session.ofHistory (operations.map (catalog, ·)))).1 ≠ .error (.unknownRecord r)) ∧
    (∀ e r, ((compileExpression catalog options e).runIn
        (Session.ofHistory (operations.map (catalog, ·)))).1 ≠ .error (.unknownRecord r)) ∧
    (∀ (s : Statement) g σ', (Registry.build catalog s.records).runIn
        (Session.ofHistory (operations.map (catalog, ·))) = (.ok g, σ') →
      ∀ p, s.Reaches (s.frame options.dialect g) p → ∀ r ∈ p.item.records, g.Serves r) ∧
    ∀ (e : Expr) g σ', (Registry.build catalog e.records).runIn
        (Session.ofHistory (operations.map (catalog, ·))) = (.ok g, σ') →
      ∀ r ∈ e.records, g.Serves r := by
  have built := ofHistory_map_built catalog operations
  refine ⟨fun s => ?statement, fun e => ?expression, ?reached, ?mentioned⟩
  case statement =>
    rw [compile_result]
    refine (registry_informed built s.records).bind fun g hg => ?_
    obtain ⟨closed, hrecords⟩ := build_closed built (Prod.ext hg rfl)
    exact (checkedPieces_informed closed options.dialect hrecords).map
  case expression =>
    rw [compileExpression_result]
    refine (registry_informed built e.records).bind fun g hg => ?_
    obtain ⟨closed, hrecords⟩ := build_closed built (Prod.ext hg rfl)
    exact (freeExpr_agrees closed options.dialect options.dialect hrecords).informed.map
  case reached =>
    intro s g σ' hg p hp r hr
    obtain ⟨closed, hrecords⟩ := build_closed built hg
    exact closed.serves (hrecords ((hp.records (s.frame_selects _ _)).2 hr))
  case mentioned =>
    intro e g σ' hg r hr
    obtain ⟨closed, hrecords⟩ := build_closed built hg
    exact closed.serves (hrecords hr)

/-- A select on bestsellers reads from the novels, and both can be asked for, although the statement names
the bestsellers alone. -/
theorem soldCopies_complete :
    ∃ g σ', (Registry.build bookshop (Statement.select soldCopies).records).runIn
        (Session.ofHistory ([.get bestseller, .get novel].map (bookshop, ·))) = (.ok g, σ') ∧
      (Statement.select soldCopies).Reaches ((Statement.select soldCopies).frame .mySql g)
        ⟨[soldCopies], .reference .projection (.of bestseller "copies")⟩ ∧
      g.Serves bestseller ∧ g.Names novel := by
  obtain ⟨-, -, hreached, -⟩ := records_complete bookshop [.get bestseller, .get novel] {}
  have hhistory : Session.ofHistory ([.get bestseller, .get novel].map (bookshop, ·)) =
      ({} : Session).publishing
        [(bestseller, (bookshop.descriptor bestseller).numbersSchema bestseller),
          (novel, (bookshop.descriptor novel).numbersSchema novel)] := by
    rfl
  have hbuild : (Registry.build bookshop (Statement.select soldCopies).records).runIn
      (Session.ofHistory ([.get bestseller, .get novel].map (bookshop, ·))) =
      (.ok (shopRegistry [bestseller, novel]),
        Session.ofHistory ([.get bestseller, .get novel].map (bookshop, ·))) := by
    rw [hhistory]
    show SessionM.runIn (Registry.extend bookshop _ {} [bestseller]) _ = _
    rw [extend_published rfl rfl (by decide), extend_register (by decide) (by decide)]
    rfl
  have hsite : (Statement.select soldCopies).Reaches
      ((Statement.select soldCopies).frame .mySql (shopRegistry [bestseller, novel]))
      ⟨[soldCopies], .reference .projection (.of bestseller "copies")⟩ :=
    .step (.step .start .select) (.projection (by decide))
  have hserves : (shopRegistry [bestseller, novel]).Serves bestseller :=
    hreached (.select soldCopies) _ _ hbuild _ hsite bestseller (List.mem_singleton_self _)
  exact ⟨_, _, hbuild, hsite, hserves, hserves.owner _ novel rfl rfl⟩

end RecordSql
