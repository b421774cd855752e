import RecordSql.Proofs.Definition.Overrides
import RecordSql.Proofs.Registration
import RecordSql.Proofs.Rendering.Aliases
import RecordSql.Proofs.Writing.Statements

/-!
# Overrides and names of fields stay in their place

A field gets a name at the end of its item in a projection and nowhere else, and an override makes no
difference to expressions without sub-selects. Step by step, with switches that are set and put back, the
same is written.

- `Faithful`: a writer that gives what a rendering gives, and leaves nothing behind.
- `substitutions_confined`: the main result.
- `ghostwrittenNovels_confined`: novels with an override, by it.
-/

namespace RecordSql

/-- Steps that, taken by a new writer, give the text and the parameters of a rendering, or fail like it. In
either run, expressions are begun with both switches off, and parts that do not fail end in the stance that
they are begun in. -/
inductive Faithful (options : Options) (g : Registry) (m : Writing Unit) (x : Rendered) : Prop
  | written {w ps} : m (.start options g) = .ok () w → x = .ok ps → w.compiled = .ofPieces options ps →
      (∀ p ∈ w.passages, p.Orderly) → Faithful options g m x
  | failed {w e} : m (.start options g) = .error e w → x = .error e → (∀ p ∈ w.passages, p.Orderly) →
      Faithful options g m x

/-- All parts that a new writer has come by are orderly. -/
theorem Writer.Keeps.orderly {options : Options} {g : Registry} {w : Writer} (h : (start options g).Keeps w) :
    ∀ p ∈ w.passages, p.Orderly := by
  obtain ⟨parts, horderly, hw⟩ := h
  rw [hw]
  exact horderly

theorem Ends.faithful {options : Options} {g : Registry} {m : Writing Unit} {x : Rendered}
    (h : Ends (.start options g) (m (.start options g)) x) : Faithful options g m x := by
  cases hrun : m (.start options g) with
  | ok _ w =>
    rw [hrun] at h
    cases x with
    | error e => exact h.elim
    | ok ps =>
      refine .written hrun rfl ?_ h.keeps.orderly
      obtain ⟨parts, -, rfl⟩ := h
      simp [Writer.compiled, Writer.put, Writer.start, Compiled.ofPieces, layout]
  | error e w =>
    rw [hrun] at h
    cases x with
    | ok ps => exact h.elim
    | error e' => exact .failed hrun (congrArg _ h.1.symm) h.2.orderly

/-- Where a statement compiles, a field gets a name at the end of its item in the projection of a select that
the writing of the statement comes by, and only if the field is replaced by its definition, an override or
literal SQL; no other text names a field. An expression that leads to no sub-select comes to the same with an
override in force and without it, if the selects around it are on different records and define no field
twice. Statements and free-standing expressions that are written step by step, with switches, come to the
same text and parameters; each expression is begun with both switches off, and each part that does not fail
puts back the switches, the selects around and the depth. -/
theorem substitutions_confined (options : Options) :
    (∀ catalog s σ c, ((compile catalog options s).runIn σ).1 = .ok c →
      ∃ g ps, ((Registry.build catalog s.records).runIn σ).1 = .ok g ∧
        statementPieces options.dialect g s = .ok ps ∧ c = .ofPieces options ps ∧
        ∀ front back, ps = front ++ .word " as " :: back →
          s.NamesField (s.frame options.dialect g) front back) ∧
    (∀ f f' e, f.DropsOverride f' → (∀ t ∈ f.selects, (t.2.map (·.field)).Nodup) →
      (f.selects.map (·.1)).Nodup → f.Direct e → ∀ depth, expandWith depth f' e = expandWith depth f e) ∧
    (∀ g s, Faithful options g (writeStatement s) (statementPieces options.dialect g s)) ∧
    ∀ g e, Faithful options g (writeFreeExpr e) (freeExprPieces options.dialect g e) := by
  refine ⟨fun catalog s σ c hc => ?_, fun f f' e hdrop hone hrecords he depth => ?_, fun g s => ?_,
    fun g e => ?_⟩
  · obtain ⟨g, σ', ps, hg, -, hps, rfl⟩ := compile_ok hc
    refine ⟨g, ps, by rw [hg], hps, rfl, fun front back h => ?_⟩
    have named := Statement.statementPieces_named hps [] [] front back h
    rwa [List.nil_append, List.append_nil] at named
  · exact expandWith_overridden hdrop hone hrecords he depth
  · exact (writeStatement_writes options g s).faithful
  · exact (writeFreeExpr_writes options g e).faithful

/-! ### Novels of the third author -/

/-- The override of an author. -/
def ghostAuthor : Definition where
  field := "author"
  expr := .value (.integer 7)
  kind := .override

/-- Whether a novel is by the third author. -/
def byThird : Expr :=
  .binary .eq (.column (.of novel "author")) (.value (.integer 3))

/-- Novels of the third author, all of them credited to the seventh one. -/
def ghostwrittenNovels : Select where
  record := novel
  fields := ["id", "author"]
  condition := some (.expr byThird)
  definitions := [ghostAuthor]

/-- The number of expressions that a run has come by. -/
def expressionsOf : EStateM.Result Error Writer Unit → Nat
  | .ok _ w | .error _ w => w.passages.countP (·.ofExpr)

/-- The frame of the novels, the override in force or not. -/
def ghostFrame (definitions : List Definition) : Frame where
  dialect := .mySql
  registry := shopRegistry [novel]
  selects := [(novel, definitions)]

theorem ghostwrittenNovels_confined :
    ∃ c, ((compile bookshop {} (.select ghostwrittenNovels)).runIn openShop).1 = .ok c ∧
      c.sql = "select t0.id, ? as author from novels as t0 where t0.author = ?" ∧
      (Statement.select ghostwrittenNovels).NamesField
        ((Statement.select ghostwrittenNovels).frame .mySql (shopRegistry [novel]))
        [.word "select ", .column (.abbreviation 0) "id", .word ", ", .value (.integer 7)]
        [.ident "author", .clauseBreak, .word "from ", .table "novels" (.abbreviation 0), .clauseBreak,
          .word "where ", .column (.abbreviation 0) "author", .word " = ", .value (.integer 3)] ∧
      expandWith 1 (ghostFrame []) byThird = expandWith 1 (ghostFrame [ghostAuthor]) byThird ∧
      ∃ w, writeStatement (.select ghostwrittenNovels) (.start {} (shopRegistry [novel])) = .ok () w ∧
        w.compiled = c ∧ expressionsOf (.ok () w) = 4 ∧ ∀ p ∈ w.passages, p.Orderly := by
  obtain ⟨named, overridden, written, -⟩ := substitutions_confined {}
  have hbuild : (Registry.build bookshop (Statement.select ghostwrittenNovels).records).runIn openShop =
      (.ok (shopRegistry [novel]), openShop) :=
    build_register (by decide)
  obtain ⟨c, hc, hsql⟩ : ∃ c, ((compile bookshop {} (.select ghostwrittenNovels)).runIn openShop).1 = .ok c ∧
      c.sql = "select t0.id, ? as author from novels as t0 where t0.author = ?" := by
    rw [compile_runIn, hbuild]
    exact ⟨_, rfl, by decide +kernel⟩
  obtain ⟨g, ps, hg, hps, rfl, hnamed⟩ := named _ _ _ _ hc
  rw [hbuild] at hg
  cases hg
  refine ⟨_, hc, hsql, hnamed _ _ ?_, ?_, ?_⟩
  · cases hps
    rfl
  · have dropped : (ghostFrame [ghostAuthor]).DropsOverride (ghostFrame []) :=
      .of (show _ = [] ++ (novel, [] ++ ghostAuthor :: []) :: [] from rfl) rfl
    refine overridden _ _ byThird dropped (by decide) (by decide) ⟨rfl, fun use c d _ hd => ?_⟩ 1
    obtain ⟨t, ht, -, hmem, -⟩ := Frame.mem_of_applied? hd
    obtain rfl := List.mem_singleton.1 ht
    obtain rfl := List.mem_singleton.1 hmem
    rfl
  · cases written (shopRegistry [novel]) (.select ghostwrittenNovels) with
    | @written w ps' hrun hps' hcompiled hpassages =>
      cases hps.symm.trans hps'
      have hcount : expressionsOf (writeStatement (.select ghostwrittenNovels)
          (.start {} (shopRegistry [novel]))) = 4 := by decide +kernel
      rw [hrun] at hcount
      exact ⟨w, hrun, hcompiled, hcount, hpassages⟩
    | failed _ hfailed =>
      cases hps.symm.trans hfailed

end RecordSql
