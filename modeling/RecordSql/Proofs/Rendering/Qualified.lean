import RecordSql.Proofs.Compilation
import RecordSql.Proofs.Registration
import RecordSql.Proofs.Rendering.Extent
import RecordSql.Proofs.Rendering.Nesting

/-!
# Qualified columns

A reference with a qualifier names a field of the record that a join has given an alias to. It is written as
a column of that alias, wherever it stands, as long as no definition of the field is in force around it: a
definition stands for all references to its field, also for those that an alias tells apart.

- `Statement.Reaches.plain`: qualified references are those of expressions.
- `resolve_qualified`: what a qualified reference stands for.
- `layout_stretch`: pieces in a row have a stretch of the text.
- `qualifiers_read`: in a compiled statement, every qualified reference is read through its alias.
-/

namespace RecordSql

section Qualified

variable {f : Frame} {around : List Select} {use : ColumnUse} {c : FieldRef} {r : RecordType} {a : String}

/-- Only the references of expressions are qualified, and overrides do not apply to them. -/
theorem Statement.Reaches.plain {s : Statement} (h : s.Reaches f ⟨around, .reference use c⟩)
    (ha : c.qualifier = some a) : use = .plain := by
  cases h with
  | step _ hpq =>
    cases hpq with
    | projection _ | key _ | multiKey _ => cases ha
    | reference _ => rfl

/-- Overrides do not apply to the references of expressions. -/
theorem applied?_plain_of_overrides (hr : c.record = some r)
    (h : ∀ d, f.definition? r c.field = some d → d.kind = .override) : f.applied? .plain c = none := by
  rw [Frame.applied?, hr, Option.bind_some, Option.filter_eq_none_iff]
  intro d hd
  simp [Definition.applies, h d hd]

/-- A qualified reference to a field that is neither defined nor literal stands for a column of its
alias. -/
theorem resolve_qualified {resolved : Resolved} (hr : c.record = some r) (ha : c.qualifier = some a)
    (h : f.resolve use c = .ok resolved) :
    ∃ schema field, f.registry.schema r = .ok schema ∧ schema.getField c.field = .ok field ∧
      (field.literal = none → f.applied? use c = none → resolved = .column (.named a) field.columnName) := by
  unfold Frame.resolve at h
  rw [hr] at h
  obtain ⟨schema, hschema, h⟩ := bind_eq_ok h
  obtain ⟨field, hfield, h⟩ := bind_eq_ok h
  refine ⟨schema, field, hschema, hfield, fun hliteral hnone => ?_⟩
  unfold Frame.stored at h
  rw [hnone, hliteral, ha] at h
  dsimp only at h
  split at h
  · cases h
  · cases h
    rfl

end Qualified

/-- Pieces that stand in others have a stretch of their text. -/
theorem layout_stretch {dialect : Dialect} {l : Layout} {ps qs : List Piece} (h : qs <:+: ps) :
    ∃ depth, (layoutWith (fun _ => "?") dialect l depth qs).toList <:+: (layout dialect l ps).toList := by
  obtain ⟨front, back, rfl⟩ := h
  refine ⟨depthAfterAll 0 front, ?_⟩
  rw [layout, layoutWith_append, layoutWith_append, String.toList_append, String.toList_append]
  exact List.infix_append _ _ _

/-- In a statement that compiles, a reference with a qualifier is written as a column of its alias, in every
clause and inside of any selects, if its field is not literal and if the innermost definition of the field
around it, should there be one, is an override. The column stands in the text of the statement. -/
theorem qualifiers_read {catalog : Catalog} {options : Options} {s : Statement} {σ : Session}
    {compiled : Compiled} (h : ((compile catalog options s).runIn σ).1 = .ok compiled) :
    ∃ g σ', (Registry.build catalog s.records).runIn σ = (.ok g, σ') ∧
      ∀ around use c r a, s.Reaches (s.frame options.dialect g) ⟨around, .reference use c⟩ →
        c.record = some r → c.qualifier = some a →
        ∃ schema field, g.schema r = .ok schema ∧ schema.getField c.field = .ok field ∧
          (field.literal = none →
            (∀ d, ((s.frame options.dialect g).within around).definition? r c.field = some d →
              d.kind = .override) →
            (∀ expand, referencePieces expand ((s.frame options.dialect g).within around) use c =
              .ok [.column (.named a) field.columnName]) ∧
            (options.dialect.quote a ++ "." ++ options.dialect.quote field.columnName).toList <:+:
              compiled.sql.toList) := by
  obtain ⟨g, σ', ps, hg, -, hps, rfl⟩ := compile_ok h
  refine ⟨g, σ', hg, fun around use c r a hsite hr ha => ?_⟩
  obtain rfl := hsite.plain ha
  obtain ⟨hstands, -⟩ := hsite.stands hps
  cases hstands with
  | @reference depth _ _ _ qs hqs hstretch =>
    rw [referencePieces_eq] at hqs
    obtain ⟨resolved, hresolve, hqs⟩ := bind_eq_ok hqs
    obtain ⟨schema, field, hschema, hfield, hcolumn⟩ := resolve_qualified hr ha hresolve
    rw [Frame.within_registry, Statement.frame_registry] at hschema
    refine ⟨schema, field, hschema, hfield, fun hliteral hoverrides => ?_⟩
    obtain rfl := hcolumn hliteral (applied?_plain_of_overrides hr hoverrides)
    cases hqs
    refine ⟨fun expand => by rw [referencePieces_eq, hresolve]; rfl, ?_⟩
    obtain ⟨inside, htext⟩ : ∃ inside, (layoutWith (fun _ => "?") options.dialect options.layout inside
        [.column (.named a) field.columnName]).toList <:+: (layout options.dialect options.layout ps).toList :=
      layout_stretch hstretch
    have hone : layoutWith (fun _ => "?") options.dialect options.layout inside
        [.column (.named a) field.columnName] =
          options.dialect.quote a ++ "." ++ options.dialect.quote field.columnName :=
      String.append_empty
    rwa [hone] at htext

/-! ### Novels of one author -/

/-- The author of a novel, read through an alias. -/
def otherAuthor : FieldRef where
  record := some novel
  field := "author"
  qualifier := some "other"

/-- Novels with those of the same author, all of them credited to the seventh one. -/
def twinNovels : Select where
  record := novel
  fields := ["id", "author"]
  joins :=
    [{ record := novel, condition := .binary .eq (.column otherAuthor) (.column (.of novel "author")),
       tableAlias := some "other" }]
  definitions := [{ field := "author", expr := .value (.integer 7), kind := .override }]

/-- What overrides the author of the novels leaves the other ones alone. -/
theorem twinNovels_read :
    ∃ c, ((compile bookshop {} (.select twinNovels)).runIn openShop).1 = .ok c ∧
      c.sql = "select t0.id, ? as author from novels as t0 inner join novels as other " ++
        "on other.author = t0.author" ∧
      "other.author".toList <:+: c.sql.toList ∧
      ∃ g σ', (Registry.build bookshop (Statement.select twinNovels).records).runIn openShop = (.ok g, σ') ∧
        ∀ expand, referencePieces expand
          (((Statement.select twinNovels).frame .mySql g).within [twinNovels]) .plain otherAuthor =
            .ok [.column (.named "other") "author"] := by
  have hbuild : (Registry.build bookshop (Statement.select twinNovels).records).runIn openShop =
      (.ok (shopRegistry [novel]), openShop) :=
    build_register (by decide)
  obtain ⟨c, hc, hsql⟩ : ∃ c, ((compile bookshop {} (.select twinNovels)).runIn openShop).1 = .ok c ∧
      c.sql = "select t0.id, ? as author from novels as t0 inner join novels as other " ++
        "on other.author = t0.author" := by
    rw [compile_runIn, hbuild]
    exact ⟨_, rfl, by decide +kernel⟩
  obtain ⟨g, σ', hg, hread⟩ := qualifiers_read hc
  cases hbuild.symm.trans hg
  have hsite : (Statement.select twinNovels).Reaches
      ((Statement.select twinNovels).frame .mySql (shopRegistry [novel]))
      ⟨[twinNovels], .reference .plain otherAuthor⟩ :=
    .step (.step (.step (.step .start .select) (.clause List.mem_cons_self)) (.operand List.mem_cons_self))
      (.reference rfl)
  obtain ⟨schema, field, hschema, hfield, hwritten⟩ := hread _ _ _ _ _ hsite rfl rfl
  cases hschema
  cases hfield
  obtain ⟨hpieces, htext⟩ := hwritten rfl fun d hd => by
    cases hd
    rfl
  exact ⟨c, hc, hsql, htext, _, _, hg, hpieces⟩

/-- The number of a bestseller, read through an alias. -/
def otherNumber : FieldRef where
  record := some bestseller
  field := "id"
  qualifier := some "other"

/-- Bestsellers with the others, their numbers without sign. -/
def unsignedNumbers : Select where
  record := bestseller
  fields := ["id"]
  joins :=
    [{ record := bestseller, condition := .binary .notEq (.column otherNumber) (.column (.of novel "id")),
       tableAlias := some "other" }]
  definitions := [{ field := "id", expr := .call "abs" [.column (.of novel "id")], kind := .definition }]

/-- A definition also stands for references that are qualified, although what it says is read from the
selected record. -/
theorem unsignedNumbers_misread :
    ∃ c, ((compile bookshop {} (.select unsignedNumbers)).runIn openShop).1 = .ok c ∧
      c.sql = "select abs(t0.id) as id from novels as t0 inner join novels as other on abs(t0.id) <> t0.id" ∧
      ¬"other.id".toList <:+: c.sql.toList ∧
      ∃ g, (Registry.build bookshop (Statement.select unsignedNumbers).records).runIn openShop =
          (.ok g, openShop) ∧
        (Statement.select unsignedNumbers).Reaches ((Statement.select unsignedNumbers).frame .mySql g)
          ⟨[unsignedNumbers], .reference .plain otherNumber⟩ ∧
        ∃ schema field, g.schema bestseller = .ok schema ∧ schema.getField "id" = .ok field ∧
          field.literal = none ∧ field.columnName = "id" ∧
          referencePieces (expandWith 1) (((Statement.select unsignedNumbers).frame .mySql g).within
              [unsignedNumbers]) .plain otherNumber =
            .ok [.verbatim "abs", .word "(", .column (.abbreviation 0) "id", .word ")"] := by
  have hbuild : (Registry.build bookshop (Statement.select unsignedNumbers).records).runIn openShop =
      (.ok (shopRegistry [bestseller, novel]), openShop) := by
    show SessionM.runIn (Registry.extend bookshop _ {}
      [bestseller, novel, bestseller, bestseller, novel]) openShop = _
    rw [extend_published rfl rfl (by decide)]
    show SessionM.runIn (Registry.extend bookshop _ _ [novel, novel, bestseller, bestseller, novel])
      openShop = _
    rw [extend_published rfl rfl (by decide)]
    show SessionM.runIn (Registry.extend bookshop _ _ [novel, bestseller, bestseller, novel]) openShop = _
    rw [extend_of_contained (by decide)]
    rfl
  have hsite : (Statement.select unsignedNumbers).Reaches
      ((Statement.select unsignedNumbers).frame .mySql (shopRegistry [bestseller, novel]))
      ⟨[unsignedNumbers], .reference .plain otherNumber⟩ :=
    .step (.step (.step (.step .start .select) (.clause List.mem_cons_self)) (.operand List.mem_cons_self))
      (.reference rfl)
  rw [compile_runIn, hbuild]
  exact ⟨_, rfl, by decide +kernel, by decide +kernel, _, rfl, hsite, _, _, rfl, rfl, rfl, rfl, rfl⟩

end RecordSql
