import RecordSql.Proofs.Binding.Verified
import RecordSql.Proofs.Definition.Consulted
import RecordSql.Proofs.Expression.Selects
import RecordSql.Proofs.Registration

/-!
# Hygiene of definitions

A definition of a select is in force in all of the select, in the selects inside of it too: these are on
other records, so that none of them can define the same field. What the definition stands for is looked
up where it is substituted, though. It is the same in all places that agree on what is looked up, above
all where the selects in between define nothing of it.

- `Expr.BoundIn.apart`, `Statement.apart`: no select stands in a select on its own record.
- `Select.Defines`, `Select.Holds`: references to fields that a select defines, and the places in it.
- `Frame.Substitutes`: what is substituted for a reference.
- `definitions_hygienic`: what is substituted in two places of a select.
-/

namespace RecordSql

/-! ### Selects on other records -/

/-- A select, on another record than all selects around and inside of it. -/
def Select.Apart (scopes : Scopes) (s : Select) : Prop :=
  scopes.owns s.record = false ∧ ∀ t ∈ s.nested, t.record ≠ s.record

section Apart

variable {g : Registry} {scopes : Scopes}

theorem Select.Apart.outer {scope : Scope} {s : Select} (h : s.Apart (scope :: scopes)) :
    s.Apart scopes :=
  ⟨(Bool.or_eq_false_iff.1 h.1).2, h.2⟩

/-- All selects inside of what is bound are apart. -/
theorem apart_cases (g : Registry) :
    ExprCases (fun e => ∀ scopes, e.BoundIn g scopes → ∀ t ∈ e.selects, t.Apart scopes)
      (fun s => ∀ scopes, verifySelect g scopes s = .ok () → ∀ t ∈ s :: s.nested, t.Apart scopes) := by
  refine .ofOperands ?expr ?select
  case expr =>
    intro e hoperands hsub scopes hb t ht
    obtain ⟨a, ha, ht⟩ | ⟨s, rfl, ht⟩ := Expr.mem_selects.1 ht
    · exact hoperands a ha scopes (hb.operand ha) t ht
    · obtain ⟨place, hb⟩ := hb
      exact hsub s rfl scopes hb t ht
  case select =>
    intro s hdefinitions hclauses hcondition outer hv
    obtain ⟨scope, haccepted⟩ := verifySelect_accepted hv
    have inner : ∀ t ∈ s.nested, t.Apart (scope :: outer) := by
      intro t ht
      obtain ⟨d, hd, ht⟩ | ⟨e, he, ht⟩ | ⟨c, hc, ht⟩ := Select.mem_nested.1 ht
      · exact hdefinitions d hd _ (haccepted.definitions d hd) t ht
      · exact hclauses e he _ (haccepted.clauses e he) t ht
      · cases c with
        | expr e => exact hcondition e hc _ (haccepted.restriction _ hc) t ht
        | key k | multiKey k => cases ht
    refine List.forall_mem_cons.2 ⟨⟨haccepted.owner, fun t ht hr => ?_⟩, fun t ht => (inner t ht).outer⟩
    -- the scope of the select is one around all that is inside of it
    have howner : (scope.owner == t.record) = false := (Bool.or_eq_false_iff.1 (inner t ht).1).1
    rw [haccepted.opened.owner_eq, hr, beq_self_eq_true] at howner
    cases howner

theorem Condition.BoundIn.apart {c : Condition} (h : c.BoundIn g scopes) :
    ∀ t ∈ c.selects, t.Apart scopes := by
  cases c with
  | expr e => exact (apart_cases g).expr e scopes h
  | key k | multiKey k => exact List.forall_mem_nil _

/-- No select of a checked statement stands in a select on its own record. -/
theorem Statement.apart {s : Statement} (hv : verify g s = .ok ()) :
    ∀ t ∈ s.selects, ∀ u ∈ t.nested, u.record ≠ t.record := by
  obtain ⟨scopes, hscopes⟩ := verify_opens hv
  have selects : ∀ t ∈ s.selects, t.Apart scopes := by
    cases s with
    | select s =>
      cases hscopes
      exact (apart_cases g).select s [] hv
    | insert i => exact List.forall_mem_nil _
    | update u =>
      obtain ⟨hassignments, hcondition⟩ := verify_update hv hscopes
      refine List.forall_mem_append.2 ⟨fun t ht => ?_, fun t ht => ?_⟩
      · obtain ⟨a, ha, ht⟩ := List.mem_flatMap.1 ht
        exact (apart_cases g).expr a.2 scopes (hassignments a ha) t ht
      · rw [whereSelects_eq] at ht
        obtain ⟨c, hc, ht⟩ := List.mem_flatMap.1 ht
        exact (hcondition c (Option.mem_toList.1 hc)).apart t ht
    | delete d => exact (verify_delete hv hscopes).apart
  exact fun t ht => (selects t ht).2

end Apart

/-! ### Places in a select -/

/-- A reference to a field that a select defines, in a use that the definition applies to. -/
structure Select.Defines (s : Select) (d : Definition) (use : ColumnUse) (c : FieldRef) : Prop where
  mem : d ∈ s.definitions
  applies : d.applies use
  record : c.record = some s.record
  field : c.field = d.field

/-- The selects around a place in a select. Those entered since are inside of it, or at least they are on
other records. -/
def Select.Holds (s : Select) (around : List Select) : Prop :=
  ∃ inner outer, around = inner ++ s :: outer ∧ ∀ t ∈ inner, t ∈ s.nested ∨ t.record ≠ s.record

/-- What is substituted for a reference. -/
def Frame.Substitutes (f : Frame) (use : ColumnUse) (c : FieldRef) (x : Rendered) : Prop :=
  ∃ d, f.applied? use c = some d ∧ f.Rendering d.expr x

/-- What is written inside of some selects of a statement. -/
def Statement.inside (s : Statement) (dialect : Dialect) (g : Registry) (around : List Select) : Frame :=
  (s.frame dialect g).within around

section Places

variable {f : Frame} {s : Select} {d : Definition} {use : ColumnUse} {c : FieldRef} {around : List Select}

theorem Frame.within_append (f : Frame) (inner outer : List Select) :
    f.within (inner ++ outer) = (f.within outer).within inner :=
  List.foldr_append

/-- A field's only definition is the one that is found. -/
theorem find_definition {ds : List Definition} {field : String} (h : (ds.map (·.field)).Nodup)
    (hd : d ∈ ds) (hfield : field = d.field) : (ds.find? fun d => d.field = field) = some d := by
  cases hfind : ds.find? fun d => d.field = field with
  | none =>
    have hno := List.find?_eq_none.1 hfind d hd
    rw [decide_eq_true_iff] at hno
    exact absurd hfield.symm hno
  | some d' =>
    have hsame : d'.field = field := by simpa using List.find?_some hfind
    exact congrArg some
      (List.inj_on_of_nodup_map h (List.mem_of_find?_eq_some hfind) hd (hsame.trans hfield))

/-- A definition is in force in all of its select. -/
theorem Select.Defines.applied (h : s.Defines d use c) (hone : (s.definitions.map (·.field)).Nodup)
    (hapart : ∀ t ∈ s.nested, t.record ≠ s.record) (hp : s.Holds around) :
    (f.within around).applied? use c = some d := by
  obtain ⟨inner, outer, rfl, hinner⟩ := hp
  rw [Frame.within_append]
  induction inner with
  | nil =>
    show ((f.within outer).enter s).applied? use c = some d
    rw [Frame.applied?_enter_own h.record (find_definition hone h.mem h.field)]
    exact Option.filter_eq_some_iff.2 ⟨rfl, h.applies⟩
  | cons t inner ih =>
    obtain ⟨ht, hinner⟩ := List.forall_mem_cons.1 hinner
    have hne : t.record ≠ s.record := ht.elim (hapart t) id
    rw [← ih hinner]
    refine Frame.applied?_enter_other fun hr => ?_
    exact absurd (Option.some.inj (hr.symm.trans h.record)) hne

end Places

/-! ### Compiled statements -/

/-- What a definition of a select is replaced by, in a statement that compiles and that defines no field
of a select twice. In all of the select, references to the field stand for the definition. The same is
substituted for them wherever all that the definition looks up is defined alike, and so it is where the
selects in between define nothing of it. -/
theorem definitions_hygienic {catalog : Catalog} {options : Options} {s : Statement} {σ : Session}
    {compiled : Compiled} (h : ((compile catalog options s).runIn σ).1 = .ok compiled)
    (hone : ∀ t ∈ s.selects, (t.definitions.map (·.field)).Nodup) :
    ∃ g σ', (Registry.build catalog s.records).runIn σ = (.ok g, σ') ∧
      ∀ t ∈ s.selects, ∀ d,
        (∀ around use c, t.Holds around → t.Defines d use c →
          (s.inside options.dialect g around).applied? use c = some d) ∧
        (∀ around around' use c use' c', t.Holds around → t.Holds around' → t.Defines d use c →
          t.Defines d use' c' →
          (s.inside options.dialect g around).Agrees (s.inside options.dialect g around') d.expr →
          (∀ x, (s.inside options.dialect g around).Substitutes use c x →
            ∀ y, (s.inside options.dialect g around').Substitutes use' c' y ↔ y = x) ∧
          ∀ ps qs, (s.inside options.dialect g around).Substitutes use c (.ok ps) →
            (s.inside options.dialect g around').Substitutes use' c' (.ok qs) →
            ∀ depth depth', layoutWith (fun _ => "?") options.dialect .compact depth ps =
              layoutWith (fun _ => "?") options.dialect .compact depth' qs) ∧
        ∀ inner outer,
          (∀ u ∈ inner, u.Spares (s.inside options.dialect g (t :: outer)) d.expr) →
          (s.inside options.dialect g (t :: outer)).Agrees
            (s.inside options.dialect g (inner ++ t :: outer)) d.expr := by
  obtain ⟨g, σ', ps, hg, hv, -⟩ := compile_ok h
  refine ⟨g, σ', hg, fun t ht d => ?_⟩
  have applied : ∀ {around use c}, t.Holds around → t.Defines d use c →
      (s.inside options.dialect g around).applied? use c = some d :=
    fun hp hd => hd.applied (hone t ht) (Statement.apart hv t ht) hp
  have substitutes : ∀ {around use c x}, t.Holds around → t.Defines d use c →
      ((s.inside options.dialect g around).Substitutes use c x ↔
        (s.inside options.dialect g around).Rendering d.expr x) := by
    intro around use c x hp hd
    refine ⟨?_, fun hx => ⟨d, applied hp hd, hx⟩⟩
    rintro ⟨d', hd', hx⟩
    rw [applied hp hd] at hd'
    cases hd'
    exact hx
  refine ⟨fun around use c hp hd => applied hp hd, ?same, fun inner outer hspares => ?between⟩
  case same =>
    intro around around' use c use' c' hp hp' hd hd' hagrees
    have same : ∀ x, (s.inside options.dialect g around).Substitutes use c x →
        ∀ y, (s.inside options.dialect g around').Substitutes use' c' y ↔ y = x := by
      intro x hx y
      rw [substitutes hp' hd']
      exact hagrees.rendering_iff ((substitutes hp hd).1 hx)
    refine ⟨same, fun ps qs hps hqs depth depth' => ?_⟩
    cases (same _ hps _).1 hqs
    exact layoutWith_compact ps depth depth'
  case between =>
    unfold Statement.inside
    rw [Frame.within_append]
    exact Frame.agrees_within hspares

/-- Reviews of novels that cost more than five, all of them rated seven. -/
def costlyReviews : Select where
  record := review
  fields := ["id"]
  condition := some (.expr (.binary .gt (.column (.of novel "price")) (.value (.integer 5))))
  definitions := [{ field := "rating", expr := .value (.integer 7), kind := .definition }]

/-- The price of novels. -/
def novelPrice (price : Expr) : Definition where
  field := "price"
  expr := price
  kind := .definition

/-- Novels with their prices, those that cost more than five and are reviewed. -/
def costlyNovels (joins : List Join) (price : Expr) : Select where
  record := novel
  fields := ["id", "price"]
  joins := joins
  condition := some (.expr (.exists costlyReviews))
  definitions := [novelPrice price]

/-- The price is defined in every use. -/
theorem costlyNovels_defines (joins : List Join) (price : Expr) (use : ColumnUse) :
    (costlyNovels joins price).Defines (novelPrice price) use (.of novel "price") :=
  ⟨List.mem_singleton_self _, rfl, rfl, rfl⟩

/-- What an author costs. -/
def authorPrice : Expr :=
  .column (.of novel "author")

/-- The reviews define nothing that the price looks up, so that it is the author among them too. -/
theorem authorPrice_hygienic :
    ∃ c, ((compile bookshop {} (.select (costlyNovels [] authorPrice))).runIn openShop).1 = .ok c ∧
      c.sql = "select t0.id, t0.author as price from novels as t0 where exists " ++
        "(select t1.id from reviews as t1 where t0.author > ?)" ∧
      (∀ t ∈ (Statement.select (costlyNovels [] authorPrice)).selects,
        (t.definitions.map (·.field)).Nodup) ∧
      ∃ g σ', (Registry.build bookshop (Statement.select (costlyNovels [] authorPrice)).records).runIn
          openShop = (.ok g, σ') ∧
        ∀ y, ((Statement.select (costlyNovels [] authorPrice)).inside .mySql g
            [costlyReviews, costlyNovels [] authorPrice]).Substitutes .plain (.of novel "price") y ↔
          y = .ok [.column (.abbreviation 0) "author"] := by
  have hbuild : (Registry.build bookshop
      (Statement.select (costlyNovels [] authorPrice)).records).runIn openShop =
        (.ok (shopRegistry [novel, review]), openShop) :=
    build_register (by decide)
  obtain ⟨c, hc, hsql⟩ : ∃ c,
      ((compile bookshop {} (.select (costlyNovels [] authorPrice))).runIn openShop).1 = .ok c ∧
      c.sql = "select t0.id, t0.author as price from novels as t0 where exists " ++
        "(select t1.id from reviews as t1 where t0.author > ?)" := by
    rw [compile_runIn, hbuild]
    exact ⟨_, rfl, by decide +kernel⟩
  have hone : ∀ t ∈ (Statement.select (costlyNovels [] authorPrice)).selects,
      (t.definitions.map (·.field)).Nodup :=
    List.forall_mem_cons.2 ⟨List.nodup_singleton _, List.forall_mem_singleton.2 (List.nodup_singleton _)⟩
  obtain ⟨g, σ', hg, hall⟩ := definitions_hygienic hc hone
  cases hbuild.symm.trans hg
  obtain ⟨-, hsame, hbetween⟩ := hall (costlyNovels [] authorPrice) List.mem_cons_self (novelPrice authorPrice)
  refine ⟨c, hc, hsql, hone, _, _, hg, ?_⟩
  have direct : ((Statement.select (costlyNovels [] authorPrice)).inside .mySql
      (shopRegistry [novel, review]) [costlyNovels [] authorPrice]).Substitutes .projection
        (.of novel "price") (.ok [.column (.abbreviation 0) "author"]) :=
    ⟨novelPrice authorPrice, rfl, nofun, 0, rfl⟩
  have hspares : costlyReviews.Spares ((Statement.select (costlyNovels [] authorPrice)).inside .mySql
      (shopRegistry [novel, review]) [costlyNovels [] authorPrice]) authorPrice := by
    intro use c hconsults hrecord
    obtain ⟨-, rfl⟩ := hconsults.of_column rfl
    exact absurd hrecord (by decide)
  exact (hsame _ _ _ _ _ _ ⟨[], [], rfl, List.forall_mem_nil _⟩
    ⟨[costlyReviews], [], rfl, List.forall_mem_singleton.2 (.inl (List.mem_singleton_self _))⟩
    (costlyNovels_defines _ _ _) (costlyNovels_defines _ _ _)
    (hbetween [costlyReviews] [] (List.forall_mem_singleton.2 hspares))).1 _ direct

/-- The reviews of a novel. -/
def novelReviews : Join where
  record := review
  condition := .binary .eq (.column { record := review, field := "novel", qualifier := some "r" })
    (.column (.of novel "id"))
  tableAlias := some "r"

/-- The rating of a review of a novel. -/
def ratingPrice : Expr :=
  .column { record := review, field := "rating", qualifier := some "r" }

/-- What a select inside of another one defines may change what a definition of the outer one stands
for. -/
theorem ratingPrice_redefined :
    ∃ c, ((compile bookshop {} (.select (costlyNovels [novelReviews] ratingPrice))).runIn openShop).1 =
        .ok c ∧
      c.sql = "select t0.id, stars as price from novels as t0 " ++
        "inner join reviews as r on r.novel = t0.id " ++
        "where exists (select t1.id from reviews as t1 where ? > ?)" ∧
      (∀ t ∈ (Statement.select (costlyNovels [novelReviews] ratingPrice)).selects,
        (t.definitions.map (·.field)).Nodup) ∧
      ∃ g, (Registry.build bookshop
          (Statement.select (costlyNovels [novelReviews] ratingPrice)).records).runIn openShop =
            (.ok g, openShop) ∧
        costlyReviews ∈ (costlyNovels [novelReviews] ratingPrice).nested ∧
        ((Statement.select (costlyNovels [novelReviews] ratingPrice)).inside .mySql g
          [costlyNovels [novelReviews] ratingPrice]).Substitutes .projection (.of novel "price")
            (.ok [.verbatim "stars"]) ∧
        ((Statement.select (costlyNovels [novelReviews] ratingPrice)).inside .mySql g
          [costlyReviews, costlyNovels [novelReviews] ratingPrice]).Substitutes .plain
            (.of novel "price") (.ok [.value (.integer 7)]) := by
  have hbuild : (Registry.build bookshop
      (Statement.select (costlyNovels [novelReviews] ratingPrice)).records).runIn openShop =
        (.ok (shopRegistry [novel, review]), openShop) :=
    build_register (by decide)
  rw [compile_runIn, hbuild]
  refine ⟨_, rfl, by decide +kernel, ?_, _, rfl, List.mem_singleton_self _, ?_, ?_⟩
  · exact List.forall_mem_cons.2
      ⟨List.nodup_singleton _, List.forall_mem_singleton.2 (List.nodup_singleton _)⟩
  · exact ⟨novelPrice ratingPrice, rfl, nofun, 0, rfl⟩
  · exact ⟨novelPrice ratingPrice, rfl, nofun, 1, rfl⟩

end RecordSql
