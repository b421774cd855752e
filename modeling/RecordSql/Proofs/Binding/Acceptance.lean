import RecordSql.Proofs.Binding.Visibility
import RecordSql.Proofs.Expression.Induction
import RecordSql.Proofs.Expression.Records
import RecordSql.Proofs.Registration.Closure

/-!
# Accepted statements

A statement is checked reference by reference, each in the scopes of the selects around it. So if nothing
else is wrong with a statement, it is accepted if and only if all of its references are visible.

- `Error.isIllFormed`, `Error.isUnbound`: what may be wrong with a statement and with a reference.
- `openScope_fails`: a scope only fails to open because of a collision.
- `Judges`: what a check may say about some references.
- `judges_cases`: the check of a node judges its references if the checks of its parts judge theirs.
- `verify_judges`: the check of a statement judges all of its references.
- `verify_iff_visible`: the statements that are accepted.
-/

namespace RecordSql

/-! ### Failures of checks -/

/-- Something other than a reference is wrong: a select stands in one on the same record, two names
collide, or a definition does not fit. -/
def Error.isIllFormed : Error → Bool
  | .nestedSelect _ | .aliasCollision .. | .unknownField .. | .invalidDefinition .. => true
  | _ => false

/-- A reference is not bound. -/
def Error.isUnbound : Error → Bool
  | .unboundRecord .. | .unknownAlias .. => true
  | _ => false

/-- A computation that only fails for something other than a reference. -/
abbrev FailsIllFormed {α : Type} (x : Except Error α) : Prop :=
  FailsOnly (fun e => e.isIllFormed = true) x

variable {catalog : Catalog} {g : Registry}

theorem schema_fails {kind : Error → Prop} {r : RecordType} (hr : r ∈ g.records) :
    FailsOnly kind (g.schema r) := by
  obtain ⟨schema, hschema⟩ := schema_of_registered hr
  rw [hschema]
  exact .ok schema

theorem bindRecord_fails {r : RecordType} (hr : r ∈ g.records) (scope : Scope) :
    FailsIllFormed (bindRecord g scope r) :=
  (schema_fails hr).bind fun _ _ => .ok _

/-- A table that is claimed twice is told by its abbreviation, which it has. -/
theorem claimTable_fails (hg : g.Closed catalog) {r : RecordType} (hr : r ∈ g.records)
    (outer : Scopes) (place : Place) (scope : Scope) :
    FailsIllFormed (claimTable g outer place scope r) := by
  obtain ⟨schema, hschema⟩ := schema_of_registered hr
  unfold claimTable
  simp only [hschema, ok_bind]
  cases howner : schema.tableOwner with
  | none => exact .ok _
  | some t =>
    by_cases hclaimed : Scopes.claims (scope :: outer) t
    · obtain ⟨-, n, hn⟩ := hg.names_owner hschema howner
      simp only [hclaimed, if_true, hn, ok_bind]
      exact .error rfl
    · simp only [hclaimed]
      exact .ok _

theorem bindSource_fails (hg : g.Closed catalog) {r : RecordType} (hr : r ∈ g.records)
    (outer : Scopes) (place : Place) (scope : Scope) :
    FailsIllFormed (bindSource g outer place scope r) :=
  (bindRecord_fails hr scope).bind fun next _ => claimTable_fails hg hr outer place next

theorem bindJoin_fails (hg : g.Closed catalog) {j : Join} (hj : j.record ∈ g.records)
    (outer : Scopes) (target : Target) (scope : Scope) :
    FailsIllFormed (bindJoin g outer target scope j) := by
  unfold bindJoin
  cases j.tableAlias with
  | none => exact bindSource_fails hg hj outer _ scope
  | some a =>
    dsimp only
    split
    · exact .error rfl
    · exact .ok _

/-- The scope of a select whose records are registered only fails to open because names collide. -/
theorem openScope_fails (hg : g.Closed catalog) {s : Select} (hs : s.records ⊆ g.records)
    (outer : Scopes) : FailsIllFormed (openScope g outer s.record s.sources s.joins) := by
  have hrecord : s.record ∈ g.records := hs s.record_mem_records
  have hjoins : ∀ scope, ∀ j ∈ s.joins,
      FailsIllFormed (bindJoin g outer (.select s.record) scope j) := fun scope j hj =>
    bindJoin_fails hg (hs (Select.records_joins hj List.mem_cons_self)) outer _ scope
  refine (bindRecord_fails hrecord _).bind fun own _ => ?_
  cases hsources : s.sources with
  | none =>
    exact (claimTable_fails hg hrecord outer _ own).bind fun scope _ => FailsOnly.foldlM hjoins scope
  | some rs =>
    have hread : ∀ scope, ∀ r ∈ rs,
        FailsIllFormed (bindSource g outer (.whole (.select s.record)) scope r) := by
      intro scope r hr
      have hmem : r ∈ s.sources.getD [s.record] := by rw [hsources]; exact hr
      exact bindSource_fails hg (hs (Select.records_source hmem)) outer _ scope
    exact (FailsOnly.foldlM hread own).bind fun scope _ => FailsOnly.foldlM hjoins scope

theorem verifyDefinitions_fails {r : RecordType} (hr : r ∈ g.records) (ds : List Definition) :
    FailsIllFormed (verifyDefinitions g r ds) := by
  refine (schema_fails hr).bind fun schema _ => FailsOnly.forM fun d _ => ?_
  have hfield : FailsIllFormed (schema.getField d.field) := by
    unfold RecordSchema.getField
    cases schema.field? d.field with
    | some f => exact .ok f
    | none => exact .error rfl
  refine hfield.bind fun field _ => ?_
  cases d.kind with
  | override | definition =>
    dsimp only
    split
    · exact .error rfl
    · exact .ok ()

/-! ### Judgements -/

/-- What a check may say about some references: it accepts them if they are all visible, and rejects them
for one that is not, unless it fails for something else. -/
inductive Judges (visible mentions : PlacedMention → Prop) : Except Error Unit → Prop
  | accepts : (∀ x, mentions x → visible x) → Judges visible mentions (.ok ())
  | rejects {e x} : e.isUnbound = true → mentions x → ¬ visible x →
      Judges visible mentions (.error e)
  | illFormed {e} : e.isIllFormed = true → Judges visible mentions (.error e)

namespace Judges

variable {visible mentions mentions' : PlacedMention → Prop} {x y : Except Error Unit}

theorem congr (h : Judges visible mentions x) (hiff : ∀ m, mentions' m ↔ mentions m) :
    Judges visible mentions' x := by
  cases h with
  | accepts hall => exact .accepts fun m hm => hall m ((hiff m).1 hm)
  | rejects he hm hnot => exact .rejects he ((hiff _).2 hm) hnot
  | illFormed he => exact .illFormed he

/-- There are no references. -/
theorem none (h : ∀ m, ¬ mentions m) : Judges visible mentions (.ok ()) :=
  .accepts fun m hm => (h m hm).elim

/-- A first step that judges no reference. -/
theorem after {α : Type} {x : Except Error α} {f : α → Except Error Unit} (hx : FailsIllFormed x)
    (hf : ∀ a, x = .ok a → Judges visible mentions (f a)) : Judges visible mentions (x >>= f) := by
  cases x with
  | ok a => exact hf a rfl
  | error e => exact .illFormed (hx e rfl)

theorem seq (hx : Judges visible mentions x) (hy : Judges visible mentions' y) :
    Judges visible (fun m => mentions m ∨ mentions' m) (x >>= fun _ => y) := by
  cases hx with
  | accepts hall =>
    rw [ok_bind]
    cases hy with
    | accepts hall' => exact .accepts fun m hm => hm.elim (hall m) (hall' m)
    | rejects he hm hnot => exact .rejects he (.inr hm) hnot
    | illFormed he => exact .illFormed he
  | rejects he hm hnot => exact .rejects he (.inl hm) hnot
  | illFormed he => exact .illFormed he

theorem forM {ι : Type} {f : ι → Except Error Unit} {mentions : ι → PlacedMention → Prop}
    {l : List ι} (h : ∀ i ∈ l, Judges visible (mentions i) (f i)) :
    Judges visible (fun m => ∃ i ∈ l, mentions i m) (l.forM f) := by
  induction l with
  | nil => exact .none (by simp)
  | cons i l ih =>
    obtain ⟨hfirst, hrest⟩ := List.forall_mem_cons.1 h
    exact (hfirst.seq (ih hrest)).congr fun m => List.exists_mem_cons_iff _ _ _

/-- A check that judges references is passed if and only if they are all visible. -/
theorem ok_iff (h : Judges visible mentions x) (hwell : ∀ e, x = .error e → e.isIllFormed = false) :
    x = .ok () ↔ ∀ m, mentions m → visible m := by
  cases h with
  | accepts hall => exact iff_of_true rfl hall
  | rejects he hm hnot => exact iff_of_false nofun fun hall => hnot (hall _ hm)
  | illFormed he => exact absurd he (Bool.eq_false_iff.1 (hwell _ rfl))

/-- A check that judges references fails for one if and only if one is not visible. -/
theorem unbound_iff (h : Judges visible mentions x)
    (hwell : ∀ e, x = .error e → e.isIllFormed = false) :
    (∃ e, x = .error e ∧ e.isUnbound = true) ↔ ∃ m, mentions m ∧ ¬ visible m := by
  cases h with
  | accepts hall =>
    refine iff_of_false (fun ⟨e, he, _⟩ => nomatch he) ?_
    exact fun ⟨m, hm, hnot⟩ => hnot (hall m hm)
  | rejects he hm hnot => exact iff_of_true ⟨_, rfl, he⟩ ⟨_, hm, hnot⟩
  | illFormed he => exact absurd he (Bool.eq_false_iff.1 (hwell _ rfl))

/-- Checks that judge references do not fail for records that are not registered. -/
theorem informed (h : Judges visible mentions x) : Informed x := by
  rintro r rfl
  cases h with
  | rejects he | illFormed he => cases he

end Judges

/-! ### References -/

section References

variable {s : Statement} {around : List Select} {scopes : Scopes}

/-- The check of a record judges a reference that is visible where the record is. -/
theorem verifyRecord_judges (h : s.Enclosed g around scopes) {m : Mention} {r : RecordType}
    (hm : s.Visible g around m ↔ s.SeesRecord g around r) (place : Place) :
    Judges (fun x => s.Visible g x.1 x.2) (· = (around, m)) (verifyRecord scopes place r) := by
  unfold verifyRecord
  split
  · rename_i hbound
    refine .accepts ?_
    rintro _ rfl
    exact hm.2 ((h.binds_iff r).1 hbound)
  · rename_i hfree
    exact .rejects rfl rfl fun hsees => hfree ((h.binds_iff r).2 (hm.1 hsees))

/-- A column is visible if its record is, or its alias for its record. -/
theorem visible_column_iff {c : FieldRef} {r : RecordType} (hr : c.record = some r) :
    s.Visible g around (.column c) ↔
      match c.qualifier with
      | none => s.SeesRecord g around r
      | some a => SeesAlias around a r := by
  refine ⟨fun hc => hc r hr, fun hc q hq => ?_⟩
  cases hr.symm.trans hq
  exact hc

/-- The check of a column judges it. -/
theorem verifyReference_judges (h : s.Enclosed g around scopes) (place : Place) (c : FieldRef) :
    Judges (fun x => s.Visible g x.1 x.2) (· = (around, .column c)) (verifyReference scopes place c) := by
  unfold verifyReference
  cases hr : c.record with
  | none =>
    refine .accepts ?_
    rintro _ rfl r hr'
    cases hr.symm.trans hr'
  | some r =>
    have visible_iff : s.Visible g around (.column c) ↔ _ := visible_column_iff hr
    cases hq : c.qualifier with
    | none =>
      rw [hq] at visible_iff
      exact verifyRecord_judges h visible_iff place
    | some a =>
      rw [hq] at visible_iff
      have alias_iff := visible_iff.trans (h.seesAlias_iff a r).symm
      dsimp only
      cases ha : scopes.alias? a with
      | none => exact .rejects rfl rfl fun hc => nomatch ha.symm.trans (alias_iff.1 hc)
      | some bound =>
        dsimp only
        split
        · rename_i hsame
          refine .accepts ?_
          rintro _ rfl
          exact alias_iff.2 (by rw [ha, hsame])
        · rename_i hother
          refine .rejects rfl rfl fun hc => hother ?_
          exact Option.some.inj (ha.symm.trans (alias_iff.1 hc))

/-! ### Parts of a statement -/

/-- What an expression refers to, and what its parts refer to. -/
theorem expr_mentions {e : Expr} {x : PlacedMention} :
    Site.Mentions ⟨around, .expr e⟩ x ↔
      (around = x.1 ∧ (Item.expr e).mention? = some x.2) ∨
      (∃ a ∈ e.operands, Site.Mentions ⟨around, .expr a⟩ x) ∨
      ∃ t, e = .exists t ∧ Site.Mentions ⟨t :: around, .select t⟩ x := by
  rw [Site.mentions_iff]
  refine or_congr_right ⟨?_, ?_⟩
  · rintro ⟨_, hpart, hx⟩
    cases hpart with
    | operand ha => exact .inl ⟨_, ha, hx⟩
    | subSelect => exact .inr ⟨_, rfl, hx⟩
  · rintro (⟨a, ha, hx⟩ | ⟨t, rfl, hx⟩)
    · exact ⟨_, .operand ha, hx⟩
    · exact ⟨_, .subSelect, hx⟩

/-- A condition refers to what its expression refers to, or to the record of its key. -/
theorem condition_mentions {c : Condition} {x : PlacedMention} :
    Site.Mentions ⟨around, .condition c⟩ x ↔
      (around = x.1 ∧ (Item.condition c).mention? = some x.2) ∨
      ∃ e, c = .expr e ∧ Site.Mentions ⟨around, .expr e⟩ x := by
  rw [Site.mentions_iff]
  refine or_congr_right ⟨?_, ?_⟩
  · rintro ⟨_, hpart, hx⟩
    cases hpart with
    | condition => exact ⟨_, rfl, hx⟩
  · rintro ⟨e, rfl, hx⟩
    exact ⟨_, .condition, hx⟩

/-- A select refers to what its definitions, its restriction and its clauses refer to. -/
theorem select_mentions {t : Select} {x : PlacedMention} :
    Site.Mentions ⟨around, .select t⟩ x ↔
      (∃ d ∈ t.definitions, Site.Mentions ⟨around, .expr d.expr⟩ x) ∨
      (∃ c, t.condition = some c ∧ Site.Mentions ⟨around, .condition c⟩ x) ∨
      ∃ e ∈ t.clauses, Site.Mentions ⟨around, .expr e⟩ x := by
  rw [Site.mentions_iff, or_iff_right (by rintro ⟨-, hx⟩; cases hx)]
  constructor
  · rintro ⟨_, hpart, hx⟩
    cases hpart with
    | definition hd => exact .inl ⟨_, hd, hx⟩
    | restriction hc => exact .inr (.inl ⟨_, hc, hx⟩)
    | clause he => exact .inr (.inr ⟨_, he, hx⟩)
  · rintro (⟨d, hd, hx⟩ | ⟨c, hc, hx⟩ | ⟨e, he, hx⟩)
    · exact ⟨_, .definition hd, hx⟩
    · exact ⟨_, .restriction hc, hx⟩
    · exact ⟨_, .clause he, hx⟩

/-- The clauses of a select are its joins, its groups and its order. -/
theorem clauses_mentions {t : Select} {x : PlacedMention} :
    (∃ e ∈ t.clauses, Site.Mentions ⟨around, .expr e⟩ x) ↔
      (∃ j ∈ t.joins, Site.Mentions ⟨around, .expr j.condition⟩ x) ∨
      (∃ e ∈ t.groupBy.getD [], Site.Mentions ⟨around, .expr e⟩ x) ∨
      ∃ o ∈ t.orderBy.getD [], Site.Mentions ⟨around, .expr o.expr⟩ x := by
  unfold Select.clauses
  simp only [List.mem_append, List.mem_map, or_and_right, exists_or, exists_exists_and_eq_and, or_assoc]

/-! ### Expressions and selects -/

/-- What is shown of an expression whose records are registered: its check judges its references,
whatever is around it. -/
def ExprJudged (g : Registry) (s : Statement) (e : Expr) : Prop :=
  e.records ⊆ g.records → ∀ around scopes, s.Enclosed g around scopes → ∀ place,
    Judges (fun x => s.Visible g x.1 x.2) (Site.Mentions ⟨around, .expr e⟩)
      (verifyExpr g scopes place e)

/-- What is shown of a select that is entered. -/
def SelectJudged (g : Registry) (s : Statement) (t : Select) : Prop :=
  t.records ⊆ g.records → ∀ around scopes, s.Enclosed g around scopes →
    Judges (fun x => s.Visible g x.1 x.2) (Site.Mentions ⟨t :: around, .select t⟩)
      (verifySelect g scopes t)

/-- Expressions are judged one by one. -/
theorem exprs_judges (h : s.Enclosed g around scopes) {place : Place} {es : List Expr}
    (ih : ∀ e ∈ es, ExprJudged g s e) (hes : ∀ e ∈ es, e.records ⊆ g.records) :
    Judges (fun x => s.Visible g x.1 x.2) (fun x => ∃ e ∈ es, Site.Mentions ⟨around, .expr e⟩ x)
      (verifyExprs g scopes place es) := by
  rw [verifyExprs_eq]
  exact .forM fun e he => ih e he (hes e he) around scopes h place

theorem condition_judges (h : s.Enclosed g around scopes) {place : Place} {c : Condition}
    (ih : ∀ e, c = .expr e → ExprJudged g s e) (hc : c.records ⊆ g.records) :
    Judges (fun x => s.Visible g x.1 x.2) (Site.Mentions ⟨around, .condition c⟩)
      (verifyCondition g scopes place c) := by
  cases c with
  | expr e =>
    refine (ih e rfl hc around scopes h place).congr fun x => ?_
    simp [condition_mentions, Item.mention?]
  | key k | multiKey k =>
    refine (verifyRecord_judges (m := .record k.record) h Iff.rfl place).congr fun x => ?_
    simp [condition_mentions, Item.mention?, Prod.ext_iff, eq_comm]

/-- A restriction is judged if there is one. -/
theorem restriction_judges (h : s.Enclosed g around scopes) (place : Place) (o : Option Condition) :
    (∀ e, o = some (.expr e) → ExprJudged g s e) → (∀ c, o = some c → c.records ⊆ g.records) →
    Judges (fun x => s.Visible g x.1 x.2) (fun x => ∃ c, o = some c ∧ Site.Mentions ⟨around, .condition c⟩ x)
      (match o with
        | some c => verifyCondition g scopes place c
        | none => pure ()) := by
  intro ih ho
  cases o with
  | none => exact .none (by simp)
  | some c =>
    refine (condition_judges h (fun e he => ih e (congrArg some he)) (ho c rfl)).congr fun x => ?_
    simp

/-- The clauses of a select are judged one after the other, inside of it. -/
theorem clauses_judges {t : Select} (h : s.Enclosed g (t :: around) scopes) (target : Target)
    (ht : t.records ⊆ g.records) (hjoins : ∀ j ∈ t.joins, ExprJudged g s j.condition)
    (hcondition : ∀ e, t.condition = some (.expr e) → ExprJudged g s e)
    (hgroupBy : ∀ es, t.groupBy = some es → ∀ e ∈ es, ExprJudged g s e)
    (horderBy : ∀ ts, t.orderBy = some ts → ∀ o ∈ ts, ExprJudged g s o.expr) :
    Judges (fun x => s.Visible g x.1 x.2)
      (fun x => (∃ c, t.condition = some c ∧ Site.Mentions ⟨t :: around, .condition c⟩ x) ∨
        ∃ e ∈ t.clauses, Site.Mentions ⟨t :: around, .expr e⟩ x)
      (do
        verifyJoins g scopes target t.joins
        verifyWhere g scopes target t.condition
        verifyGroups g scopes target t.groupBy
        verifyOrders g scopes target t.orderBy) := by
  have joined : Judges (fun x => s.Visible g x.1 x.2)
      (fun x => ∃ j ∈ t.joins, Site.Mentions ⟨t :: around, .expr j.condition⟩ x)
      (verifyJoins g scopes target t.joins) := by
    rw [verifyJoins_eq]
    refine .forM fun j hj => hjoins j hj ?_ _ _ h _
    exact List.Subset.trans (List.subset_cons_self _ _) (List.Subset.trans (Select.records_joins hj) ht)
  have restricted : Judges (fun x => s.Visible g x.1 x.2)
      (fun x => ∃ c, t.condition = some c ∧ Site.Mentions ⟨t :: around, .condition c⟩ x)
      (verifyWhere g scopes target t.condition) := by
    cases hc : t.condition with
    | none => exact .none (by simp)
    | some c =>
      have records := List.Subset.trans (Select.records_restriction hc) ht
      refine (condition_judges h (fun e he => hcondition e ?_) records).congr fun x => ?_
      · rw [hc, he]
      · simp
  have grouped : Judges (fun x => s.Visible g x.1 x.2)
      (fun x => ∃ e ∈ t.groupBy.getD [], Site.Mentions ⟨t :: around, .expr e⟩ x)
      (verifyGroups g scopes target t.groupBy) := by
    cases hes : t.groupBy with
    | none => exact .none (by simp)
    | some es =>
      exact exprs_judges h (hgroupBy es hes) fun e he => List.Subset.trans (Select.records_group hes he) ht
  have ordered : Judges (fun x => s.Visible g x.1 x.2)
      (fun x => ∃ o ∈ t.orderBy.getD [], Site.Mentions ⟨t :: around, .expr o.expr⟩ x)
      (verifyOrders g scopes target t.orderBy) := by
    cases hts : t.orderBy with
    | none => exact .none (by simp)
    | some ts =>
      show Judges _ _ (verifyOrder g scopes _ ts)
      rw [verifyOrder_eq]
      exact .forM fun o ho => horderBy ts hts o ho (List.Subset.trans (Select.records_order hts ho) ht) _ _ h _
  refine (joined.seq (restricted.seq (grouped.seq ordered))).congr fun x => ?_
  rw [clauses_mentions]
  exact or_left_comm

/-- The cases of the induction: the check of a node judges its references if the checks of its parts
judge theirs. -/
theorem judges_cases (hg : g.Closed catalog) (s : Statement) :
    ExprCases (ExprJudged g s) (SelectJudged g s) := by
  refine ⟨?column, ?literal, ?value, ?call, ?epoch, ?binary, ?junction, ?not, ?isNull, ?inList,
    ?subSelect, ?fullText, ?select⟩
  case column | isNull =>
    intro c _ around scopes h place
    refine (verifyReference_judges h place c).congr fun x => ?_
    rw [expr_mentions]
    simp [Item.mention?, Expr.operands, Prod.ext_iff, eq_comm]
  case inList =>
    intro c values _ around scopes h place
    refine (verifyReference_judges h place c).congr fun x => ?_
    rw [expr_mentions]
    simp [Item.mention?, Expr.operands, Prod.ext_iff, eq_comm]
  case fullText =>
    intro record index query _ around scopes h place
    refine (verifyRecord_judges (m := .record record) h Iff.rfl place).congr fun x => ?_
    rw [expr_mentions]
    simp [Item.mention?, Expr.operands, Prod.ext_iff, eq_comm]
  case literal | value =>
    intro _ _ around scopes h place
    refine .none fun x => ?_
    rw [expr_mentions]
    simp [Item.mention?, Expr.operands]
  case epoch | not =>
    intro e ih he around scopes h place
    refine (ih he around scopes h place).congr fun x => ?_
    rw [expr_mentions]
    simp [Item.mention?, Expr.operands]
  case call =>
    intro name args ih hargs around scopes h place
    have records : ∀ a ∈ args, a.records ⊆ g.records := fun a ha =>
      List.Subset.trans (Expr.records_operand (e := .call name args) ha) hargs
    refine (exprs_judges h ih records).congr fun x => ?_
    rw [expr_mentions]
    simp [Item.mention?, Expr.operands]
  case junction =>
    intro op operands ih hoperands around scopes h place
    have records : ∀ a ∈ operands, a.records ⊆ g.records := fun a ha =>
      List.Subset.trans (Expr.records_operand (e := .junction op operands) ha) hoperands
    refine (exprs_judges h ih records).congr fun x => ?_
    rw [expr_mentions]
    simp [Item.mention?, Expr.operands]
  case binary =>
    intro op l r ihl ihr he around scopes h place
    obtain ⟨hl, hr⟩ := List.append_subset.1 he
    refine ((ihl hl around scopes h place).seq (ihr hr around scopes h place)).congr fun x => ?_
    rw [expr_mentions]
    simp [Item.mention?, Expr.operands]
  case subSelect =>
    intro t ih ht around scopes h place
    refine (ih ht around scopes h).congr fun x => ?_
    rw [expr_mentions]
    simp [Item.mention?, Expr.operands]
  case select =>
    intro t hdefinitions hjoins hcondition hgroupBy horderBy ht around outer h
    rw [verifySelect_eq]
    split
    · exact .illFormed rfl
    refine .after (openScope_fails hg ht outer) fun scope hopen => ?_
    have inside : s.Enclosed g (t :: around) (scope :: outer) := .inside h (openScope_holds hopen)
    refine .after (verifyDefinitions_fails (ht t.record_mem_records) t.definitions) fun _ _ => ?_
    have defined : Judges (fun x => s.Visible g x.1 x.2)
        (fun x => ∃ d ∈ t.definitions, Site.Mentions ⟨t :: around, .expr d.expr⟩ x)
        (verifyDefined g (scope :: outer) (.select t.record) t.definitions) := by
      rw [verifyDefined_eq]
      exact .forM fun d hd => hdefinitions d hd
        (List.Subset.trans (Select.records_definition hd) ht) _ _ inside _
    refine (defined.seq (clauses_judges inside _ ht hjoins hcondition hgroupBy horderBy)).congr fun x => ?_
    rw [select_mentions]

end References

/-! ### Statements -/

/-- A select is entered before anything in it is checked. -/
theorem mentions_select {t : Select} {x : PlacedMention} :
    (Statement.select t).Mentions x ↔ Site.Mentions ⟨[t], .select t⟩ x := by
  unfold Statement.Mentions
  rw [Site.mentions_iff, or_iff_right (by rintro ⟨-, hx⟩; cases hx)]
  constructor
  · rintro ⟨_, hpart, hx⟩
    cases hpart
    exact hx
  · exact fun hx => ⟨_, .select, hx⟩

theorem mentions_insert (i : Insert) (x : PlacedMention) : ¬ (Statement.insert i).Mentions x := by
  unfold Statement.Mentions
  rw [Site.mentions_iff]
  rintro (⟨-, hx⟩ | ⟨_, hpart, -⟩)
  · cases hx
  · cases hpart

theorem mentions_update {u : Update} {x : PlacedMention} :
    (Statement.update u).Mentions x ↔
      (∃ a ∈ u.assignments, Site.Mentions ⟨[], .expr a.2⟩ x) ∨
      ∃ c, u.condition = some c ∧ Site.Mentions ⟨[], .condition c⟩ x := by
  unfold Statement.Mentions
  rw [Site.mentions_iff, or_iff_right (by rintro ⟨-, hx⟩; cases hx)]
  constructor
  · rintro ⟨_, hpart, hx⟩
    cases hpart with
    | assignment ha => exact .inl ⟨_, ha, hx⟩
    | update hc => exact .inr ⟨_, hc, hx⟩
  · rintro (⟨a, ha, hx⟩ | ⟨c, hc, hx⟩)
    · exact ⟨_, .assignment ha, hx⟩
    · exact ⟨_, .update hc, hx⟩

theorem mentions_delete {d : Delete} {x : PlacedMention} :
    (Statement.delete d).Mentions x ↔ Site.Mentions ⟨[], .condition d.condition⟩ x := by
  unfold Statement.Mentions
  rw [Site.mentions_iff, or_iff_right (by rintro ⟨-, hx⟩; cases hx)]
  constructor
  · rintro ⟨_, hpart, hx⟩
    cases hpart
    exact hx
  · exact fun hx => ⟨_, .delete, hx⟩

/-- The check of a statement whose records are registered judges all of its references. -/
theorem verify_judges (hg : g.Closed catalog) {s : Statement} (hs : s.records ⊆ g.records) :
    Judges (fun x => s.Visible g x.1 x.2) s.Mentions (verify g s) := by
  have cases := judges_cases hg s
  cases s with
  | select t => exact (cases.select t hs [] [] (.outside rfl)).congr fun x => mentions_select
  | insert i => exact .none (mentions_insert i)
  | update u =>
    have hrecord : u.record ∈ g.records := hs (by simp [Statement.records])
    refine .after (bindRecord_fails hrecord _) fun scope hscope => ?_
    have own : (Statement.update u).Enclosed g [] [scope] := .outside ⟨scope, hscope, rfl⟩
    have assigned : Judges (fun x => (Statement.update u).Visible g x.1 x.2)
        (fun x => ∃ a ∈ u.assignments, Site.Mentions ⟨[], .expr a.2⟩ x)
        (verifyAssignments g [scope] (.update u.record) u.assignments) :=
      .forM fun a ha => cases.expr a.2 (List.Subset.trans (Update.records_assignment ha) hs) _ _ own _
    have restricted := restriction_judges own (.condition (.update u.record)) u.condition
      (fun e _ => cases.expr e) fun c hc => List.Subset.trans (Update.records_restriction hc) hs
    exact (assigned.seq restricted).congr fun x => mentions_update
  | delete d =>
    obtain ⟨hrecord, hcondition⟩ := List.cons_subset.1 hs
    refine .after (bindRecord_fails hrecord _) fun scope hscope => ?_
    have own : (Statement.delete d).Enclosed g [] [scope] := .outside ⟨scope, hscope, rfl⟩
    exact (condition_judges own (fun e _ => cases.expr e) hcondition).congr fun x => mentions_delete

/-- If the records of a statement can be registered and nothing else is wrong with it, its check fails for
a reference if and only if some column, key or full-text match is not visible where it stands, and it is
accepted if and only if all are. The selects that declare something for a reference are those that it
stands inside of. -/
theorem verify_iff_visible {σ σ' : Session} {s : Statement} (hσ : σ.cache.BuiltFrom catalog)
    (hregistered : (Registry.build catalog s.records).runIn σ = (.ok g, σ'))
    (hwell : ∀ e, verify g s = .error e → e.isIllFormed = false) :
    ((∃ e, verify g s = .error e ∧ e.isUnbound = true) ↔
      ∃ x, s.Mentions x ∧ ¬ s.Visible g x.1 x.2) ∧
    (verify g s = .ok () ↔ ∀ x, s.Mentions x → s.Visible g x.1 x.2) ∧
    ∀ x, s.Mentions x → ∀ t ∈ x.1, ∃ outer, Site.Mentions ⟨t :: outer, .select t⟩ x := by
  obtain ⟨closed, hrecords⟩ := build_closed hσ hregistered
  have judges := verify_judges closed hrecords
  refine ⟨judges.unbound_iff hwell, judges.ok_iff hwell, fun x hx t ht => ?_⟩
  exact (hx.inside t ht).resolve_left List.not_mem_nil

/-- Authors with a reviewed novel, in the order of a rating that only the sub-select has joined. -/
def ratedAuthors : Select where
  record := author
  fields := ["id"]
  condition := some (.expr (.exists
    { record := novel
      fields := ["id"]
      joins :=
        [{ record := review
           condition := .binary .eq (.column (.of review "novel")) (.column (.of novel "id")) }]
      condition := some (.expr
        (.binary .eq (.column (.of novel "author")) (.column (.of author "id")))) }))
  orderBy := some [{ expr := .column (.of review "rating"), direction := .ascending }]

/-- What a sub-select joins is not visible outside of it. -/
theorem ratedAuthors_rejected :
    openShop.cache.BuiltFrom bookshop ∧
    ∃ g, (Registry.build bookshop (Statement.select ratedAuthors).records).runIn openShop =
        (.ok g, openShop) ∧
      verify g (.select ratedAuthors) =
        .error (.unboundRecord review (.orderBy (.select author)) none) ∧
      ∃ x, (Statement.select ratedAuthors).Mentions x ∧
        ¬ (Statement.select ratedAuthors).Visible g x.1 x.2 := by
  have hbuild : (Registry.build bookshop (Statement.select ratedAuthors).records).runIn openShop =
      (.ok (shopRegistry (Statement.select ratedAuthors).records), openShop) :=
    build_register (by decide)
  have hverify : verify (shopRegistry (Statement.select ratedAuthors).records) (.select ratedAuthors) =
      .error (.unboundRecord review (.orderBy (.select author)) none) := by
    decide +kernel
  have hwell : ∀ e, verify (shopRegistry (Statement.select ratedAuthors).records)
      (.select ratedAuthors) = .error e → e.isIllFormed = false := by
    intro e he
    cases hverify.symm.trans he
    rfl
  obtain ⟨rejected, -⟩ := verify_iff_visible openShop_built hbuild hwell
  exact ⟨openShop_built, _, hbuild, hverify, rejected.1 ⟨_, hverify, rfl⟩⟩

end RecordSql
