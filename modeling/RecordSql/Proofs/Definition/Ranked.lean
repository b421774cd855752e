import Mathlib.Algebra.GroupWithZero.Nat
import Mathlib.Algebra.Order.BigOperators.Group.List
import Mathlib.Algebra.Order.Group.Nat
import Mathlib.Data.List.Count
import RecordSql.Proofs.Binding.Registered
import RecordSql.Proofs.BoundValue.Checks
import RecordSql.Proofs.Definition.Consulted
import RecordSql.Proofs.Rendering.Settled

/-!
# Definitions that can be ranked

Writing a reference leads to the definition that stands for it, and from there to the references that this
definition mentions. If definitions can be ranked so that each of them mentions only fields whose
definitions rank lower, then this comes to an end: no chain of definitions is longer than there are
definitions in the statement.

- `Statement.definitions`: the definitions of all selects of a statement, with the records they belong to.
- `Statement.Ranked`: each definition mentions only fields whose definitions rank lower.
- `Item.Mentions`: the references that something to write mentions, inside of its sub-selects too.
- `Statement.Below`: sites that mention only fields whose definitions rank below some bound.
- `Statement.Below.definition`: the definition of a reference at such a site has a lower bound.
- `Statement.Below.acc`, `Statement.Below.settles`: every chain of calls ends, within a known depth.
- `ranked_settles`: every statement with ranked definitions is written or fails for another reason.
-/

namespace RecordSql

/-! ### Definitions of a statement -/

/-- The definitions of some selects, with the records they belong to. -/
def definitionsOf (selects : List Select) : List (RecordType × Definition) :=
  selects.flatMap fun s => s.definitions.map (s.record, ·)

/-- The definitions of all selects of a statement. -/
def Statement.definitions (s : Statement) : List (RecordType × Definition) :=
  definitionsOf s.selects

@[simp] theorem definitionsOf_nil : definitionsOf [] = [] := rfl

theorem definitionsOf_cons (s : Select) (selects : List Select) :
    definitionsOf (s :: selects) = s.definitions.map (s.record, ·) ++ definitionsOf selects :=
  List.flatMap_cons

@[simp] theorem definitionsOf_append (selects others : List Select) :
    definitionsOf (selects ++ others) = definitionsOf selects ++ definitionsOf others :=
  List.flatMap_append

theorem mem_definitionsOf {selects : List Select} {s : Select} {d : Definition} (hs : s ∈ selects)
    (hd : d ∈ s.definitions) : (s.record, d) ∈ definitionsOf selects :=
  List.mem_flatMap.2 ⟨s, hs, List.mem_map_of_mem hd⟩

mutual

/-- Definitions are counted as they are listed. -/
theorem Expr.definitions_length : ∀ e : Expr, (definitionsOf e.selects).length = e.definitionCount
  | .column _ | .literal _ | .value _ | .isNull _ | .inList _ _ | .fullText _ _ _ => rfl
  | .call _ args => exprsDefinitions_length args
  | .epoch e | .not e => e.definitions_length
  | .binary _ l r => by
    simp [Expr.selects, Expr.definitionCount, l.definitions_length, r.definitions_length]
  | .junction _ operands => exprsDefinitions_length operands
  | .exists s => s.definitions_length

theorem exprsDefinitions_length : ∀ es : List Expr,
    (definitionsOf (exprsSelects es)).length = exprsDefinitionCount es
  | [] => rfl
  | e :: es => by
    simp [exprsSelects, exprsDefinitionCount, e.definitions_length, exprsDefinitions_length es]

theorem Condition.definitions_length : ∀ c : Condition,
    (definitionsOf c.selects).length = c.definitionCount
  | .expr e => e.definitions_length
  | .key _ | .multiKey _ => rfl

theorem joinsDefinitions_length : ∀ js : List Join,
    (definitionsOf (joinsSelects js)).length = joinsDefinitionCount js
  | [] => rfl
  | ⟨_, condition, _, _⟩ :: js => by
    simp [joinsSelects, joinsDefinitionCount, condition.definitions_length, joinsDefinitions_length js]

theorem orderDefinitions_length : ∀ ts : List OrderTerm,
    (definitionsOf (orderSelects ts)).length = orderDefinitionCount ts
  | [] => rfl
  | ⟨e, _⟩ :: ts => by
    simp [orderSelects, orderDefinitionCount, e.definitions_length, orderDefinitions_length ts]

theorem definitionsDefinitions_length : ∀ ds : List Definition,
    ds.length + (definitionsOf (definitionsSelects ds)).length = definitionsCount ds
  | [] => rfl
  | ⟨_, e, _⟩ :: ds => by
    have := definitionsDefinitions_length ds
    simp [definitionsSelects, definitionsCount, e.definitions_length]
    omega

theorem whereDefinitions_length : ∀ c : Option Condition,
    (definitionsOf (whereSelects c)).length = conditionDefinitionCount c
  | some c => c.definitions_length
  | none => rfl

theorem groupsDefinitions_length : ∀ g : Option (List Expr),
    (definitionsOf (groupsSelects g)).length = groupsDefinitionCount g
  | some es => exprsDefinitions_length es
  | none => rfl

theorem ordersDefinitions_length : ∀ o : Option (List OrderTerm),
    (definitionsOf (ordersSelects o)).length = ordersDefinitionCount o
  | some ts => orderDefinitions_length ts
  | none => rfl

theorem Select.definitions_length : ∀ s : Select,
    (definitionsOf (s :: s.nested)).length = s.definitionCount
  | ⟨record, fields, sources, joins, condition, groupBy, orderBy, limit, forUpdate, definitions⟩ => by
    have own := definitionsDefinitions_length definitions
    have joined := joinsDefinitions_length joins
    have restriction := whereDefinitions_length condition
    have groups := groupsDefinitions_length groupBy
    have order := ordersDefinitions_length orderBy
    rw [Select.definitionCount_eq]
    simp only [definitionsOf_cons, definitionsOf_append, List.length_append, List.length_map,
      Select.nested]
    omega

end

theorem Statement.definitions_length (s : Statement) : s.definitions.length = s.definitionCount := by
  cases s with
  | select t => exact t.definitions_length
  | insert i => rfl
  | delete d => exact d.condition.definitions_length
  | update u =>
    have assigned : u.assignments.flatMap (fun a => a.2.selects) =
        exprsSelects (u.assignments.map (·.2)) := by
      rw [exprsSelects_eq, List.flatMap_map]
    show (definitionsOf (u.assignments.flatMap (fun a => a.2.selects) ++ whereSelects u.condition)).length = _
    rw [assigned, definitionsOf_append, List.length_append, exprsDefinitions_length,
      whereDefinitions_length]
    rfl

/-! ### Ranks -/

/-- A definition that may stand for a reference: one of its record and field, and no override where
overrides do not apply. -/
structure StandsFor (p : RecordType × Definition) (use : ColumnUse) (c : FieldRef) : Prop where
  record : c.record = some p.1
  field : p.2.field = c.field
  applies : p.2.applies use = true

/-- What a definition mentions, in its sub-selects and their definitions too, are fields whose
definitions rank lower. -/
def Statement.Ranked (g : Registry) (s : Statement) (rank : RecordType × Definition → Nat) : Prop :=
  ∀ p ∈ s.definitions, ∀ o ∈ p.2.expr.occurrences, ∀ use c, o.Names g use c →
    ∀ q ∈ s.definitions, StandsFor q use c → rank q < rank p

/-- The definition that a reference is replaced by may stand for it. -/
theorem Frame.standsFor_applied {f : Frame} {around : List Select} {use : ColumnUse} {c : FieldRef}
    {d : Definition} (hf : f.selects = []) (h : (f.within around).applied? use c = some d) :
    ∃ t ∈ around, d ∈ t.definitions ∧ StandsFor (t.record, d) use c := by
  obtain ⟨t, ht, hr, hd, hfield⟩ := applied?_within hf h
  obtain ⟨r, -, hfilter⟩ := Option.bind_eq_some_iff.1 h
  exact ⟨t, ht, hd, hr, hfield, (Option.filter_eq_some_iff.1 hfilter).2⟩

/-! ### Mentioned references -/

/-- The references that something to write mentions, in its sub-selects and their definitions too. -/
def Item.Mentions (g : Registry) (use : ColumnUse) (c : FieldRef) : Item → Prop
  | .statement _ => True
  | .select s => ∃ o ∈ s.occurrences, o.Names g use c
  | .condition k => ∃ o ∈ k.occurrences, o.Names g use c
  | .expr e => ∃ o ∈ e.occurrences, o.Names g use c
  | .reference use' c' => use' = use ∧ c' = c

theorem Expr.occurrences_operand {e a : Expr} (h : a ∈ e.operands) : a.occurrences ⊆ e.occurrences := by
  intro o ho
  cases e with
  | call _ es | junction _ es =>
    show o ∈ exprsOccurrences es
    rw [exprsOccurrences_eq]
    exact List.mem_flatMap_of_mem h ho
  | epoch | not =>
    cases List.mem_singleton.1 h
    exact ho
  | binary op l r =>
    obtain rfl | h := List.mem_cons.1 h
    · exact List.mem_append_left _ ho
    · cases List.mem_singleton.1 h
      exact List.mem_append_right _ ho
  | column | literal | value | isNull | inList | «exists» | fullText => cases h

theorem Select.occurrences_clause {s : Select} {e : Expr} (h : e ∈ s.clauses) :
    e.occurrences ⊆ s.occurrences := by
  intro o ho
  rw [occurrences_eq]
  simp only [List.mem_cons, List.mem_append, List.mem_flatMap, Option.mem_toList]
  obtain hjoined | hordered := List.mem_append.1 h
  · obtain hjoin | hgroup := List.mem_append.1 hjoined
    · obtain ⟨j, hj, rfl⟩ := List.mem_map.1 hjoin
      exact .inr (.inr (.inl ⟨j, hj, ho⟩))
    · cases hs : s.groupBy with
      | none => simp [hs] at hgroup
      | some es =>
        rw [hs] at hgroup
        exact .inr (.inr (.inr (.inr (.inl ⟨es, rfl, e, hgroup, ho⟩))))
  · cases hs : s.orderBy with
    | none => simp [hs] at hordered
    | some ts =>
      rw [hs] at hordered
      obtain ⟨t, ht, rfl⟩ := List.mem_map.1 hordered
      exact .inr (.inr (.inr (.inr (.inr ⟨ts, rfl, t, ht, ho⟩))))

/-- Whatever is mentioned after a step has been mentioned before, unless the step leads to the definition
of a reference. -/
theorem Frame.Leads.mentions {f : Frame} {p q : Site} (h : f.Leads p q)
    (hp : ∀ use c, p.item ≠ .reference use c) {use : ColumnUse} {c : FieldRef}
    (hq : q.item.Mentions f.registry use c) : p.item.Mentions f.registry use c := by
  have sub : ∀ {os os' : List Occurrence}, os ⊆ os' → (∃ o ∈ os, o.Names f.registry use c) →
      ∃ o ∈ os', o.Names f.registry use c := fun hsub ⟨o, ho, hnames⟩ => ⟨o, hsub ho, hnames⟩
  cases h with
  | select | assignment | update | delete => trivial
  | @projection around s name hname =>
    obtain ⟨rfl, rfl⟩ := hq
    refine ⟨.projection s.record s.fields, ?_, .projection hname⟩
    rw [Select.occurrences_eq]
    exact List.mem_cons_self
  | @restriction around s k hk =>
    refine sub (fun o ho => ?_) hq
    rw [Select.occurrences_eq]
    simp only [List.mem_cons, List.mem_append, List.mem_flatMap, Option.mem_toList]
    exact .inr (.inr (.inr (.inl ⟨k, hk, ho⟩)))
  | clause he => exact sub (Select.occurrences_clause he) hq
  | condition | subSelect => exact hq
  | key hname | multiKey hname =>
    obtain ⟨rfl, rfl⟩ := hq
    exact ⟨_, List.mem_singleton_self _, .key hname⟩
  | operand ha => exact sub (Expr.occurrences_operand ha) hq
  | @reference around e c' hc =>
    obtain ⟨rfl, rfl⟩ := hq
    cases e with
    | column =>
      cases hc
      exact ⟨_, List.mem_singleton_self _, .column⟩
    | isNull | inList =>
      cases hc
      exact ⟨_, List.mem_singleton_self _, .reference⟩
    | _ => cases hc
  | definition => exact absurd rfl (hp _ _)

/-! ### Bounds -/

/-- A site inside of a statement that mentions only fields whose definitions rank below a bound. -/
structure Statement.Below (g : Registry) (s : Statement) (rank : RecordType × Definition → Nat)
    (bound : Nat) (p : Site) : Prop where
  selects : (∀ t ∈ p.around, t :: t.nested ⊆ s.selects) ∧ p.item.selects ⊆ s.selects
  ranks : ∀ use c, p.item.Mentions g use c → ∀ q ∈ s.definitions, StandsFor q use c → rank q < bound

namespace Statement.Below

variable {g : Registry} {s : Statement} {rank : RecordType × Definition → Nat} {bound : Nat} {f : Frame}
  {p q : Site}

/-- A step that does not lead to a definition keeps the bound. -/
theorem leads (hf : f.selects = []) (hg : f.registry = g) (h : s.Below g rank bound p)
    (hpq : f.Leads p q) (hp : ∀ use c, p.item ≠ .reference use c) : s.Below g rank bound q where
  selects := hpq.selects_subset hf h.selects
  ranks use c hc := h.ranks use c (hg ▸ hpq.mentions hp (hg.symm ▸ hc))

/-- A step that leads to a definition lowers the bound to its rank. -/
theorem definition (hf : f.selects = []) (hrank : s.Ranked g rank) {around : List Select}
    {use : ColumnUse} {c : FieldRef} {d : Definition}
    (h : s.Below g rank bound ⟨around, .reference use c⟩)
    (hd : (f.within around).applied? use c = some d) :
    ∃ p ∈ s.definitions, rank p < bound ∧ s.Below g rank (rank p) ⟨around, .expr d.expr⟩ := by
  obtain ⟨t, ht, hmem, hstands⟩ := Frame.standsFor_applied hf hd
  have hdefinition : (t.record, d) ∈ s.definitions :=
    mem_definitionsOf (h.selects.1 t ht List.mem_cons_self) hmem
  refine ⟨(t.record, d), hdefinition, h.ranks use c ⟨rfl, rfl⟩ _ hdefinition hstands, ?_, ?_⟩
  · exact (Frame.Leads.definition hd).selects_subset hf h.selects
  · rintro use' c' ⟨o, ho, hnames⟩ q hq hq'
    exact hrank _ hdefinition o ho use' c' hnames q hq hq'

/-- No chain of calls goes on forever: a definition that is entered ranks lower than all that has been
entered before, and between two definitions what is written gets smaller. -/
theorem acc (hf : f.selects = []) (hg : f.registry = g) (hrank : s.Ranked g rank) :
    ∀ p, s.Below g rank bound p → Acc (fun q p => f.Leads p q) p := by
  induction bound using Nat.strong_induction_on with
  | _ bound ih =>
    have reference : ∀ {around use c}, s.Below g rank bound ⟨around, .reference use c⟩ →
        Acc (fun q p => f.Leads p q) ⟨around, .reference use c⟩ := by
      intro around use c h
      refine .intro _ fun q hpq => ?_
      cases hpq with
      | definition hd =>
        obtain ⟨p, -, hlt, hbelow⟩ := h.definition hf hrank hd
        exact ih (rank p) hlt _ hbelow
    have restriction : ∀ {around c}, s.Below g rank bound ⟨around, .condition c⟩ →
        (∀ e, c = .expr e → s.Below g rank bound ⟨around, .expr e⟩ →
          Acc (fun q p => f.Leads p q) ⟨around, .expr e⟩) →
        Acc (fun q p => f.Leads p q) ⟨around, .condition c⟩ := by
      intro around c h he
      refine .intro _ fun q hpq => ?_
      have hq := h.leads hf hg hpq fun _ _ => nofun
      cases hpq with
      | condition => exact he _ rfl hq
      | key hname | multiKey hname => exact reference hq
    have parts : ExprCases
        (fun e => ∀ around, s.Below g rank bound ⟨around, .expr e⟩ →
          Acc (fun q p => f.Leads p q) ⟨around, .expr e⟩)
        (fun t => ∀ around, s.Below g rank bound ⟨around, .select t⟩ →
          Acc (fun q p => f.Leads p q) ⟨around, .select t⟩) := by
      refine .ofOperands ?operator ?clauses
      case operator =>
        intro e hoperands hsub around h
        refine .intro _ fun q hpq => ?_
        have hq := h.leads hf hg hpq fun _ _ => nofun
        cases hpq with
        | operand ha => exact hoperands _ ha around hq
        | reference hc => exact reference hq
        | subSelect => exact hsub _ rfl _ hq
      case clauses =>
        intro t _ hclauses hcondition around h
        refine .intro _ fun q hpq => ?_
        have hq := h.leads hf hg hpq fun _ _ => nofun
        cases hpq with
        | projection hname => exact reference hq
        | restriction hc => exact restriction hq fun e he => hcondition e (hc.trans (congrArg some he)) around
        | clause he => exact hclauses _ he around hq
    rintro ⟨around, item⟩ h
    cases item with
    | reference use c => exact reference h
    | condition c => exact restriction h fun e _ => parts.expr e around
    | expr e => exact parts.expr e around h
    | select t => exact parts.select t around h
    | statement t =>
      refine .intro _ fun q hpq => ?_
      have hq := h.leads hf hg hpq fun _ _ => nofun
      cases hpq with
      | select => exact parts.select _ _ hq
      | assignment ha => exact parts.expr _ _ hq
      | update hc => exact restriction hq fun e _ => parts.expr e _
      | delete => exact restriction hq fun e _ => parts.expr e _

/-- The definitions that rank below one of them are fewer than those that rank below a bound above it. -/
theorem countP_rank_lt {l : List (RecordType × Definition)} {p : RecordType × Definition} (hp : p ∈ l)
    (hlt : rank p < bound) : l.countP (rank · < rank p) < l.countP (rank · < bound) := by
  have hfewer : (l.filter (rank · < bound)).countP (rank · < rank p) < (l.filter (rank · < bound)).length :=
    List.countP_lt_length_iff.2 ⟨p, List.mem_filter.2 ⟨hp, by simpa using hlt⟩, by simp⟩
  have hsame : (l.filter (rank · < bound)).countP (rank · < rank p) = l.countP (rank · < rank p) := by
    rw [List.countP_filter]
    refine List.countP_congr fun q _ => ?_
    simp only [Bool.and_eq_true, decide_eq_true_eq]
    omega
  rw [hsame, ← List.countP_eq_length_filter] at hfewer
  exact hfewer

/-- As many definitions as rank below the bound are as deep as definitions are nested. -/
theorem unwinds (hf : f.selects = []) (hg : f.registry = g) (hrank : s.Ranked g rank) (n : Nat) :
    ∀ bound, s.definitions.countP (rank · < bound) ≤ n →
      f.Settled (expandWith n) (s.Below g rank bound) := by
  induction n with
  | zero =>
    intro bound hn
    refine ⟨fun _ he => he, fun h hpq hp => h.leads hf hg hpq hp, fun h hd => ?_⟩
    obtain ⟨p, hp, hlt, -⟩ := h.definition hf hrank hd
    have := countP_rank_lt hp hlt
    omega
  | succ n ih =>
    intro bound hn
    refine ⟨fun _ he => he, fun h hpq hp => h.leads hf hg hpq hp, fun h hd => ?_⟩
    obtain ⟨p, hp, hlt, hbelow⟩ := h.definition hf hrank hd
    have := countP_rank_lt hp hlt
    exact (ih (rank p) (by omega)).expr_concurs hbelow

end Statement.Below

/-- Below a bound that all ranks stay under, all sites of the statement are. -/
theorem Statement.Reaches.bounded {g : Registry} {s : Statement} {f : Frame} {p : Site}
    (hf : f.selects = []) (h : s.Reaches f p) (rank : RecordType × Definition → Nat) :
    s.Below g rank ((s.definitions.map rank).sum + 1) p where
  selects := h.selects hf
  ranks _ _ _ q hq _ := by
    have := List.le_sum_of_mem (List.mem_map_of_mem hq (f := rank))
    omega

/-! ### Compiled statements -/

/-- The checks of a statement do not look into definitions of definitions. -/
theorem verify_settles {catalog : Catalog} {g : Registry} (hg : g.Closed catalog) {s : Statement}
    (hs : s.records ⊆ g.records) : Settles (verify g s) := by
  intro h
  have judges := verify_judges hg hs
  rw [h] at judges
  cases judges with
  | rejects he | illFormed he => cases he

theorem le_expansionDepth (n : Nat) : n ≤ expansionDepth n :=
  Nat.le_succ_of_le (Nat.le_mul_of_pos_right n (Nat.two_pow_pos n))

/-- If the definitions of a statement can be ranked, its writing comes to an end: no chain of calls from a
select to its clauses, from an expression to its operands and from a reference to its definition goes on
forever. Every expression that the writing comes by is written or fails, and substituting as deep as there
are definitions in the statement is enough for that. So the statement is written, or fails for another
reason than a circle of definitions. -/
theorem ranked_settles {g : Registry} {s : Statement} {rank : RecordType × Definition → Nat}
    (h : s.Ranked g rank) :
    (∀ dialect p, s.Reaches (s.frame dialect g) p →
      Acc (fun q p => (s.frame dialect g).Leads p q) p ∧
      ∀ e, p.item = .expr e → ∃ x, ((s.frame dialect g).within p.around).Rendering e x ∧
        ∀ n, s.definitions.length ≤ n →
          exprPieces (expandWith n) ((s.frame dialect g).within p.around) e = x) ∧
    (∀ dialect, Settles (statementPieces dialect g s)) ∧
    ∀ catalog options σ σ', σ.cache.BuiltFrom catalog →
      (Registry.build catalog s.records).runIn σ = (.ok g, σ') →
      ((compile catalog options s).runIn σ).1 ≠ .error .circularDefinition := by
  have unwinds : ∀ dialect n, s.definitions.length ≤ n →
      (s.frame dialect g).Settled (expandWith n) (s.Below g rank ((s.definitions.map rank).sum + 1)) :=
    fun dialect n hn => Statement.Below.unwinds (s.frame_selects dialect g) (s.frame_registry dialect g) h n _
      (Nat.le_trans List.countP_le_length hn)
  have pieces : ∀ dialect, Settles (statementPieces dialect g s) := by
    intro dialect
    refine statement_settles (unwinds dialect _ ?_)
      (Statement.Reaches.start.bounded (s.frame_selects dialect g) rank)
    rw [s.definitions_length]
    exact le_expansionDepth _
  refine ⟨fun dialect p hp => ?_, pieces, fun catalog options σ σ' hσ hg => ?_⟩
  · have hbelow := hp.bounded (g := g) (s.frame_selects dialect g) rank
    refine ⟨hbelow.acc (s.frame_selects dialect g) (s.frame_registry dialect g) h, ?_⟩
    rintro e he
    obtain ⟨around, item⟩ := p
    subst he
    have settled : ∀ n, s.definitions.length ≤ n →
        Settles (exprPieces (expandWith n) ((s.frame dialect g).within around) e) :=
      fun n hn => (unwinds dialect n hn).expr_settles hbelow
    refine ⟨_, ⟨settled _ (Nat.le_refl _), _, rfl⟩, fun n hn => ?_⟩
    exact Frame.Rendering.unique ⟨settled n hn, n, rfl⟩ ⟨settled _ (Nat.le_refl _), _, rfl⟩
  · obtain ⟨closed, hrecords⟩ := build_closed hσ hg
    rw [compile_result, hg]
    have checked : Settles (checkedPieces options.dialect g s) :=
      (verify_settles closed hrecords).bind fun _ _ => pieces options.dialect
    exact checked.map

/-- A definition that mentions its own field can not be ranked, and its statement is not written. -/
example :
    statementPieces .mySql (shopRegistry [novel])
      (.select
        { record := novel
          fields := ["price"]
          definitions := [⟨"price", .column (.of novel "price"), .definition⟩] }) =
      .error .circularDefinition := rfl

/-- A raised number in place of that of a novel. -/
def raisedNovel : Definition where
  field := "id"
  expr := .binary .add (.column (.of novel "id")) (.value (.integer 5))
  kind := .override

/-- A price that asks for reviews where the novel has a certain number. -/
def quotedPrice : Definition where
  field := "price"
  expr := .exists
    { record := review
      fields := ["id"]
      condition := some (.key ⟨novel, [("id", .integer 7)]⟩) }
  kind := .definition

/-- Novels with a price that depends on their raised number. -/
def quotedNovels : Select where
  record := novel
  fields := ["price", "id"]
  definitions := [raisedNovel, quotedPrice]

theorem mem_quotedNovels {p : RecordType × Definition}
    (hp : p ∈ (Statement.select quotedNovels).definitions) :
    p = (novel, raisedNovel) ∨ p = (novel, quotedPrice) := by
  have hall : (Statement.select quotedNovels).definitions = [(novel, raisedNovel), (novel, quotedPrice)] :=
    rfl
  simpa [hall] using hp

/-- The override mentions its own field, but not where it would stand for it; the definition mentions the
field in a key of its sub-select, where the override does. -/
theorem quotedNovels_ranked : (Statement.select quotedNovels).Ranked (shopRegistry [novel, review])
    (fun p => if p.2.field = "price" then 1 else 0) := by
  intro p hp o ho use c hnames q hq hstands
  obtain rfl | rfl := mem_quotedNovels hp
  · obtain rfl : o = .column (.of novel "id") := List.mem_singleton.1 ho
    cases hnames
    obtain rfl | rfl := mem_quotedNovels hq
    · exact absurd hstands.applies (by decide)
    · exact absurd hstands.field (by decide)
  · have hplaces : quotedPrice.expr.occurrences = [.projection review ["id"], .key novel] := rfl
    rw [hplaces] at ho
    obtain rfl | ho := List.mem_cons.1 ho
    · have hother : some review ≠ some novel := by decide
      cases hnames
      obtain rfl | rfl := mem_quotedNovels hq
      · exact absurd hstands.record hother
      · exact absurd hstands.record hother
    · obtain rfl := List.mem_singleton.1 ho
      cases hnames with
      | key hname =>
        obtain rfl := List.mem_singleton.1 hname
        obtain rfl | rfl := mem_quotedNovels hq
        · decide
        · exact absurd hstands.field (by decide)

theorem quotedNovels_settle :
    (Statement.select quotedNovels).Ranked (shopRegistry [novel, review])
      (fun p => if p.2.field = "price" then 1 else 0) ∧
    (Registry.build bookshop (Statement.select quotedNovels).records).runIn openShop =
      (.ok (shopRegistry [novel, review]), openShop) ∧
    ((compile bookshop {} (.select quotedNovels)).runIn openShop).1 ≠ .error .circularDefinition ∧
    ∃ x, (((Statement.select quotedNovels).frame .mySql (shopRegistry [novel, review])).within
        [quotedNovels]).Rendering quotedPrice.expr x ∧
      x.map (layout .mySql .compact) =
        .ok "exists (select t1.id from reviews as t1 where t0.id + ? = ?)" := by
  have hbuild : (Registry.build bookshop (Statement.select quotedNovels).records).runIn openShop =
      (.ok (shopRegistry [novel, review]), openShop) := build_register (by decide)
  obtain ⟨hsites, -, hcompile⟩ := ranked_settles quotedNovels_ranked
  refine ⟨quotedNovels_ranked, hbuild, hcompile _ _ _ _ openShop_built hbuild, ?_⟩
  have hprojected : "price" ∈ (shopRegistry [novel, review]).projected novel quotedNovels.fields := by
    decide
  have hprice : (Statement.select quotedNovels).Reaches
      ((Statement.select quotedNovels).frame .mySql (shopRegistry [novel, review]))
      ⟨[quotedNovels], .expr quotedPrice.expr⟩ :=
    .step (.step (.step .start .select) (.projection hprojected)) (.definition rfl)
  obtain ⟨x, hx, hdeep⟩ := (hsites .mySql _ hprice).2 _ rfl
  refine ⟨x, hx, ?_⟩
  rw [← hdeep 2 (by decide)]
  decide +kernel

end RecordSql
