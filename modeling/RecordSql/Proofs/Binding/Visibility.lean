import Mathlib.Data.List.Nodup
import Mathlib.Logic.Relation
import RecordSql.Proofs.Binding.Verified

/-!
# What is visible where

A column, a key or a full-text match refers to a record from where it stands: inside of the selects that
have to be entered to get there, and of the statement around them. What it may refer to is what these
declare; a select that is not entered on the way declares nothing for it.

- `Site.Part`, `Site.Mentions`: the references in a part of a statement, with the selects around each.
- `Statement.Visible`: a reference is visible inside of some selects.
- `Scope.Holds`: a scope that holds what a select declares.
- `openScope_holds`: so does the scope that a select opens.
- `Statement.Enclosed.binds_iff`, `Statement.Enclosed.alias?_iff`: scopes hold what is visible.
-/

namespace RecordSql

/-! ### References of a statement -/

/-- A reference: a column, or the record of a key or of a full-text match. -/
inductive Mention
  | column (c : FieldRef)
  | record (r : RecordType)

/-- What something to check refers to itself. -/
def Item.mention? : Item → Option Mention
  | .expr (.column c) | .expr (.isNull c) | .expr (.inList c _) => some (.column c)
  | .expr (.fullText r _ _) => some (.record r)
  | .condition (.key k) => some (.record k.record)
  | .condition (.multiKey k) => some (.record k.record)
  | _ => none

/-- What stands directly inside of something; the selects that are entered stand around it. -/
inductive Site.Part : Site → Site → Prop
  | select {around s} : Part ⟨around, .statement (.select s)⟩ ⟨s :: around, .select s⟩
  | assignment {around u a} : a ∈ u.assignments →
      Part ⟨around, .statement (.update u)⟩ ⟨around, .expr a.2⟩
  | update {around u c} : u.condition = some c →
      Part ⟨around, .statement (.update u)⟩ ⟨around, .condition c⟩
  | delete {around d} : Part ⟨around, .statement (.delete d)⟩ ⟨around, .condition d.condition⟩
  | definition {around s d} : d ∈ s.definitions → Part ⟨around, .select s⟩ ⟨around, .expr d.expr⟩
  | restriction {around s c} : s.condition = some c → Part ⟨around, .select s⟩ ⟨around, .condition c⟩
  | clause {around s e} : e ∈ s.clauses → Part ⟨around, .select s⟩ ⟨around, .expr e⟩
  | condition {around e} : Part ⟨around, .condition (.expr e)⟩ ⟨around, .expr e⟩
  | operand {around e a} : a ∈ e.operands → Part ⟨around, .expr e⟩ ⟨around, .expr a⟩
  | subSelect {around s} : Part ⟨around, .expr (.exists s)⟩ ⟨s :: around, .select s⟩

/-- A reference with the selects around it, the innermost first. -/
abbrev PlacedMention := List Select × Mention

/-- The references at a site and in all that stands inside of it. -/
def Site.Mentions (p : Site) (x : PlacedMention) : Prop :=
  ∃ q, Relation.ReflTransGen Site.Part p q ∧ q.around = x.1 ∧ q.item.mention? = some x.2

/-- The references of a statement. -/
def Statement.Mentions (s : Statement) (x : PlacedMention) : Prop :=
  Site.Mentions ⟨[], .statement s⟩ x

/-- A reference in something is its own one, or one in what stands directly inside of it. -/
theorem Site.mentions_iff {p : Site} {x : PlacedMention} :
    p.Mentions x ↔
      (p.around = x.1 ∧ p.item.mention? = some x.2) ∨ ∃ q, Site.Part p q ∧ q.Mentions x := by
  constructor
  · rintro ⟨q, hq, hx⟩
    rcases Relation.ReflTransGen.cases_head hq with rfl | ⟨next, hnext, hrest⟩
    · exact .inl hx
    · exact .inr ⟨next, hnext, q, hrest, hx⟩
  · rintro (hx | ⟨q, hq, last, hlast, hx⟩)
    · exact ⟨p, .refl, hx⟩
    · exact ⟨last, .head hq hlast, hx⟩

/-- A step to a part keeps the selects around, or it enters the select that it leads to. -/
theorem Site.Part.around {p q : Site} (h : Site.Part p q) :
    q.around = p.around ∨ ∃ t, q = ⟨t :: p.around, .select t⟩ := by
  cases h with
  | select | subSelect => exact .inr ⟨_, rfl⟩
  | _ => exact .inl rfl

/-- The selects around a reference are those that it stands inside of. -/
theorem Site.Mentions.inside {p : Site} {x : PlacedMention} (h : p.Mentions x) :
    ∀ t ∈ x.1, t ∈ p.around ∨ ∃ outer, Site.Mentions ⟨t :: outer, .select t⟩ x := by
  obtain ⟨q, hpath, haround, hmention⟩ := h
  induction hpath using Relation.ReflTransGen.head_induction_on with
  | refl =>
    intro t ht
    rw [← haround] at ht
    exact .inl ht
  | @head p next hpart hrest ih =>
    intro t ht
    obtain hnext | hinside := ih t ht
    · obtain hsame | ⟨entered, rfl⟩ := hpart.around
      · exact .inl (hsame ▸ hnext)
      · obtain rfl | hp := List.mem_cons.1 hnext
        · exact .inr ⟨_, q, hrest, haround, hmention⟩
        · exact .inl hp
    · exact .inr hinside

/-! ### Visible references -/

/-- The record, or the one that it shadows as a whole. -/
def Registry.Covers (g : Registry) (q r : RecordType) : Prop :=
  r = q ∨ ∃ schema, g.schema q = .ok schema ∧ schema.shadowOf = some r

/-- The records that a select declares by themselves: its own, those that it reads instead, and those of
joins without alias. -/
def Select.Names (t : Select) (q : RecordType) : Prop :=
  q = t.record ∨ q ∈ t.sources.getD [] ∨ ∃ j ∈ t.joins, j.tableAlias = none ∧ j.record = q

/-- A select declares an alias for a record. -/
def Select.Declares (t : Select) (a : String) (r : RecordType) : Prop :=
  ∃ j ∈ t.joins, j.tableAlias = some a ∧ j.record = r

/-- The record that a statement writes to. -/
def Statement.written? : Statement → Option RecordType
  | .update u => some u.record
  | .delete d => some d.record
  | .select _ | .insert _ => none

/-- A record is visible inside of some selects if one of them declares it or a record that shadows it, or
if the statement writes to one of these. -/
def Statement.SeesRecord (g : Registry) (s : Statement) (around : List Select) (r : RecordType) : Prop :=
  (∃ t ∈ around, ∃ q, t.Names q ∧ g.Covers q r) ∨ ∃ q, s.written? = some q ∧ g.Covers q r

/-- An alias is declared by the selects around, and for one record only. -/
def SeesAlias (around : List Select) (a : String) (r : RecordType) : Prop :=
  (∃ t ∈ around, t.Declares a r) ∧ ∀ t ∈ around, ∀ q, t.Declares a q → q = r

/-- A reference is visible inside of some selects: a qualified column by its alias, any other one by its
record. A column without record is free. -/
def Statement.Visible (g : Registry) (s : Statement) (around : List Select) : Mention → Prop
  | .record r => s.SeesRecord g around r
  | .column c => ∀ r, c.record = some r →
      match c.qualifier with
      | none => s.SeesRecord g around r
      | some a => SeesAlias around a r

/-! ### Scopes that hold what is declared -/

variable {g : Registry} {outer : Scopes} {place : Place} {scope scope' : Scope} {r : RecordType}

theorem bindRecord_records (h : bindRecord g scope r = .ok scope') :
    (∀ q, q ∈ scope'.records ↔ q ∈ scope.records ∨ g.Covers r q) ∧ scope'.aliases = scope.aliases := by
  obtain ⟨schema, hschema, rfl⟩ := bindRecord_eq_ok h
  refine ⟨fun q => ?_, rfl⟩
  have hcovers : g.Covers r q ↔ q = r ∨ schema.shadowOf = some q := by
    refine or_congr_right ⟨?_, fun hq => ⟨schema, hschema, hq⟩⟩
    rintro ⟨schema', hschema', hq⟩
    cases hschema.symm.trans hschema'
    exact hq
  rw [hcovers, List.mem_append, List.mem_cons, Option.mem_toList]

theorem claimTable_records (h : claimTable g outer place scope r = .ok scope') :
    scope'.records = scope.records ∧ scope'.aliases = scope.aliases := by
  obtain ⟨_, -, -, rfl⟩ := claimTable_eq_ok h
  exact ⟨rfl, rfl⟩

theorem bindSource_records (h : bindSource g outer place scope r = .ok scope') :
    (∀ q, q ∈ scope'.records ↔ q ∈ scope.records ∨ g.Covers r q) ∧ scope'.aliases = scope.aliases := by
  obtain ⟨bound, hbound, h⟩ := bind_eq_ok h
  obtain ⟨hrecords, haliases⟩ := bindRecord_records hbound
  obtain ⟨hsame, hsameAliases⟩ := claimTable_records h
  exact ⟨fun q => by rw [hsame, hrecords], hsameAliases.trans haliases⟩

/-- Sources declare their records and no aliases. -/
theorem sources_records : ∀ {rs : List RecordType} {scope scope' : Scope},
    rs.foldlM (bindSource g outer place) scope = .ok scope' →
    (∀ q, q ∈ scope'.records ↔ q ∈ scope.records ∨ ∃ r ∈ rs, g.Covers r q) ∧
      scope'.aliases = scope.aliases
  | [], _, _, h => by
    cases h
    simp
  | r :: rs, scope, scope', h => by
    rw [List.foldlM_cons] at h
    obtain ⟨next, hnext, h⟩ := bind_eq_ok h
    obtain ⟨hfirst, hfirstAliases⟩ := bindSource_records hnext
    obtain ⟨hrest, hrestAliases⟩ := sources_records h
    refine ⟨fun q => ?_, hrestAliases.trans hfirstAliases⟩
    rw [hrest, hfirst, List.exists_mem_cons_iff, or_assoc]

/-- The aliases of joins with the records that they stand for. -/
def aliasesOf (js : List Join) : List (String × RecordType) :=
  js.filterMap fun j => j.tableAlias.map (·, j.record)

theorem mem_aliasesOf {js : List Join} {a : String} {r : RecordType} :
    (a, r) ∈ aliasesOf js ↔ ∃ j ∈ js, j.tableAlias = some a ∧ j.record = r := by
  simp [aliasesOf, List.mem_filterMap]

/-- Aliases that are told apart from each other and from those around. -/
def Unshared (outer : Scopes) (aliases : List (String × RecordType)) : Prop :=
  (aliases.map (·.1)).Nodup ∧ ∀ p ∈ aliases, outer.alias? p.1 = none

/-- An alias that is told apart stands for one record. -/
theorem Unshared.record_eq {aliases : List (String × RecordType)} {a : String} {q r : RecordType}
    (h : Unshared outer aliases) (hq : (a, q) ∈ aliases) (hr : (a, r) ∈ aliases) : q = r := by
  have hinj := List.inj_on_of_nodup_map h.1 hq hr rfl
  exact congrArg Prod.snd hinj

theorem Unshared.concat {aliases : List (String × RecordType)} {a : String} (h : Unshared outer aliases)
    (hfree : aliases.lookup a = none) (houter : outer.alias? a = none) (r : RecordType) :
    Unshared outer (aliases ++ [(a, r)]) := by
  refine ⟨?_, List.forall_mem_append.2 ⟨h.2, List.forall_mem_singleton.2 houter⟩⟩
  rw [List.map_append, List.nodup_append]
  refine ⟨h.1, by simp, ?_⟩
  intro b hb c hc hbc
  obtain ⟨p, hp, rfl⟩ := List.mem_map.1 hb
  have hne := List.lookup_eq_none_iff.1 hfree p hp
  rw [hbc, List.mem_singleton.1 hc] at hne
  simp at hne

/-- An alias is looked up in the innermost scope first. -/
theorem alias?_cons (scope : Scope) (scopes : Scopes) (a : String) :
    Scopes.alias? (scope :: scopes) a = (scope.aliases.lookup a).or (scopes.alias? a) := by
  unfold Scopes.alias?
  rw [List.findSome?_cons]
  cases scope.aliases.lookup a <;> rfl

/-- A join declares its record or its alias. -/
theorem bindJoin_records {target : Target} {j : Join} (h : bindJoin g outer target scope j = .ok scope')
    (hunshared : Unshared outer scope.aliases) :
    (∀ q, q ∈ scope'.records ↔ q ∈ scope.records ∨ j.tableAlias = none ∧ g.Covers j.record q) ∧
      scope'.aliases = scope.aliases ++ aliasesOf [j] ∧ Unshared outer scope'.aliases := by
  unfold bindJoin at h
  dsimp only at h
  cases hj : j.tableAlias with
  | none =>
    rw [hj] at h
    obtain ⟨hrecords, hsame⟩ := bindSource_records h
    refine ⟨fun q => ?_, ?_, hsame ▸ hunshared⟩
    · rw [hrecords, and_iff_right rfl]
    · simp [hsame, aliasesOf, hj]
  | some a =>
    rw [hj] at h
    dsimp only at h
    split at h
    · cases h
    rename_i hfree
    cases h
    rw [Bool.or_eq_true, not_or, Option.not_isSome_iff_eq_none] at hfree
    obtain ⟨hnew, houter⟩ := Option.or_eq_none_iff.1 ((alias?_cons scope outer a).symm.trans hfree.2)
    refine ⟨fun q => ?_, ?_, hunshared.concat hnew houter j.record⟩
    · simp
    · simp [aliasesOf, hj]

/-- Joins declare their records or their aliases. -/
theorem joins_records {target : Target} : ∀ {js : List Join} {scope scope' : Scope},
    js.foldlM (bindJoin g outer target) scope = .ok scope' → Unshared outer scope.aliases →
    (∀ q, q ∈ scope'.records ↔
        q ∈ scope.records ∨ ∃ j ∈ js, j.tableAlias = none ∧ g.Covers j.record q) ∧
      scope'.aliases = scope.aliases ++ aliasesOf js ∧ Unshared outer scope'.aliases
  | [], _, _, h, hunshared => by
    cases h
    exact ⟨by simp, by simp [aliasesOf], hunshared⟩
  | j :: js, scope, scope', h, hunshared => by
    rw [List.foldlM_cons] at h
    obtain ⟨next, hnext, h⟩ := bind_eq_ok h
    obtain ⟨hfirst, hadded, hnew⟩ := bindJoin_records hnext hunshared
    obtain ⟨hrest, haliases, hlast⟩ := joins_records h hnew
    refine ⟨fun q => ?_, ?_, hlast⟩
    · rw [hrest, hfirst, List.exists_mem_cons_iff, or_assoc]
    · rw [haliases, hadded, List.append_assoc, aliasesOf, aliasesOf, aliasesOf, ← List.filterMap_append]
      rfl

/-- A scope holds what a select declares, and its aliases are told apart from those around. -/
structure Scope.Holds (g : Registry) (outer : Scopes) (t : Select) (scope : Scope) : Prop where
  records : ∀ r, r ∈ scope.records ↔ ∃ q, t.Names q ∧ g.Covers q r
  aliases : ∀ a r, (a, r) ∈ scope.aliases ↔ t.Declares a r
  unshared : Unshared outer scope.aliases

theorem ownScope_records (h : ownScope g r = .ok scope) :
    (∀ q, q ∈ scope.records ↔ g.Covers r q) ∧ scope.aliases = [] := by
  obtain ⟨hrecords, haliases⟩ := bindRecord_records h
  refine ⟨fun q => ?_, haliases⟩
  rw [hrecords, List.mem_singleton]
  exact or_iff_right_of_imp .inl

/-- The scope that a select opens holds what it declares. -/
theorem openScope_holds {t : Select} (h : openScope g outer t.record t.sources t.joins = .ok scope) :
    Scope.Holds g outer t scope := by
  obtain ⟨own, hown, h⟩ := bind_eq_ok h
  obtain ⟨hrecord, hnone⟩ := ownScope_records hown
  dsimp only at h
  obtain ⟨read, hread, h⟩ : ∃ read : Scope,
      ((∀ q, q ∈ read.records ↔ g.Covers t.record q ∨ ∃ r ∈ t.sources.getD [], g.Covers r q) ∧
        read.aliases = []) ∧
      t.joins.foldlM (bindJoin g outer (.select t.record)) read = .ok scope := by
    cases hs : t.sources with
    | none =>
      rw [hs] at h
      obtain ⟨read, hread, h⟩ := bind_eq_ok h
      obtain ⟨hsame, hsameAliases⟩ := claimTable_records hread
      refine ⟨read, ⟨fun q => ?_, hsameAliases.trans hnone⟩, h⟩
      rw [hsame, hrecord, Option.getD_none]
      simp
    | some rs =>
      rw [hs] at h
      obtain ⟨read, hread, h⟩ := bind_eq_ok h
      obtain ⟨hrecords, haliases⟩ := sources_records hread
      refine ⟨read, ⟨fun q => ?_, haliases.trans hnone⟩, h⟩
      rw [hrecords, hrecord, Option.getD_some]
  obtain ⟨hrecords, haliases, hunshared⟩ := joins_records h (by
    rw [hread.2]
    exact ⟨List.nodup_nil, List.forall_mem_nil _⟩)
  refine ⟨fun q => ?_, fun a r => ?_, hunshared⟩
  · rw [hrecords, hread.1]
    constructor
    · rintro ((hq | ⟨r, hr, hq⟩) | ⟨j, hj, hno, hq⟩)
      · exact ⟨_, .inl rfl, hq⟩
      · exact ⟨_, .inr (.inl hr), hq⟩
      · exact ⟨_, .inr (.inr ⟨j, hj, hno, rfl⟩), hq⟩
    · rintro ⟨r, rfl | hr | ⟨j, hj, hno, rfl⟩, hq⟩
      · exact .inl (.inl hq)
      · exact .inl (.inr ⟨r, hr, hq⟩)
      · exact .inr ⟨j, hj, hno, hq⟩
  · rw [haliases, hread.2, List.nil_append]
    exact mem_aliasesOf

/-! ### Scopes around a site -/

/-- The scopes of a statement and of some selects in it, the innermost first. -/
inductive Statement.Enclosed (g : Registry) (s : Statement) : List Select → Scopes → Prop
  | outside {scopes} : s.Opens g scopes → Enclosed g s [] scopes
  | inside {around scopes t scope} : Enclosed g s around scopes → Scope.Holds g scopes t scope →
      Enclosed g s (t :: around) (scope :: scopes)

namespace Statement.Enclosed

variable {s : Statement} {around : List Select} {scopes : Scopes}

/-- Scopes bind the records that are visible. -/
theorem binds_iff (h : s.Enclosed g around scopes) (r : RecordType) :
    scopes.binds r = true ↔ s.SeesRecord g around r := by
  induction h with
  | @outside scopes hs =>
    have outer : ∀ scope record, ownScope g record = .ok scope →
        (Scopes.binds [scope] r = true ↔ g.Covers record r) := by
      intro scope record hscope
      rw [← (ownScope_records hscope).1 r]
      simp [Scopes.binds]
    cases s with
    | select _ | insert _ =>
      obtain rfl : scopes = [] := hs
      simp [Scopes.binds, Statement.SeesRecord, Statement.written?]
    | update u | delete d =>
      obtain ⟨scope, hscope, rfl⟩ := hs
      rw [outer scope _ hscope]
      simp [Statement.SeesRecord, Statement.written?]
  | @inside around scopes t scope _ hscope ih =>
    have hcons : Scopes.binds (scope :: scopes) r = true ↔ r ∈ scope.records ∨ scopes.binds r = true := by
      simp [Scopes.binds]
    rw [hcons, ih, hscope.records]
    unfold Statement.SeesRecord
    rw [List.exists_mem_cons_iff, or_assoc]

/-- Scopes find the aliases that are declared around. -/
theorem alias?_iff (h : s.Enclosed g around scopes) (a : String) (r : RecordType) :
    scopes.alias? a = some r ↔ ∃ t ∈ around, t.Declares a r := by
  induction h with
  | @outside scopes hs =>
    have hnone : scopes.alias? a = none := by
      unfold Scopes.alias?
      rw [List.findSome?_eq_none_iff]
      intro scope hmem
      rw [(target_names hs hmem).2]
      rfl
    rw [hnone]
    simp
  | @inside around scopes t scope _ hscope ih =>
    rw [alias?_cons, List.exists_mem_cons_iff, ← hscope.aliases, ← ih]
    cases hl : scope.aliases.lookup a with
    | none =>
      have hnot : (a, r) ∉ scope.aliases := by
        intro hmem
        have hne := List.lookup_eq_none_iff.1 hl _ hmem
        simp at hne
      simp [hnot]
    | some q =>
      have hmem : (a, q) ∈ scope.aliases := mem_of_lookup hl
      have houter : scopes.alias? a = none := hscope.unshared.2 _ hmem
      have hsame : (a, r) ∈ scope.aliases ↔ q = r := by
        refine ⟨fun hr => ?_, fun hr => hr ▸ hmem⟩
        exact hscope.unshared.record_eq hmem hr
      rw [houter, hsame]
      simp

/-- Scopes find the aliases that are visible. -/
theorem seesAlias_iff (h : s.Enclosed g around scopes) (a : String) (r : RecordType) :
    scopes.alias? a = some r ↔ SeesAlias around a r := by
  refine ⟨fun ha => ⟨(h.alias?_iff a r).1 ha, fun t ht q hq => ?_⟩, fun ha => (h.alias?_iff a r).2 ha.1⟩
  have hq := (h.alias?_iff a q).2 ⟨t, ht, hq⟩
  exact Option.some.inj (hq.symm.trans ha)

end Statement.Enclosed

end RecordSql
