import RecordSql.Proofs.Outcome
import RecordSql.Proofs.Rendering.Sites
import RecordSql.Statement.Binding

/-!
# Opened scopes

The scope of a select binds its own record and then its tables, one after the other. So whatever a scope
holds has been put there by one of the tables of the select.

- `verifySelect_eq`: the check of a select, clause by clause, in the scope that it opens.
- `Scope.Binds`: what binding one table does to a scope.
- `Scope.Opens`: the scope after some tables.
- `openScope_opens`: a select's scope is the one after all of its tables.
- `Scope.Opens.mem_records`, `Scope.Opens.mem_aliases`: where records and aliases come from.
-/

namespace RecordSql

/-! ### Checks of a select -/

/-- All references of a restriction are bound. -/
def verifyWhere (g : Registry) (scopes : Scopes) (target : Target) :
    Option Condition → Except Error Unit
  | some c => verifyCondition g scopes (.condition target) c
  | none => .ok ()

/-- All references of groups are bound. -/
def verifyGroups (g : Registry) (scopes : Scopes) (target : Target) :
    Option (List Expr) → Except Error Unit
  | some es => verifyExprs g scopes (.groupBy target) es
  | none => .ok ()

/-- All references of an order are bound. -/
def verifyOrders (g : Registry) (scopes : Scopes) (target : Target) :
    Option (List OrderTerm) → Except Error Unit
  | some ts => verifyOrder g scopes (.orderBy target) ts
  | none => .ok ()

section Lists

variable (g : Registry) (scopes : Scopes) (place : Place) (target : Target)

/-! Expressions, definitions, joins and the terms of an order are checked one by one. -/

theorem verifyExprs_eq (es : List Expr) :
    verifyExprs g scopes place es = es.forM (verifyExpr g scopes place) := by
  induction es with
  | nil => rfl
  | cons e es ih =>
    rw [List.forM, ← ih]
    rfl

theorem verifyDefined_eq (ds : List Definition) : verifyDefined g scopes target ds =
    ds.forM fun d => verifyExpr g scopes (.definition d.field target) d.expr := by
  induction ds with
  | nil => rfl
  | cons d ds ih =>
    cases d
    rw [List.forM, ← ih]
    rfl

theorem verifyJoins_eq (js : List Join) : verifyJoins g scopes target js =
    js.forM fun j => verifyExpr g scopes (.join j.record target) j.condition := by
  induction js with
  | nil => rfl
  | cons j js ih =>
    cases j
    rw [List.forM, ← ih]
    rfl

theorem verifyOrder_eq (ts : List OrderTerm) : verifyOrder g scopes place ts =
    ts.forM fun t => verifyExpr g scopes place t.expr := by
  induction ts with
  | nil => rfl
  | cons t ts ih =>
    cases t
    rw [List.forM, ← ih]
    rfl

end Lists

/-- A select is checked clause by clause, in the scope that it opens. -/
theorem verifySelect_eq (g : Registry) (outer : Scopes) (s : Select) :
    verifySelect g outer s =
      if outer.owns s.record then .error (.nestedSelect s.record) else (do
        let scope ← openScope g outer s.record s.sources s.joins
        verifyDefinitions g s.record s.definitions
        verifyDefined g (scope :: outer) (.select s.record) s.definitions
        verifyJoins g (scope :: outer) (.select s.record) s.joins
        verifyWhere g (scope :: outer) (.select s.record) s.condition
        verifyGroups g (scope :: outer) (.select s.record) s.groupBy
        verifyOrders g (scope :: outer) (.select s.record) s.orderBy) := by
  obtain ⟨record, names, sources, joins, condition, groupBy, orderBy, limit, forUpdate, definitions⟩ := s
  cases condition <;> cases groupBy <;> cases orderBy <;> rfl

/-! ### Scopes after some tables -/

/-- What binding a table does to a scope. A source claims the table behind its record, which is not
claimed yet; a join with an alias binds an alias that is free. -/
inductive Scope.Binds (g : Registry) (outer : Scopes) :
    Scope → RecordType × Option String → Scope → Prop
  | source {scope : Scope} {r schema rs} : g.schema r = .ok schema →
      (∀ q ∈ rs, q = r ∨ schema.shadowOf = some q) →
      (∀ t, schema.tableOwner = some t → Scopes.claims (scope :: outer) t = false) →
      Binds g outer scope (r, none)
        { scope with
          records := scope.records ++ rs, tables := scope.tables ++ schema.tableOwner.toList }
  | join {scope : Scope} {r a} : isReservedAlias a = false →
      Scopes.alias? (scope :: outer) a = none →
      Binds g outer scope (r, some a) { scope with aliases := scope.aliases ++ [(a, r)] }

/-- The scope of a select after some of its tables. -/
inductive Scope.Opens (g : Registry) (outer : Scopes) (record : RecordType) :
    List (RecordType × Option String) → Scope → Prop
  | own {scope} : ownScope g record = .ok scope → Opens g outer record [] scope
  | bind {tables table scope scope'} : Opens g outer record tables scope →
      Scope.Binds g outer scope table scope' → Opens g outer record (tables ++ [table]) scope'

variable {g : Registry} {outer : Scopes} {place : Place} {scope scope' : Scope} {r : RecordType}

/-! ### Binding one table -/

theorem claimTable_eq_ok (h : claimTable g outer place scope r = .ok scope') :
    ∃ schema, g.schema r = .ok schema ∧
      (∀ t, schema.tableOwner = some t → Scopes.claims (scope :: outer) t = false) ∧
      scope' = { scope with tables := scope.tables ++ schema.tableOwner.toList } := by
  obtain ⟨schema, hschema, h⟩ := bind_eq_ok h
  refine ⟨schema, hschema, ?_⟩
  split at h
  · rename_i hnone
    cases h
    rw [hnone]
    exact ⟨nofun, by simp⟩
  · rename_i t ht
    split at h
    · obtain ⟨_, -, h⟩ := bind_eq_ok h
      cases h
    · rename_i hfree
      cases h
      rw [ht]
      refine ⟨fun _ he => ?_, rfl⟩
      cases he
      exact Bool.eq_false_iff.2 hfree

theorem bindRecord_eq_ok (h : bindRecord g scope r = .ok scope') :
    ∃ schema, g.schema r = .ok schema ∧
      scope' = { scope with records := scope.records ++ r :: schema.shadowOf.toList } := by
  obtain ⟨schema, hschema, h⟩ := bind_eq_ok h
  cases h
  exact ⟨schema, hschema, rfl⟩

theorem bindSource_binds (h : bindSource g outer place scope r = .ok scope') :
    Scope.Binds g outer scope (r, none) scope' := by
  obtain ⟨bound, hbound, h⟩ := bind_eq_ok h
  obtain ⟨schema, hschema, rfl⟩ := bindRecord_eq_ok hbound
  obtain ⟨schema', hschema', hfree, rfl⟩ := claimTable_eq_ok h
  cases hschema.symm.trans hschema'
  refine .source hschema (fun q hq => ?_) hfree
  obtain rfl | hq := List.mem_cons.1 hq
  · exact .inl rfl
  · exact .inr (Option.mem_toList.1 hq)

theorem claimTable_binds (h : claimTable g outer place scope r = .ok scope') :
    Scope.Binds g outer scope (r, none) scope' := by
  obtain ⟨schema, hschema, hfree, rfl⟩ := claimTable_eq_ok h
  have binds : Scope.Binds g outer scope (r, none)
      { scope with records := scope.records ++ [], tables := scope.tables ++ schema.tableOwner.toList } :=
    .source hschema (List.forall_mem_nil _) hfree
  rw [List.append_nil] at binds
  exact binds

theorem bindJoin_binds {target : Target} {j : Join} (h : bindJoin g outer target scope j = .ok scope') :
    Scope.Binds g outer scope (j.record, j.tableAlias) scope' := by
  unfold bindJoin at h
  dsimp only at h
  split at h
  · rename_i hj
    rw [hj]
    exact bindSource_binds h
  · rename_i a hj
    split at h
    · cases h
    · rename_i hfree
      cases h
      rw [hj]
      rw [Bool.or_eq_true, not_or] at hfree
      exact .join (Bool.eq_false_iff.2 hfree.1) (Option.not_isSome_iff_eq_none.1 hfree.2)

/-! ### Binding all tables -/

/-- Binding some tables one after the other. -/
theorem foldlM_opens {ι : Type} (bind : Scope → ι → Except Error Scope)
    (table : ι → RecordType × Option String)
    (hbind : ∀ scope i scope', bind scope i = .ok scope' →
      Scope.Binds g outer scope (table i) scope') :
    ∀ {l : List ι} {tables : List (RecordType × Option String)} {scope scope' : Scope},
      Scope.Opens g outer r tables scope → l.foldlM bind scope = .ok scope' →
      Scope.Opens g outer r (tables ++ l.map table) scope'
  | [], tables, _, _, hopens, h => by
    cases h
    rw [List.map_nil, List.append_nil]
    exact hopens
  | i :: l, tables, _, _, hopens, h => by
    rw [List.foldlM_cons] at h
    obtain ⟨next, hnext, h⟩ := bind_eq_ok h
    have rest := foldlM_opens bind table hbind (hopens.bind (hbind _ _ _ hnext)) h
    rw [List.append_assoc] at rest
    exact rest

/-- The scope of a select is the one after all of its tables. -/
theorem openScope_opens {s : Select}
    (h : openScope g outer s.record s.sources s.joins = .ok scope) :
    Scope.Opens g outer s.record s.tables scope := by
  obtain ⟨own, hown, h⟩ := bind_eq_ok h
  dsimp only at h
  unfold Select.tables
  cases hs : s.sources with
  | none =>
    rw [hs] at h
    obtain ⟨read, hread, h⟩ := bind_eq_ok h
    have opened : Scope.Opens g outer s.record _ read :=
      .bind (.own hown) (claimTable_binds hread)
    exact foldlM_opens (bindJoin g outer (.select s.record)) _ (fun _ _ _ => bindJoin_binds) opened h
  | some rs =>
    rw [hs] at h
    obtain ⟨read, hread, h⟩ := bind_eq_ok h
    have opened := foldlM_opens (bindSource g outer (.whole (.select s.record))) _
      (fun _ _ _ => bindSource_binds) (.own hown) hread
    exact foldlM_opens (bindJoin g outer (.select s.record)) _ (fun _ _ _ => bindJoin_binds) opened h

/-! ### What a scope holds -/

namespace Scope.Opens

variable {record : RecordType} {tables : List (RecordType × Option String)}

theorem owner_eq (h : Scope.Opens g outer record tables scope) : scope.owner = record := by
  induction h with
  | own h =>
    obtain ⟨_, -, rfl⟩ := bindRecord_eq_ok h
    rfl
  | bind _ hb ih => cases hb <;> exact ih

/-- A select may name its own record. -/
theorem record_mem (h : Scope.Opens g outer record tables scope) : record ∈ scope.records := by
  induction h with
  | own h =>
    obtain ⟨_, -, rfl⟩ := bindRecord_eq_ok h
    exact List.mem_append_left _ (List.mem_singleton_self record)
  | bind _ hb ih =>
    cases hb with
    | source => exact List.mem_append_left _ ih
    | join => exact ih

/-- A record that may be named is that of the select or of one of its tables, or a shadow of it. -/
theorem mem_records (h : Scope.Opens g outer record tables scope) :
    ∀ q ∈ scope.records, ∃ r, (r = record ∨ (r, none) ∈ tables) ∧
      (q = r ∨ ∃ schema, g.schema r = .ok schema ∧ schema.shadowOf = some q) := by
  induction h with
  | own h =>
    obtain ⟨schema, hschema, rfl⟩ := bindRecord_eq_ok h
    intro q hq
    refine ⟨record, .inl rfl, ?_⟩
    simp only [List.singleton_append, List.mem_cons, Option.mem_toList] at hq
    obtain rfl | rfl | hq := hq
    · exact .inl rfl
    · exact .inl rfl
    · exact .inr ⟨schema, hschema, hq⟩
  | @bind tables table scope scope' _ hb ih =>
    have before : ∀ q ∈ scope.records, ∃ r, (r = record ∨ (r, none) ∈ tables ++ [table]) ∧
        (q = r ∨ ∃ schema, g.schema r = .ok schema ∧ schema.shadowOf = some q) := by
      intro q hq
      obtain ⟨r, hr, hq⟩ := ih q hq
      exact ⟨r, hr.imp_right (List.mem_append_left _), hq⟩
    cases hb with
    | @source r schema rs hschema hrs _ =>
      refine List.forall_mem_append.2 ⟨before, fun q hq => ?_⟩
      refine ⟨r, .inr (List.mem_append_right _ (List.mem_singleton_self _)), ?_⟩
      exact (hrs q hq).imp_right fun hshadow => ⟨schema, hschema, hshadow⟩
    | join => exact before

/-- An alias is that of one of the joins. -/
theorem mem_aliases (h : Scope.Opens g outer record tables scope) :
    ∀ p ∈ scope.aliases, (p.2, some p.1) ∈ tables := by
  induction h with
  | own h =>
    obtain ⟨_, -, rfl⟩ := bindRecord_eq_ok h
    exact List.forall_mem_nil _
  | @bind tables table scope scope' _ hb ih =>
    have before : ∀ p ∈ scope.aliases, (p.2, some p.1) ∈ tables ++ [table] :=
      fun p hp => List.mem_append_left _ (ih p hp)
    cases hb with
    | source => exact before
    | join =>
      refine List.forall_mem_append.2 ⟨before, List.forall_mem_singleton.2 ?_⟩
      exact List.mem_append_right _ (List.mem_singleton_self _)

end Scope.Opens

/-- The scope of a record alone has no tables and no aliases. -/
theorem ownScope_eq_ok (h : ownScope g r = .ok scope) : scope.tables = [] ∧ scope.aliases = [] := by
  obtain ⟨_, -, rfl⟩ := bindRecord_eq_ok h
  exact ⟨rfl, rfl⟩

end RecordSql
