import RecordSql.Proofs.Binding.Opening
import RecordSql.Proofs.Compilation

/-!
# Bound sites

Where the references of a statement are bound, so are those of everything that its writing comes by: what
is written next is bound in the same scopes, or in the scope of a select that is entered, or it is a
definition, which is bound where it has been declared.

- `Select.Accepted`: a select whose scope has opened and whose references are bound.
- `Item.BoundIn`: the references of something to write are bound in some scopes.
- `Frame.Leads.bound`: what one step keeps.
- `Statement.Reaches.bound`: what holds of all sites of a statement.
-/

namespace RecordSql

/-! ### Bound references -/

/-- A reference is bound: a qualified one by its alias, any other by its record. -/
def FieldRef.BoundIn (scopes : Scopes) (c : FieldRef) : Prop :=
  ∀ r, c.record = some r →
    match c.qualifier with
    | none => scopes.binds r = true
    | some a => scopes.alias? a = some r

/-- All references of an expression are bound. -/
def Expr.BoundIn (g : Registry) (scopes : Scopes) (e : Expr) : Prop :=
  ∃ place, verifyExpr g scopes place e = .ok ()

/-- All references of a condition are bound. -/
def Condition.BoundIn (g : Registry) (scopes : Scopes) (c : Condition) : Prop :=
  ∃ place, verifyCondition g scopes place c = .ok ()

/-- A select stands in no select on its own record, its scope opens, and all its references are bound. -/
structure Select.Accepted (g : Registry) (outer : Scopes) (scope : Scope) (s : Select) : Prop where
  owner : outer.owns s.record = false
  opened : Scope.Opens g outer s.record s.tables scope
  definitions : ∀ d ∈ s.definitions, d.expr.BoundIn g (scope :: outer)
  clauses : ∀ e ∈ s.clauses, e.BoundIn g (scope :: outer)
  restriction : ∀ c, s.condition = some c → c.BoundIn g (scope :: outer)

/-- The scopes that a statement binds itself, around all of its selects. -/
def Statement.Opens (g : Registry) : Statement → Scopes → Prop
  | .select _, scopes | .insert _, scopes => scopes = []
  | .update u, scopes => ∃ scope, ownScope g u.record = .ok scope ∧ scopes = [scope]
  | .delete d, scopes => ∃ scope, ownScope g d.record = .ok scope ∧ scopes = [scope]

/-- All references of something to write are bound. -/
def Item.BoundIn (g : Registry) (scopes : Scopes) : Item → Prop
  | .statement s => verify g s = .ok () ∧ s.Opens g scopes
  | .select s => ∃ scope outer, scopes = scope :: outer ∧ s.Accepted g outer scope
  | .condition c => c.BoundIn g scopes
  | .expr e => e.BoundIn g scopes
  | .reference _ c => c.BoundIn scopes

variable {g : Registry} {scopes : Scopes} {place : Place}

theorem verifyRecord_binds {r : RecordType} (h : verifyRecord scopes place r = .ok ()) :
    scopes.binds r = true := by
  unfold verifyRecord at h
  split at h
  · assumption
  · cases h

theorem verifyReference_bound {c : FieldRef} (h : verifyReference scopes place c = .ok ()) :
    c.BoundIn scopes := by
  intro r hr
  unfold verifyReference at h
  rw [hr] at h
  dsimp only at h
  cases hq : c.qualifier with
  | none =>
    rw [hq] at h
    exact verifyRecord_binds h
  | some a =>
    rw [hq] at h
    dsimp only at h ⊢
    split at h
    · cases h
    · rename_i bound ha
      split at h
      · rename_i he
        rw [ha, he]
      · cases h

theorem FieldRef.boundIn_of {r : RecordType} {field : String} (h : scopes.binds r = true) :
    (FieldRef.of r field).BoundIn scopes := by
  intro q hq
  cases hq
  exact h

/-! ### Parts -/

theorem verifyExprs_mem {es : List Expr} (h : verifyExprs g scopes place es = .ok ()) :
    ∀ e ∈ es, verifyExpr g scopes place e = .ok () := by
  rw [verifyExprs_eq] at h
  exact forM_eq_ok h

theorem verifyJoins_mem {target : Target} {js : List Join}
    (h : verifyJoins g scopes target js = .ok ()) : ∀ j ∈ js, j.condition.BoundIn g scopes := by
  rw [verifyJoins_eq] at h
  exact fun j hj => ⟨_, forM_eq_ok h j hj⟩

theorem verifyOrder_mem {ts : List OrderTerm} (h : verifyOrder g scopes place ts = .ok ()) :
    ∀ t ∈ ts, t.expr.BoundIn g scopes := by
  rw [verifyOrder_eq] at h
  exact fun t ht => ⟨_, forM_eq_ok h t ht⟩

theorem verifyDefined_mem {target : Target} {ds : List Definition}
    (h : verifyDefined g scopes target ds = .ok ()) : ∀ d ∈ ds, d.expr.BoundIn g scopes := by
  rw [verifyDefined_eq] at h
  exact fun d hd => ⟨_, forM_eq_ok h d hd⟩

/-- An expression is bound if it is checked, and so are its parts. -/
theorem Expr.BoundIn.operand {e a : Expr} (h : e.BoundIn g scopes) (ha : a ∈ e.operands) :
    a.BoundIn g scopes := by
  obtain ⟨place, h⟩ := h
  cases e with
  | call | junction => exact ⟨place, verifyExprs_mem h a ha⟩
  | epoch | not =>
    cases List.mem_singleton.1 ha
    exact ⟨place, h⟩
  | binary op l r =>
    obtain ⟨_, hl, hr⟩ := bind_eq_ok h
    obtain rfl | ha := List.mem_cons.1 ha
    · exact ⟨place, hl⟩
    · cases List.mem_singleton.1 ha
      exact ⟨place, hr⟩
  | column | literal | value | isNull | inList | «exists» | fullText => cases ha

theorem Expr.BoundIn.reference {e : Expr} {c : FieldRef} (h : e.BoundIn g scopes)
    (hc : e.reference? = some c) : c.BoundIn scopes := by
  obtain ⟨place, h⟩ := h
  cases e with
  | column | isNull | inList =>
    cases hc
    exact verifyReference_bound h
  | _ => cases hc

/-- A select that is checked is accepted. -/
theorem verifySelect_accepted {outer : Scopes} {s : Select} (h : verifySelect g outer s = .ok ()) :
    ∃ scope, s.Accepted g outer scope := by
  rw [verifySelect_eq] at h
  split at h
  · cases h
  · rename_i howner
    obtain ⟨scope, hopen, h⟩ := bind_eq_ok h
    obtain ⟨_, -, h⟩ := bind_eq_ok h
    obtain ⟨_, hdefined, h⟩ := bind_eq_ok h
    obtain ⟨_, hjoins, h⟩ := bind_eq_ok h
    obtain ⟨_, hcondition, h⟩ := bind_eq_ok h
    obtain ⟨_, hgroups, horder⟩ := bind_eq_ok h
    refine ⟨scope, Bool.eq_false_iff.2 howner, openScope_opens hopen, verifyDefined_mem hdefined, ?_,
      fun c hc => ⟨_, by rw [hc] at hcondition; exact hcondition⟩⟩
    refine List.forall_mem_append.2 ⟨List.forall_mem_append.2 ⟨?_, ?_⟩, ?_⟩
    · exact List.forall_mem_map.2 (verifyJoins_mem hjoins)
    · cases hg : s.groupBy with
      | none => exact List.forall_mem_nil _
      | some es =>
        rw [hg] at hgroups
        exact fun e he => ⟨_, verifyExprs_mem hgroups e he⟩
    · refine List.forall_mem_map.2 ?_
      cases ho : s.orderBy with
      | none => exact List.forall_mem_nil _
      | some ts =>
        rw [ho] at horder
        exact verifyOrder_mem horder

/-! ### Steps -/

theorem Select.Accepted.record_binds {outer : Scopes} {scope : Scope} {s : Select}
    (h : s.Accepted g outer scope) : Scopes.binds (scope :: outer) s.record = true := by
  refine List.any_eq_true.2 ⟨scope, List.mem_cons_self, ?_⟩
  exact List.contains_iff_mem.2 h.opened.record_mem

theorem verify_update {u : Update} (h : verify g (.update u) = .ok ())
    (hs : (Statement.update u).Opens g scopes) :
    (∀ a ∈ u.assignments, a.2.BoundIn g scopes) ∧
      ∀ c, u.condition = some c → c.BoundIn g scopes := by
  obtain ⟨scope, hscope, rfl⟩ := hs
  obtain ⟨scope', hscope', h⟩ := bind_eq_ok h
  cases hscope.symm.trans hscope'
  obtain ⟨_, hassignments, h⟩ := bind_eq_ok h
  refine ⟨fun a ha => ⟨_, forM_eq_ok hassignments a ha⟩, fun c hc => ?_⟩
  rw [hc] at h
  exact ⟨_, h⟩

theorem verify_delete {d : Delete} (h : verify g (.delete d) = .ok ())
    (hs : (Statement.delete d).Opens g scopes) : d.condition.BoundIn g scopes := by
  obtain ⟨scope, hscope, rfl⟩ := hs
  obtain ⟨scope', hscope', h⟩ := bind_eq_ok h
  cases hscope.symm.trans hscope'
  exact ⟨_, h⟩

/-- What a step leads to is bound in the same scopes, or it is a select whose scope has opened, or the
definition of a reference. -/
theorem Frame.Leads.bound {f : Frame} {p q : Site} (h : f.Leads p q)
    (hb : p.item.BoundIn f.registry scopes) :
    (q.around = p.around ∧ q.item.BoundIn f.registry scopes) ∨
    (∃ s scope, q = ⟨s :: p.around, .select s⟩ ∧ s.Accepted f.registry scopes scope) ∨
    ∃ use c d, p.item = .reference use c ∧ (f.within p.around).applied? use c = some d ∧
      q = ⟨p.around, .expr d.expr⟩ := by
  cases h with
  | select =>
    obtain ⟨hv, rfl⟩ := hb
    obtain ⟨scope, haccepted⟩ := verifySelect_accepted hv
    exact .inr (.inl ⟨_, scope, rfl, haccepted⟩)
  | assignment ha => exact .inl ⟨rfl, (verify_update hb.1 hb.2).1 _ ha⟩
  | update hc => exact .inl ⟨rfl, (verify_update hb.1 hb.2).2 _ hc⟩
  | delete => exact .inl ⟨rfl, verify_delete hb.1 hb.2⟩
  | projection hname =>
    obtain ⟨scope, outer, rfl, haccepted⟩ := hb
    exact .inl ⟨rfl, FieldRef.boundIn_of haccepted.record_binds⟩
  | restriction hc =>
    obtain ⟨scope, outer, rfl, haccepted⟩ := hb
    exact .inl ⟨rfl, haccepted.restriction _ hc⟩
  | clause he =>
    obtain ⟨scope, outer, rfl, haccepted⟩ := hb
    exact .inl ⟨rfl, haccepted.clauses _ he⟩
  | condition => exact .inl ⟨rfl, hb⟩
  | key hname | multiKey hname =>
    obtain ⟨place, hb⟩ := hb
    exact .inl ⟨rfl, FieldRef.boundIn_of (verifyRecord_binds hb)⟩
  | operand ha => exact .inl ⟨rfl, hb.operand ha⟩
  | reference hc => exact .inl ⟨rfl, hb.reference hc⟩
  | subSelect =>
    obtain ⟨place, hb⟩ := hb
    obtain ⟨scope, haccepted⟩ := verifySelect_accepted hb
    exact .inr (.inl ⟨_, scope, rfl, haccepted⟩)
  | definition hd => exact .inr (.inr ⟨_, _, _, rfl, hd, rfl⟩)

/-! ### Scopes around a site -/

/-- A scope of one of some selects, or that of the table that a statement writes to. -/
def Statement.Around (g : Registry) (s : Statement) (around : List Select) (scope : Scope) : Prop :=
  (∃ t ∈ around, ∃ outer, Scope.Opens g outer t.record t.tables scope) ∨
    ∃ scopes, s.Opens g scopes ∧ scope ∈ scopes

/-- Something to write is bound in scopes around it. -/
def Statement.Binds (g : Registry) (s : Statement) (p : Site) : Prop :=
  ∃ scopes : Scopes, (∀ scope ∈ scopes, s.Around g p.around scope) ∧ p.item.BoundIn g scopes

theorem Statement.Around.mono {s : Statement} {around around' : List Select} {scope : Scope}
    (h : s.Around g around scope) (hsub : around ⊆ around') : s.Around g around' scope :=
  h.imp_left fun ⟨t, ht, hopens⟩ => ⟨t, hsub ht, hopens⟩

theorem Statement.Binds.mono {s : Statement} {around around' : List Select} {item : Item}
    (h : s.Binds g ⟨around, item⟩) (hsub : around ⊆ around') : s.Binds g ⟨around', item⟩ := by
  obtain ⟨scopes, hscopes, hb⟩ := h
  exact ⟨scopes, fun scope hscope => (hscopes scope hscope).mono hsub, hb⟩

theorem verify_opens {s : Statement} (h : verify g s = .ok ()) : ∃ scopes, s.Opens g scopes := by
  cases s with
  | select _ | insert _ => exact ⟨[], rfl⟩
  | update u | delete d =>
    obtain ⟨scope, hscope, -⟩ := bind_eq_ok h
    exact ⟨[scope], scope, hscope, rfl⟩

/-- The table that a statement writes to is not among the claimed ones, and has no alias. -/
theorem target_names {s : Statement} {scope : Scope} (hs : s.Opens g scopes) (hmem : scope ∈ scopes) :
    scope.tables = [] ∧ scope.aliases = [] := by
  cases s with
  | select | insert =>
    cases hs
    cases hmem
  | update | delete =>
    obtain ⟨own, hown, rfl⟩ := hs
    cases List.mem_singleton.1 hmem
    exact ownScope_eq_ok hown

section References

variable {s : Statement} {around : List Select} {use : ColumnUse} {c : FieldRef} {r : RecordType}

/-- The record of an unqualified reference is one of a scope around it. -/
theorem Statement.Binds.record_mem (h : s.Binds g ⟨around, .reference use c⟩) (hr : c.record = some r)
    (hq : c.qualifier = none) : ∃ scope, s.Around g around scope ∧ r ∈ scope.records := by
  obtain ⟨scopes, hscopes, hb⟩ := h
  have hbound := hb r hr
  rw [hq] at hbound
  obtain ⟨scope, hscope, hmem⟩ := List.any_eq_true.1 hbound
  exact ⟨scope, hscopes scope hscope, List.contains_iff_mem.1 hmem⟩

/-- The qualifier of a reference is the alias of a join around it. -/
theorem Statement.Binds.join_mem {a : String} (h : s.Binds g ⟨around, .reference use c⟩)
    (hr : c.record = some r) (hq : c.qualifier = some a) : ∃ u ∈ around, (r, some a) ∈ u.tables := by
  obtain ⟨scopes, hscopes, hb⟩ := h
  have hbound := hb r hr
  rw [hq] at hbound
  obtain ⟨scope, hscope, hlookup⟩ := List.exists_of_findSome?_eq_some hbound
  obtain ⟨u, hu, outer, hopens⟩ | ⟨own, hs, hmem⟩ := hscopes scope hscope
  · exact ⟨u, hu, hopens.mem_aliases _ (mem_of_lookup hlookup)⟩
  · rw [(target_names hs hmem).2] at hlookup
    cases hlookup

/-- The record of a full-text match is one of a scope around it. -/
theorem Statement.Binds.fullText_mem {index query : String}
    (h : s.Binds g ⟨around, .expr (.fullText r index query)⟩) :
    ∃ scope, s.Around g around scope ∧ r ∈ scope.records := by
  obtain ⟨scopes, hscopes, place, hb⟩ := h
  obtain ⟨scope, hscope, hmem⟩ := List.any_eq_true.1 (verifyRecord_binds hb)
  exact ⟨scope, hscopes scope hscope, List.contains_iff_mem.1 hmem⟩

end References

/-- All that the writing of a checked statement comes by is bound in scopes around it, and so are the
definitions around it. -/
theorem Statement.Reaches.bound {s : Statement} {f : Frame} {p : Site} (hf : f.selects = [])
    (hv : verify f.registry s = .ok ()) (h : s.Reaches f p) :
    s.Binds f.registry p ∧
      ∀ t ∈ p.around, ∀ d ∈ t.definitions, s.Binds f.registry ⟨p.around, .expr d.expr⟩ := by
  induction h with
  | start =>
    obtain ⟨scopes, hscopes⟩ := verify_opens hv
    refine ⟨⟨scopes, fun scope hscope => .inr ⟨scopes, hscopes, hscope⟩, hv, hscopes⟩, ?_⟩
    exact List.forall_mem_nil _
  | @step p q _ hpq ih =>
    obtain ⟨⟨scopes, hscopes, hb⟩, hdefinitions⟩ := ih
    obtain ⟨hsame, hq⟩ | ⟨t, scope, rfl, haccepted⟩ | ⟨use, c, d, -, happlied, rfl⟩ := hpq.bound hb
    · rw [hsame]
      exact ⟨⟨scopes, fun scope hscope => hsame ▸ hscopes scope hscope, hq⟩, hdefinitions⟩
    · have inner : ∀ scope' ∈ scope :: scopes, s.Around f.registry (t :: p.around) scope' := by
        refine List.forall_mem_cons.2 ⟨.inl ⟨t, List.mem_cons_self, scopes, haccepted.opened⟩, ?_⟩
        exact fun scope' h => (hscopes scope' h).mono (List.subset_cons_self t p.around)
      refine ⟨⟨scope :: scopes, inner, scope, scopes, rfl, haccepted⟩, ?_⟩
      refine List.forall_mem_cons.2 ⟨fun d hd => ⟨_, inner, haccepted.definitions d hd⟩, ?_⟩
      exact fun t' ht' d hd => (hdefinitions t' ht' d hd).mono (List.subset_cons_self t p.around)
    · -- a definition is bound where it has been declared
      obtain ⟨t, ht, -, hd, -⟩ := Frame.applied?_within hf happlied
      exact ⟨hdefinitions t ht d hd, hdefinitions⟩

end RecordSql
