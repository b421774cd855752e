import RecordSql.Proofs.Rendering.Simulation.Clauses
import RecordSql.Proofs.Rendering.Simulation.Keys
import RecordSql.Proofs.Rendering.Sites

/-!
# What is written at a site

Whatever the writing of a statement comes by has a rendering of its own, and this rendering stands in the
pieces of the statement, all in one stretch. Only fields that a projection leaves out are not written.

- `mapM_mem`, `infix_separated`: items of lists.
- `Statement.Stands`: what is written at a site stands in some pieces.
- `Frame.Leads.stands`: one step from a site to the next.
- `Statement.Reaches.stands`: all that the writing of a statement comes by.
-/

namespace RecordSql

/-! ### Items of lists -/

/-- Every item has a result among the results of all. -/
theorem mapM_mem {α β ε : Type} {f : α → Except ε β} {l : List α} {bs : List β} (h : l.mapM f = .ok bs)
    {a : α} (ha : a ∈ l) : ∃ b ∈ bs, f a = .ok b := by
  have hall := mapM_eq_ok h
  clear h
  induction hall with
  | nil => cases ha
  | @cons a' b l bs hab _ ih =>
    obtain rfl | ha := List.mem_cons.1 ha
    · exact ⟨b, List.mem_cons_self, hab⟩
    · obtain ⟨b', hb', hab'⟩ := ih ha
      exact ⟨b', List.mem_cons_of_mem b hb', hab'⟩

/-- An item stands between the separators. -/
theorem infix_separated {separator : String} {ps : List Piece} :
    ∀ {pss : List (List Piece)}, ps ∈ pss → ps <:+: separated separator pss
  | [qs], h => by
    rw [List.mem_singleton.1 h]
    exact List.infix_rfl
  | qs :: rs :: pss, h => by
    show ps <:+: qs ++ .word separator :: separated separator (rs :: pss)
    obtain rfl | h := List.mem_cons.1 h
    · exact List.infix_append_left
    · exact List.infix_append_of_infix_right (List.infix_cons (infix_separated h))

theorem infix_parenthesized (ps : List Piece) : ps <:+: parenthesized ps :=
  ⟨[.word "("], [.word ")"], rfl⟩

theorem infix_operand (compound : Bool) (ps : List Piece) :
    ps <:+: if compound then parenthesized ps else ps := by
  cases compound with
  | true => exact infix_parenthesized ps
  | false => exact List.infix_rfl

/-! ### Parts of clauses -/

section Clauses

variable {expand : Frame → Expr → Rendered} {f : Frame} {ps : List Piece}

/-- An operand stands in what it is an operand of. -/
theorem operand_stretch {e a : Expr} (ha : a ∈ e.operands) (h : exprPieces expand f e = .ok ps) :
    ∃ qs, exprPieces expand f a = .ok qs ∧ qs <:+: ps := by
  cases e with
  | call name args =>
    obtain ⟨pss, hpss, h⟩ := bind_eq_ok h
    cases h
    rw [exprsPieces_eq] at hpss
    obtain ⟨qs, hqs, hq⟩ := mapM_mem hpss ha
    exact ⟨qs, hq, List.infix_cons ((infix_separated hqs).trans (infix_parenthesized _))⟩
  | epoch e =>
    cases List.mem_singleton.1 ha
    obtain ⟨qs, hqs, h⟩ := bind_eq_ok h
    cases h
    exact ⟨qs, hqs, ⟨[_], [_], rfl⟩⟩
  | binary op l r =>
    obtain ⟨left, hl, h⟩ := bind_eq_ok h
    obtain ⟨right, hr, h⟩ := bind_eq_ok h
    cases h
    rcases List.mem_cons.1 ha with rfl | ha
    · refine ⟨left, hl, (infix_operand a.isInfix left).trans ?_⟩
      rw [List.append_assoc]
      exact List.infix_append_left
    · cases List.mem_singleton.1 ha
      exact ⟨right, hr, (infix_operand a.isInfix right).trans List.infix_append_right⟩
  | junction op operands =>
    obtain ⟨pss, hpss, h⟩ := bind_eq_ok h
    cases h
    rw [exprsPieces_eq] at hpss
    obtain ⟨qs, hqs, hq⟩ := mapM_mem hpss ha
    exact ⟨qs, hq, (infix_parenthesized qs).trans (infix_separated (List.mem_map_of_mem hqs))⟩
  | not e =>
    cases List.mem_singleton.1 ha
    obtain ⟨qs, hqs, h⟩ := bind_eq_ok h
    cases h
    exact ⟨qs, hqs, List.infix_cons (infix_parenthesized qs)⟩
  | column | literal | value | isNull | inList | «exists» | fullText => cases ha

/-- What an expression refers to stands in it. -/
theorem reference_stretch {e : Expr} {c : FieldRef} (hc : e.reference? = some c)
    (h : exprPieces expand f e = .ok ps) :
    ∃ qs, referencePieces expand f .plain c = .ok qs ∧ qs <:+: ps := by
  cases e with
  | column =>
    cases hc
    exact ⟨ps, h, List.infix_rfl⟩
  | isNull =>
    cases hc
    obtain ⟨qs, hqs, h⟩ := bind_eq_ok h
    cases h
    exact ⟨qs, hqs, List.infix_append_left⟩
  | inList =>
    cases hc
    obtain ⟨qs, hqs, h⟩ := bind_eq_ok h
    cases h
    refine ⟨qs, hqs, ?_⟩
    rw [List.append_assoc]
    exact List.infix_append_left
  | call | epoch | binary | junction | not | literal | value | «exists» | fullText => cases hc

/-- The column of a component stands in it. -/
theorem component_stretch {record : RecordType} {names : List String} {values : List Value}
    {pss : List (List Piece)} (hlength : names.length = values.length) {n : String} (hn : n ∈ names)
    (h : componentsPieces expand f record (names.zip values) = .ok pss) :
    ∃ qs, referencePieces expand f .key (.of record n) = .ok qs ∧ ∃ component ∈ pss, qs <:+: component := by
  rw [← List.map_fst_zip (Nat.le_of_eq hlength)] at hn
  obtain ⟨p, hp, rfl⟩ := List.mem_map.1 hn
  obtain ⟨component, hmem, hcomponent⟩ := mapM_mem h hp
  obtain ⟨qs, hqs, hcomponent⟩ := bind_eq_ok hcomponent
  cases hcomponent
  exact ⟨qs, hqs, _, hmem, List.infix_append_left⟩

/-- The columns of a key stand in a restriction to it. -/
theorem key_stretch {k : Key} {n : String} (hn : n ∈ f.registry.keyFields k.record)
    (h : conditionPieces expand f (.key k) = .ok ps) :
    ∃ qs, referencePieces expand f .key (.of k.record n) = .ok qs ∧ qs <:+: ps := by
  obtain ⟨rs, hrs, h⟩ := bind_eq_ok h
  cases h
  obtain ⟨values, pss, hlength, hpss, rfl⟩ := keyPieces_eq_ok hrs
  obtain ⟨qs, hqs, component, hmem, hstretch⟩ := component_stretch hlength.symm hn hpss
  exact ⟨qs, hqs, List.infix_append_of_infix_right (hstretch.trans (infix_separated hmem))⟩

/-- So do the columns of a key with a choice of values. -/
theorem multiKey_stretch {k : MultiKey} {n : String} (hn : n ∈ f.registry.keyFields k.record)
    (h : conditionPieces expand f (.multiKey k) = .ok ps) :
    ∃ qs, referencePieces expand f .key (.of k.record n) = .ok qs ∧ qs <:+: ps := by
  obtain ⟨rs, hrs, h⟩ := bind_eq_ok h
  cases h
  obtain ⟨values, pss, column, -, hlength, hpss, hcolumn, rfl⟩ := multiKeyPieces_eq_ok hrs
  suffices hcomponent : ∃ qs, referencePieces expand f .key (.of k.record n) = .ok qs ∧
      ∃ component ∈ pss ++ [column ++ .word " in (" :: valueList k.values ++ [Piece.word ")"]],
        qs <:+: component by
    obtain ⟨qs, hqs, component, hmem, hstretch⟩ := hcomponent
    exact ⟨qs, hqs, List.infix_append_of_infix_right (hstretch.trans (infix_separated hmem))⟩
  by_cases hvarying : n = k.field
  · rw [hvarying]
    refine ⟨column, hcolumn, _, List.mem_append_right _ (List.mem_singleton_self _), ?_⟩
    rw [List.append_assoc]
    exact List.infix_append_left
  · have hfixed : n ∈ k.fixedFields (f.registry.keyFields k.record) :=
      List.mem_filter.2 ⟨hn, by simpa using hvarying⟩
    obtain ⟨qs, hqs, component, hmem, hstretch⟩ := component_stretch hlength.symm hfixed hpss
    exact ⟨qs, hqs, component, List.mem_append_left _ hmem, hstretch⟩

/-- A field that a select asks for stands in its projection, unless the projection leaves it out, and then
no definition applies to it. -/
theorem projection_stretch {record : RecordType} {names : List String} {n : String}
    (hn : n ∈ f.registry.projected record names) (h : projectionPieces expand f record names = .ok ps) :
    (∃ qs, referencePieces expand f .projection (.of record n) = .ok qs ∧ qs <:+: ps) ∨
      f.applied? .projection (.of record n) = none := by
  obtain ⟨schema, fields, items, hschema, hfields, hitems, rfl⟩ := projectionPieces_eq_ok h
  rw [← Simulation.selectedFields_projected hschema hfields] at hn
  obtain ⟨field, hfield, rfl⟩ := List.mem_map.1 hn
  by_cases hprojects : f.projects record field
  · obtain ⟨qs, hqs, hq⟩ := mapM_mem hitems (List.mem_filter.2 ⟨hfield, hprojects⟩)
    exact .inl ⟨qs, hq, infix_separated hqs⟩
  · have hundefined : f.definition? record field.name = none := by
      unfold Frame.projects at hprojects
      simp only [Bool.or_eq_true, not_or, Bool.not_eq_true, Option.isSome_eq_false_iff,
        Option.isNone_iff_eq_none] at hprojects
      exact hprojects.2
    refine .inr ?_
    simp [Frame.applied?, FieldRef.of, hundefined]

/-- The condition of a join stands in the joins. -/
theorem join_stretch {js : List Join} {j : Join} (hj : j ∈ js) (h : joinPieces expand f js = .ok ps) :
    ∃ qs, exprPieces expand f j.condition = .ok qs ∧ qs <:+: ps := by
  rw [joinPieces_eq] at h
  obtain ⟨pss, hpss, rfl⟩ := map_eq_ok h
  obtain ⟨one, hone, hj⟩ := mapM_mem hpss hj
  obtain ⟨table, on, -, hon, rfl⟩ := onePieces_eq_ok hj
  exact ⟨on, hon, List.infix_append_right.trans (List.infix_of_mem_flatten hone)⟩

theorem group_stretch {es : Option (List Expr)} {e : Expr} (he : e ∈ es.getD [])
    (h : groupPieces expand f es = .ok ps) : ∃ qs, exprPieces expand f e = .ok qs ∧ qs <:+: ps := by
  obtain ⟨rfl, -⟩ | ⟨es, pss, rfl, hpss, rfl⟩ := groupPieces_eq_ok h
  · cases he
  · rw [exprsPieces_eq] at hpss
    obtain ⟨qs, hqs, hq⟩ := mapM_mem hpss he
    exact ⟨qs, hq, List.infix_cons (List.infix_cons (infix_separated hqs))⟩

theorem order_stretch {ts : Option (List OrderTerm)} {t : OrderTerm} (ht : t ∈ ts.getD [])
    (h : sortPieces expand f ts = .ok ps) : ∃ qs, exprPieces expand f t.expr = .ok qs ∧ qs <:+: ps := by
  obtain ⟨rfl, -⟩ | ⟨ts, pss, rfl, hpss, rfl⟩ := sortPieces_eq_ok h
  · cases ht
  · rw [orderPieces_eq] at hpss
    obtain ⟨term, hterm, ht⟩ := mapM_mem hpss ht
    obtain ⟨qs, hqs, rfl⟩ := termPieces_eq_ok ht
    exact ⟨qs, hqs, List.infix_append_left.trans
      (List.infix_cons (List.infix_cons (infix_separated hterm)))⟩

/-- The parts of a select: its projection, its restriction and the expressions in its clauses. -/
theorem select_stretch {s : Select} (h : selectPieces expand f s = .ok ps) :
    (∃ qs, projectionPieces expand (f.enter s) s.record s.fields = .ok qs ∧ qs <:+: ps) ∧
    (∀ c, s.condition = some c → ∃ qs, conditionPieces expand (f.enter s) c = .ok qs ∧ qs <:+: ps) ∧
    ∀ e ∈ s.clauses, ∃ qs, exprPieces expand (f.enter s) e = .ok qs ∧ qs <:+: ps := by
  obtain ⟨projection, tables, joined, condition, groups, order, hprojection, htables, hjoined, hwhere,
    hgroup, hsort, rfl⟩ := selectPieces_eq_ok h
  -- where each of the clauses stands in the select
  have inProjection : projection <:+: _ := ⟨[.word "select "], [Piece.clauseBreak, .word "from "] ++ (tables ++
    (joined ++ (condition ++ (groups ++ (order ++ (limitPieces s.limit ++ lockPieces s.forUpdate)))))), rfl⟩
  have inJoins : joined <:+: _ := ⟨.word "select " :: projection ++ [Piece.clauseBreak, .word "from "] ++ tables,
    condition ++ (groups ++ (order ++ (limitPieces s.limit ++ lockPieces s.forUpdate))), rfl⟩
  have inWhere : condition <:+: _ := ⟨.word "select " :: projection ++ [Piece.clauseBreak, .word "from "] ++
    tables ++ joined, groups ++ (order ++ (limitPieces s.limit ++ lockPieces s.forUpdate)), rfl⟩
  have inGroups : groups <:+: _ := ⟨.word "select " :: projection ++ [Piece.clauseBreak, .word "from "] ++
    tables ++ joined ++ condition, order ++ (limitPieces s.limit ++ lockPieces s.forUpdate), rfl⟩
  have inOrder : order <:+: _ := ⟨.word "select " :: projection ++ [Piece.clauseBreak, .word "from "] ++
    tables ++ joined ++ condition ++ groups, limitPieces s.limit ++ lockPieces s.forUpdate, rfl⟩
  simp only [List.append_assoc] at inProjection inJoins inWhere inGroups inOrder ⊢
  refine ⟨⟨projection, hprojection, inProjection⟩, fun c hc => ?_, fun e he => ?_⟩
  · rw [hc] at hwhere
    exact ⟨condition, hwhere, inWhere⟩
  · obtain he | he := List.mem_append.1 he
    · obtain he | he := List.mem_append.1 he
      · obtain ⟨j, hj, rfl⟩ := List.mem_map.1 he
        obtain ⟨qs, hqs, hstretch⟩ := join_stretch hj hjoined
        exact ⟨qs, hqs, hstretch.trans inJoins⟩
      · obtain ⟨qs, hqs, hstretch⟩ := group_stretch he hgroup
        exact ⟨qs, hqs, hstretch.trans inGroups⟩
    · obtain ⟨t, ht, rfl⟩ := List.mem_map.1 he
      obtain ⟨qs, hqs, hstretch⟩ := order_stretch ht hsort
      exact ⟨qs, hqs, hstretch.trans inOrder⟩

end Clauses

/-! ### Sites -/

/-- What is written at a site stands in some pieces, with definitions substituted up to some depth; or it is
a field that a projection leaves out. The statement itself is written whole. -/
inductive Frame.Stands (f : Frame) (ps : List Piece) : Site → Prop
  | statement {s} : Stands f ps ⟨[], .statement s⟩
  | select {depth around s qs} : selectPieces (expandWith depth) (f.within around) s = .ok qs →
      qs <:+: ps → Stands f ps ⟨s :: around, .select s⟩
  | condition {depth around c qs} : conditionPieces (expandWith depth) (f.within around) c = .ok qs →
      qs <:+: ps → Stands f ps ⟨around, .condition c⟩
  | expr {depth around e qs} : exprPieces (expandWith depth) (f.within around) e = .ok qs →
      qs <:+: ps → Stands f ps ⟨around, .expr e⟩
  | reference {depth around use c qs} :
      referencePieces (expandWith depth) (f.within around) use c = .ok qs →
      qs <:+: ps → Stands f ps ⟨around, .reference use c⟩
  | leftOut {around c} : (f.within around).applied? .projection c = none →
      Stands f ps ⟨around, .reference .projection c⟩

section Steps

variable {f : Frame} {ps : List Piece}

/-- What stands for a reference that a definition applies to is the expression of the definition. -/
theorem definition_stretch {around : List Select} {use : ColumnUse} {c : FieldRef} {d : Definition}
    {depth : Nat} {qs : List Piece} (hd : (f.within around).applied? use c = some d)
    (h : referencePieces (expandWith depth) (f.within around) use c = .ok qs) (hqs : qs <:+: ps) :
    f.Stands ps ⟨around, .expr d.expr⟩ := by
  rw [referencePieces_eq] at h
  obtain ⟨resolved, hresolve, h⟩ := bind_eq_ok h
  obtain ⟨record, hrecord, -⟩ := Option.bind_eq_some_iff.1 hd
  unfold Frame.resolve at hresolve
  rw [hrecord, hd] at hresolve
  obtain ⟨schema, -, hresolve⟩ := bind_eq_ok hresolve
  obtain ⟨field, -, hresolve⟩ := bind_eq_ok hresolve
  cases hresolve
  obtain ⟨rs, hrs, h⟩ := bind_eq_ok h
  cases h
  cases depth with
  | zero => cases hrs
  | succ depth => exact .expr hrs (List.infix_append_left.trans hqs)

/-- A step from a site whose text stands in some pieces leads to another such site. -/
theorem Frame.Leads.stands {p q : Site} (hpq : f.Leads p q) (hp : f.Stands ps p)
    (hstart : ∀ s, p.item ≠ .statement s) : f.Stands ps q := by
  cases hpq with
  | select | assignment _ | update _ | delete => exact absurd rfl (hstart _)
  | projection hn =>
    cases hp with
    | select h hqs =>
      obtain ⟨rs, hrs, hstretch⟩ := (select_stretch h).1
      rw [← f.within_registry (_ :: _)] at hn
      obtain ⟨is, his, hitem⟩ | hnone := projection_stretch hn hrs
      · exact .reference his (hitem.trans (hstretch.trans hqs))
      · exact .leftOut hnone
  | restriction hc =>
    cases hp with
    | select h hqs =>
      obtain ⟨rs, hrs, hstretch⟩ := (select_stretch h).2.1 _ hc
      exact .condition hrs (hstretch.trans hqs)
  | clause he =>
    cases hp with
    | select h hqs =>
      obtain ⟨rs, hrs, hstretch⟩ := (select_stretch h).2.2 _ he
      exact .expr hrs (hstretch.trans hqs)
  | condition =>
    cases hp with
    | condition h hqs =>
      obtain ⟨rs, hrs, h⟩ := bind_eq_ok h
      cases h
      exact .expr hrs (List.infix_append_right.trans hqs)
  | key hn =>
    cases hp with
    | condition h hqs =>
      rw [← f.within_registry _] at hn
      obtain ⟨rs, hrs, hstretch⟩ := key_stretch hn h
      exact .reference hrs (hstretch.trans hqs)
  | multiKey hn =>
    cases hp with
    | condition h hqs =>
      rw [← f.within_registry _] at hn
      obtain ⟨rs, hrs, hstretch⟩ := multiKey_stretch hn h
      exact .reference hrs (hstretch.trans hqs)
  | operand ha =>
    cases hp with
    | expr h hqs =>
      obtain ⟨rs, hrs, hstretch⟩ := operand_stretch ha h
      exact .expr hrs (hstretch.trans hqs)
  | reference hc =>
    cases hp with
    | expr h hqs =>
      obtain ⟨rs, hrs, hstretch⟩ := reference_stretch hc h
      exact .reference hrs (hstretch.trans hqs)
  | subSelect =>
    cases hp with
    | expr h hqs =>
      obtain ⟨rs, hrs, h⟩ := bind_eq_ok h
      cases h
      have hstretch : rs <:+: .openSelect :: rs ++ [Piece.closeSelect] := ⟨[_], [_], rfl⟩
      exact .select hrs (hstretch.trans hqs)
  | definition hd =>
    cases hp with
    | reference h hqs => exact definition_stretch hd h hqs
    | leftOut hnone =>
      rw [hnone] at hd
      cases hd

end Steps

/-! ### Statements -/

namespace Statement

variable {dialect : Dialect} {g : Registry} {ps : List Piece}

/-- The parts of an update: its assignments and its restriction. -/
theorem update_stands {u : Update} (hps : updatePieces ((Statement.update u).frame dialect g) u = .ok ps) :
    (∀ a ∈ u.assignments, ((Statement.update u).frame dialect g).Stands ps ⟨[], .expr a.2⟩) ∧
      ∀ c, u.condition = some c → ((Statement.update u).frame dialect g).Stands ps ⟨[], .condition c⟩ := by
  obtain ⟨condition, schema, table, n, depth, assignments, restriction, hcondition, -, -, -, hassignments,
    hrestriction, rfl⟩ := updatePieces_eq_ok hps
  refine ⟨fun a ha => ?_, fun c hc => ?_⟩
  · obtain ⟨qs, hqs, ha⟩ := mapM_mem hassignments ha
    obtain ⟨field, rs, hrs, rfl⟩ := assignmentPieces_eq_ok ha
    have inAssignments : rs <:+: separated ", " assignments :=
      List.infix_append_right.trans (infix_separated hqs)
    exact .expr hrs (inAssignments.trans (List.infix_append_of_infix_left List.infix_append_right))
  · cases hcondition.symm.trans hc
    exact .condition hrestriction List.infix_append_right

/-- The restriction of a delete. -/
theorem delete_stands {d : Delete} (hps : statementPieces dialect g (.delete d) = .ok ps) :
    ((Statement.delete d).frame dialect g).Stands ps ⟨[], .condition d.condition⟩ := by
  obtain ⟨schema, table, depth, restriction, -, -, ⟨halias, hrestriction, n, -, rfl⟩ |
    ⟨halias, hrestriction, rfl⟩⟩ := deletePieces_eq_ok hps
  · rw [frame_delete_aliased halias]
    exact .condition hrestriction List.infix_append_right
  · rw [frame_delete_unaliased halias]
    exact .condition hrestriction List.infix_append_right

/-- What is written at any site that the writing of a statement comes by stands in the statement. -/
theorem Reaches.stands {s : Statement} {p : Site} (hps : statementPieces dialect g s = .ok ps)
    (h : s.Reaches (s.frame dialect g) p) :
    (s.frame dialect g).Stands ps p ∧ ∀ s', p.item = .statement s' → p = ⟨[], .statement s⟩ := by
  induction h with
  | start => exact ⟨.statement, fun _ _ => rfl⟩
  | @step p q hp hpq ih =>
    obtain ⟨hstands, hstart⟩ := ih
    refine ⟨?_, fun s' hs' => by cases hpq <;> cases hs'⟩
    by_cases hstatement : ∃ s', p.item = .statement s'
    · -- the first step leads to the parts of the statement
      obtain ⟨s', hs'⟩ := hstatement
      cases hstart s' hs'
      cases hpq with
      | select => exact .select hps List.infix_rfl
      | assignment ha => exact (update_stands hps).1 _ ha
      | update hc => exact (update_stands hps).2 _ hc
      | delete => exact delete_stands hps
    · exact hpq.stands hstands fun s' hs' => hstatement ⟨s', hs'⟩

end Statement

end RecordSql
