import RecordSql.Proofs.Registration
import RecordSql.Proofs.Rendering.Lists

/-!
# Selects and inserts that have items for their lists

The lists of a statement are filled exactly if the selects and the insert that are written have something
to put into them. What is written has been validated, so that the lists of values and of conditions are
never empty; what a select projects, reads, groups and sorts by, and the columns of an insert, are not
looked at anywhere before they are written.

- `statement_filled`: if whatever is written has items, then the lists of the statement are filled.
- `Select.supplies_of_filled`, `Insert.supplies_of_filled`: if the lists are filled, then a select or an insert
  has items.
- `Statement.Reaches.select_stands`: what follows a select in its statement.
- `lists_filled`: the lists of compiled statements.
-/

namespace RecordSql

section Filled

variable {k : ListKind} {f : Frame} {s : Statement} {ps : List Piece}

/-! ### Statements -/

/-- The restriction of an update or a delete. -/
theorem restriction_filled (hs : s.Supplied f k) {c : Condition} {depth : Nat}
    (h : s.Reaches f ⟨[], .condition c⟩) (hps : conditionPieces (expandWith depth) f c = .ok ps) :
    k.filled ps := by
  have hx : s.ExpandsItems f k (expandWith depth) := expandWith_items hs depth
  refine condition_filled hx hs.validated h (fun e he qs hqs => ?_) hps
  subst he
  exact (item_cases hs hx).expr e [] (h.step .condition) qs hqs

theorem slot_item {i : Insert} {identity : List String} {field : FieldSchema}
    (h : insertSlot i identity field = .ok ps) : k.Item ps := by
  obtain rfl | ⟨v, -, rfl⟩ := insertSlot_eq_ok h
  · exact .single (by decide) (by decide)
  · exact .single rfl rfl

/-- The lists of an insert are filled if it has a column to write to. -/
theorem insert_filled {i : Insert} (hsupplies : i.Supplies f.registry k) (h : insertPieces f i = .ok ps) :
    k.filled ps := by
  obtain ⟨schema, table, slots, hschema, -, hslots, rfl⟩ := insertPieces_eq_ok h
  have stored : k = .columns ∨ k = .slots → schema.storedFields ≠ [] := by
    rintro (rfl | rfl) <;>
    · obtain ⟨schema', hschema', hstored⟩ := hsupplies
      cases hschema.symm.trans hschema'
      exact hstored
  have items : ∀ qs ∈ schema.storedFields.map fun c => [Piece.ident c.columnName], k.Item qs :=
    List.forall_mem_map.2 fun c _ => .single rfl rfl
  have slotItems : ∀ qs ∈ slots, k.Item qs := by
    intro qs hqs
    obtain ⟨field, -, hfield⟩ := mem_of_mapM hslots qs hqs
    exact slot_item hfield
  have hlength : schema.storedFields.length = slots.length := (mapM_eq_ok hslots).length_eq
  have columns : k.filled (.word " (" ::
      separated ", " (schema.storedFields.map fun c => [Piece.ident c.columnName])) := by
    refine ListKind.filled_items (j := .columns) (by decide) items fun hk hnil => ?_
    exact stored (.inl hk.symm) (List.map_eq_nil_iff.1 hnil)
  have values : k.filled (.word "values (" :: separated ", " slots) := by
    refine ListKind.filled_items (j := .slots) (by decide) slotItems fun hk hnil => ?_
    rw [hnil] at hlength
    exact stored (.inr hk.symm) (List.length_eq_zero_iff.1 hlength)
  have front : k.filled [Piece.word "insert into ", .ident table] :=
    ListKind.filled_plain (List.forall_mem_cons.2 ⟨by decide, List.forall_mem_singleton.2 rfl⟩)
  have middle : k.filled [Piece.word ")", .clauseBreak] := ListKind.filled_plain (by decide)
  have back : k.filled [Piece.word ")"] := ListKind.filled_plain (by decide)
  have whole := ListKind.filled_append (ListKind.filled_append (ListKind.filled_append
    (ListKind.filled_append front columns) middle) values) back
  simpa using whole

/-- An update that is written assigns something. -/
theorem updatePieces_assigns {u : Update} (h : updatePieces f u = .ok ps) : u.assignments ≠ [] := by
  intro hnil
  unfold updatePieces at h
  rw [hnil] at h
  split at h <;> cases h

theorem update_filled {u : Update} (hs : (Statement.update u).Supplied f k)
    (h : updatePieces f u = .ok ps) : k.filled ps := by
  have hassigns := updatePieces_assigns h
  obtain ⟨condition, schema, table, n, depth, assignments, restriction, hcondition, -, -, -, hassignments,
    hrestriction, rfl⟩ := updatePieces_eq_ok h
  have hx : (Statement.update u).ExpandsItems f k (expandWith depth) := expandWith_items hs depth
  have items : ∀ qs ∈ assignments, k.Item qs := by
    intro qs hqs
    obtain ⟨a, ha, hqs⟩ := mem_of_mapM hassignments qs hqs
    obtain ⟨field, rs, hrs, rfl⟩ := assignmentPieces_eq_ok hqs
    have value : k.Item rs := (item_cases hs hx).expr a.2 [] (.step .start (.assignment ha)) rs hrs
    have equation : k.filled [Piece.word " = "] := ListKind.filled_plain (by decide)
    exact .cons rfl rfl (ListKind.filled_append equation value.filled)
  have list : k.filled (.word "set " :: separated ", " assignments) := by
    refine ListKind.filled_items (j := .assignments) (by decide) items fun _ hnil => hassigns ?_
    have hlength := (mapM_eq_ok hassignments).length_eq
    rw [hnil] at hlength
    exact List.length_eq_zero_iff.1 hlength
  have front : k.filled [Piece.word "update ", .table table (.abbreviation n), .clauseBreak] :=
    ListKind.filled_plain (List.forall_mem_cons.2 ⟨by decide, List.forall_mem_cons.2 ⟨rfl, by decide⟩⟩)
  have restricted : k.filled restriction := restriction_filled hs (.step .start (.update hcondition)) hrestriction
  have whole := ListKind.filled_append (ListKind.filled_append front list) restricted
  simpa using whole

end Filled

/-- If whatever is written has items for its lists, then the lists of the statement are filled. -/
theorem statement_filled {dialect : Dialect} {g : Registry} {s : Statement} {k : ListKind} {ps : List Piece}
    (hs : s.Supplied (s.frame dialect g) k) (h : statementPieces dialect g s = .ok ps) : k.filled ps := by
  cases s with
  | select t =>
    have hx := expandWith_items hs (expansionDepth t.definitionCount)
    exact (item_cases hs hx).select t [] (.step .start .select) ps h
  | insert i => exact insert_filled (hs.supplies _ .start) h
  | update u => exact update_filled hs h
  | delete d =>
    have restricted {depth restriction} (hps : conditionPieces (expandWith depth)
        ((Statement.delete d).frame dialect g) d.condition = .ok restriction) : k.filled restriction :=
      restriction_filled hs (.step .start .delete) hps
    obtain ⟨schema, table, depth, restriction, -, -, ⟨halias, hrestriction, n, -, rfl⟩ |
      ⟨halias, hrestriction, rfl⟩⟩ := deletePieces_eq_ok h
    · refine ListKind.filled_append ?_ (restricted (Statement.frame_delete_aliased halias ▸ hrestriction))
      exact ListKind.filled_plain (List.forall_mem_cons.2 ⟨by decide, List.forall_mem_singleton.2 rfl⟩)
    · refine ListKind.filled_append ?_ (restricted (Statement.frame_delete_unaliased halias ▸ hrestriction))
      exact ListKind.filled_plain (List.forall_mem_cons.2 ⟨by decide, List.forall_mem_singleton.2 rfl⟩)

/-! ### Selects and inserts that have items -/

section Supplies

variable {k : ListKind} {f : Frame} {expand : Frame → Expr → Rendered} {ps : List Piece}

theorem joins_end {js : List Join} (h : joinPieces expand f js = .ok ps) : beginsItem ps = false := by
  cases js with
  | nil =>
    cases h
    rfl
  | cons j js =>
    cases j
    obtain ⟨table, -, h⟩ := bind_eq_ok h
    obtain ⟨on, -, h⟩ := bind_eq_ok h
    obtain ⟨rest, -, h⟩ := bind_eq_ok h
    cases h
    rfl

theorem where_end {c : Option Condition} (h : wherePieces expand f c = .ok ps) : beginsItem ps = false := by
  cases c with
  | none =>
    cases h
    rfl
  | some c =>
    cases c <;>
    · obtain ⟨qs, -, h⟩ := bind_eq_ok h
      cases h
      rfl

theorem groups_end {groupBy : Option (List Expr)} (h : groupPieces expand f groupBy = .ok ps) :
    beginsItem ps = false := by
  obtain ⟨-, rfl⟩ | ⟨es, pss, -, -, rfl⟩ := groupPieces_eq_ok h <;> rfl

theorem order_end {orderBy : Option (List OrderTerm)} (h : sortPieces expand f orderBy = .ok ps) :
    beginsItem ps = false := by
  obtain ⟨-, rfl⟩ | ⟨ts, pss, -, -, rfl⟩ := sortPieces_eq_ok h <;> rfl

theorem limit_end (limit : Option Limit) : beginsItem (limitPieces limit) = false := by
  cases limit <;> rfl

theorem lock_end (forUpdate : Bool) : beginsItem (lockPieces forUpdate) = false := by
  cases forUpdate <;> rfl

/-- A projection that is not empty has a field. -/
theorem projection_supplies {t : Select} {projection rest : List Piece}
    (h : projectionPieces expand f t.record t.fields = .ok projection) (hrest : beginsItem rest = false)
    (hbegins : beginsItem (projection ++ rest)) : t.Supplies f .projection := by
  obtain ⟨schema, fields, items, hschema, hfields, hitems, rfl⟩ := projectionPieces_eq_ok h
  refine ⟨schema, fields, hschema, hfields, ?_⟩
  by_contra hnone
  have hnil : fields.filter (f.projects t.record) = [] := by
    refine List.filter_eq_nil_iff.2 fun field hfield hprojects => hnone ⟨field, hfield, hprojects⟩
  rw [hnil] at hitems
  cases hitems
  exact Bool.eq_false_iff.1 hrest hbegins

/-- If the lists of a select are filled, then the select has items for them. -/
theorem Select.supplies_of_filled {around : List Select} {t : Select} {qs rest : List Piece}
    (h : selectPieces expand (f.within around) t = .ok qs) (hrest : beginsItem rest = false)
    (hfilled : k.filled (qs ++ rest)) : t.Supplies (f.within (t :: around)) k := by
  obtain ⟨projection, tables, joined, condition, groups, order, hprojection, htables, hjoined, hwhere,
    hgroups, horder, rfl⟩ := selectPieces_eq_ok h
  -- what follows each of the lists does not begin with an item
  have afterOrder : beginsItem (limitPieces t.limit ++ (lockPieces t.forUpdate ++ rest)) = false :=
    not_beginsItem_append (limit_end _) (not_beginsItem_append (lock_end _) hrest)
  have afterGroups := not_beginsItem_append (order_end horder) afterOrder
  have afterTables := not_beginsItem_append (joins_end hjoined) (not_beginsItem_append (where_end hwhere)
    (not_beginsItem_append (groups_end hgroups) afterGroups))
  -- the clauses from each of the lists on
  simp only [List.append_assoc, List.cons_append, List.nil_append] at hfilled
  have fromSources := (ListKind.filled_cons.1 (ListKind.filled_suffix (ListKind.filled_cons.1 hfilled).2)).2
  have fromGroups := ListKind.filled_suffix (ListKind.filled_suffix (ListKind.filled_suffix
    (ListKind.filled_cons.1 fromSources).2))
  have fromOrder := ListKind.filled_suffix fromGroups
  cases k with
  | projection => exact projection_supplies hprojection rfl (ListKind.begins_of_filled hfilled)
  | sources =>
    intro hsources
    obtain ⟨pss, hpss, htables⟩ := bind_eq_ok htables
    rw [hsources] at hpss
    cases hpss
    cases htables
    exact Bool.eq_false_iff.1 afterTables (ListKind.begins_of_filled fromSources)
  | groups =>
    intro hnil
    rw [hnil] at hgroups
    cases hgroups
    exact Bool.eq_false_iff.1 afterGroups (ListKind.begins_of_filled (ListKind.filled_cons.1 fromGroups).2)
  | order =>
    intro hnil
    rw [hnil] at horder
    cases horder
    exact Bool.eq_false_iff.1 afterOrder (ListKind.begins_of_filled (ListKind.filled_cons.1 fromOrder).2)
  | choice | assignments | columns | slots => trivial

/-- If the lists of an insert are filled, then it has a column to write to. -/
theorem Insert.supplies_of_filled {i : Insert} (h : insertPieces f i = .ok ps) (hfilled : k.filled ps) :
    i.Supplies f.registry k := by
  obtain ⟨schema, table, slots, hschema, -, hslots, rfl⟩ := insertPieces_eq_ok h
  have hlength : schema.storedFields.length = slots.length := (mapM_eq_ok hslots).length_eq
  simp only [List.append_assoc, List.cons_append, List.nil_append] at hfilled
  have fromColumns := (ListKind.filled_cons.1 (ListKind.filled_cons.1 hfilled).2).2
  have fromSlots := (ListKind.filled_cons.1 (ListKind.filled_cons.1
    (ListKind.filled_suffix (ListKind.filled_cons.1 fromColumns).2)).2).2
  cases k with
  | columns =>
    refine ⟨schema, hschema, fun hnil => ?_⟩
    have hbegins := ListKind.begins_of_filled fromColumns
    rw [hnil] at hbegins
    cases hbegins
  | slots =>
    refine ⟨schema, hschema, fun hnil => ?_⟩
    have hbegins := ListKind.begins_of_filled fromSlots
    rw [hnil] at hlength
    rw [List.length_eq_zero_iff.1 hlength.symm] at hbegins
    cases hbegins
  | projection | sources | groups | order | choice | assignments => trivial

end Supplies

/-- A select that is written stands in the statement, and what follows it there is no item of its lists. -/
theorem Statement.Reaches.select_stands {dialect : Dialect} {g : Registry} {s : Statement} {ps : List Piece}
    {outside : List Select} {t : Select} (hps : statementPieces dialect g s = .ok ps)
    (h : s.Reaches (s.frame dialect g) ⟨outside, .select t⟩) :
    ∃ around depth before qs rest, outside = t :: around ∧
      selectPieces (expandWith depth) ((s.frame dialect g).within around) t = .ok qs ∧
      ps = before ++ (qs ++ rest) ∧ beginsItem rest = false := by
  cases h with
  | step hp hpq =>
    obtain ⟨hstands, hstart⟩ := hp.stands hps
    cases hpq with
    | select =>
      cases hstart _ rfl
      exact ⟨[], _, [], ps, [], rfl, hps, (List.append_nil ps).symm, rfl⟩
    | @subSelect around =>
      cases hstands with
      | @expr depth _ _ qs hqs hstretch =>
        obtain ⟨rs, hrs, hqs⟩ := bind_eq_ok hqs
        cases hqs
        obtain ⟨before, after, hps⟩ := hstretch
        refine ⟨around, depth, before ++ [.openSelect], rs, .closeSelect :: after, rfl, hrs, ?_, rfl⟩
        rw [← hps]
        simp

/-- If the lists of a statement are filled, then whatever is written has items for them. -/
theorem Statement.Reaches.supplies {dialect : Dialect} {g : Registry} {s : Statement} {k : ListKind}
    {ps : List Piece} {p : Site} (hps : statementPieces dialect g s = .ok ps) (hfilled : k.filled ps)
    (h : s.Reaches (s.frame dialect g) p) : p.Supplies (s.frame dialect g) k := by
  obtain ⟨outside, item⟩ := p
  cases item with
  | select t =>
    obtain ⟨around, depth, before, qs, rest, rfl, hqs, rfl, hrest⟩ := h.select_stands hps
    exact Select.supplies_of_filled hqs hrest (ListKind.filled_suffix hfilled)
  | statement s' =>
    cases (h.stands hps).2 s' rfl
    cases s with
    | insert i => exact Insert.supplies_of_filled hps hfilled
    | select | update | delete => trivial
  | condition | expr | reference => trivial

/-! ### Compiled statements -/

/-- The lists of some kind that a validated statement compiles to are filled exactly if whatever is written
has items for them: every select, in sub-selects and in the definitions that are substituted too, projects
a field and brings along no empty sources, groups or order, and an insert has a column to write to. There
is nothing to ask of the values that a column is compared with, nor of the assignments of an update: these
are never empty. -/
theorem lists_filled {catalog : Catalog} {options : Options} {s : Statement} {σ : Session} {c : Compiled}
    (hs : s.Validated) (h : ((compile catalog options s).runIn σ).1 = .ok c) :
    ∃ g σ' ps, (Registry.build catalog s.records).runIn σ = (.ok g, σ') ∧
      statementPieces options.dialect g s = .ok ps ∧ c = .ofPieces options ps ∧
      (∀ k : ListKind, k.filled ps ↔
        ∀ p, s.Reaches (s.frame options.dialect g) p → p.Supplies (s.frame options.dialect g) k) ∧
      ListKind.choice.filled ps ∧ ListKind.assignments.filled ps := by
  obtain ⟨g, σ', ps, hg, -, hps, rfl⟩ := compile_ok h
  have validated : ∀ p, s.Reaches (s.frame options.dialect g) p → p.item.Validated :=
    fun p hp => hp.validated hs (s.frame_selects options.dialect g)
  have filled : ∀ k : ListKind, k.filled ps ↔
      ∀ p, s.Reaches (s.frame options.dialect g) p → p.Supplies (s.frame options.dialect g) k := by
    intro k
    constructor
    · intro hfilled p hp
      exact hp.supplies hps hfilled
    · intro hsupplies
      exact statement_filled ⟨validated, hsupplies⟩ hps
  refine ⟨g, σ', ps, hg, hps, rfl, filled, (filled .choice).2 ?_, (filled .assignments).2 ?_⟩ <;>
  · rintro ⟨around, item⟩ -
    cases item with
    | statement s' => cases s' <;> trivial
    | select | condition | expr | reference => trivial

/-- Reviews of two novels. -/
def twoReviews : Select where
  record := review
  fields := ["id"]
  condition := some (.expr (.inList (.of review "novel") [.integer 7, .integer 8]))

/-- Novels with such reviews. Their price is asked for, but not defined. -/
def discussedNovels : Select where
  record := novel
  fields := ["price", "id"]
  condition := some (.expr (.exists twoReviews))
  orderBy := some [⟨.column (.of novel "id"), .ascending⟩]

/-- Novels of which only the price is asked for. -/
def unpricedNovels : Select where
  record := novel
  fields := ["price"]

theorem discussedNovels_validated : (Statement.select discussedNovels).Validated := by
  have column : (Item.expr (.column (.of novel "id"))).Whole := Expr.whole_of_leaf rfl nofun trivial
  have choice : (Item.expr (.inList (.of review "novel") [.integer 7, .integer 8])).Whole :=
    Expr.whole_of_leaf rfl nofun rfl
  have inner : (Item.select twoReviews).Whole := by
    refine Select.whole_of_parts (List.forall_mem_nil _) (fun c hc => ?_) (List.forall_mem_nil _)
    cases hc
    exact Condition.whole_of_expr choice
  refine Statement.validated_of_select (Select.whole_of_parts (List.forall_mem_nil _) (fun c hc => ?_) ?_)
  · cases hc
    exact Condition.whole_of_expr (Expr.whole_of_select inner)
  · exact List.forall_mem_singleton.2 column

theorem unpricedNovels_validated : (Statement.select unpricedNovels).Validated :=
  Statement.validated_of_select (Select.whole_of_parts (List.forall_mem_nil _) nofun (List.forall_mem_nil _))

/-- The price is left out of the projection, and the number is still there. -/
theorem discussedNovels_filled :
    (Statement.select discussedNovels).Validated ∧
    ∃ c g ps, ((compile bookshop {} (.select discussedNovels)).runIn openShop).1 = .ok c ∧
      c.sql = "select t0.id from novels as t0 where exists (select t1.id from reviews as t1 " ++
        "where t1.novel in (?, ?)) order by t0.id asc" ∧
      statementPieces .mySql g (.select discussedNovels) = .ok ps ∧ c = .ofPieces {} ps ∧
      ∀ k : ListKind, k.filled ps ∧ ∀ p,
        (Statement.select discussedNovels).Reaches ((Statement.select discussedNovels).frame .mySql g) p →
        p.Supplies ((Statement.select discussedNovels).frame .mySql g) k := by
  obtain ⟨c, hc, hsql⟩ : ∃ c,
      ((compile bookshop {} (.select discussedNovels)).runIn openShop).1 = .ok c ∧
      c.sql = "select t0.id from novels as t0 where exists (select t1.id from reviews as t1 " ++
        "where t1.novel in (?, ?)) order by t0.id asc" := by
    rw [compile_runIn, build_register (by decide)]
    exact ⟨_, rfl, by decide +kernel⟩
  have hbuild : (Registry.build bookshop (Statement.select discussedNovels).records).runIn openShop =
      (.ok (shopRegistry [novel, review]), openShop) := build_register (by decide)
  obtain ⟨g, σ, ps, hg, hps, hcompiled, hfilled, -⟩ := lists_filled discussedNovels_validated hc
  cases hbuild.symm.trans hg
  have hall : ∀ k : ListKind, k.filled ps := by
    cases hps
    intro k
    cases k <;> decide +kernel
  refine ⟨discussedNovels_validated, c, _, ps, hc, hsql, hps, hcompiled, fun k => ⟨hall k, ?_⟩⟩
  exact (hfilled k).1 (hall k)

/-- Nothing is left of a projection that asks for fields that are optional and not defined. -/
theorem unpricedNovels_unfilled :
    (Statement.select unpricedNovels).Validated ∧
    ∃ c g ps, ((compile bookshop {} (.select unpricedNovels)).runIn openShop).1 = .ok c ∧
      c.sql = "select  from novels as t0" ∧
      statementPieces .mySql g (.select unpricedNovels) = .ok ps ∧ c = .ofPieces {} ps ∧
      ListKind.projection.filled ps = false := by
  have hbuild : (Registry.build bookshop (Statement.select unpricedNovels).records).runIn openShop =
      (.ok (shopRegistry [novel]), openShop) := build_register (by decide)
  refine ⟨unpricedNovels_validated, ?_⟩
  rw [compile_runIn, hbuild]
  exact ⟨_, shopRegistry [novel], _, rfl, by decide +kernel, rfl, rfl, rfl⟩

end RecordSql
