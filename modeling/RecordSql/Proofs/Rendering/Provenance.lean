import RecordSql.Proofs.Rendering.Simulation.Clauses
import RecordSql.Proofs.Rendering.Simulation.Keys
import RecordSql.Proofs.Rendering.Sites

/-!
# Where columns come from

Every column in the pieces of a statement has been written at a site that the writing of the statement
comes by, and the tables declared around the column are those of the selects around the site.

- `Statement.Written`: pieces that have been written at a site with the same tables around it.
- `Statement.Parts`: what is written inside of some selects, with the labels that it declares.
- `selectPieces_parts`, `rendersCases`: selects and expressions, given their parts.
- `expandWith_expands`: definitions, whatever depth they are substituted to.
- `statementPieces_written`: whole statements.
-/

namespace RecordSql

/-- Whether a piece names no table. -/
def Piece.isFree : Piece → Bool
  | .table .. | .column .. | .openSelect | .closeSelect => false
  | _ => true

/-- A piece that has been written at a site with these surroundings. -/
def Statement.Written (s : Statement) (f : Frame) (target around : Surroundings) (p : Piece) : Prop :=
  ∃ site, s.Reaches f site ∧ around = site.surroundings f.registry target ∧
    ∀ label name, p = .column label name → f.Writes site label name

theorem limitPieces_free (limit : Option Limit) : ∀ p ∈ limitPieces limit, p.isFree := by
  cases limit <;> simp [limitPieces, Piece.isFree]

theorem lockPieces_free (forUpdate : Bool) : ∀ p ∈ lockPieces forUpdate, p.isFree := by
  cases forUpdate <;> simp [lockPieces, Piece.isFree]

theorem fieldAlias_free (use : ColumnUse) (field : String) : ∀ p ∈ fieldAlias use field, p.isFree := by
  cases use <;> simp [fieldAlias, Piece.isFree]

theorem insertSlot_free {i : Insert} {identity : List String} {field : FieldSchema} {ps : List Piece}
    (h : insertSlot i identity field = .ok ps) : ∀ p ∈ ps, p.isFree := by
  obtain rfl | ⟨v, -, rfl⟩ := insertSlot_eq_ok h
  · decide
  · exact List.forall_mem_singleton.2 rfl

namespace Statement

variable {s : Statement} {f : Frame} {target : Surroundings}

/-- What is written inside of some selects. -/
abbrev Parts (s : Statement) (f : Frame) (target : Surroundings) (around : List Select)
    (labels : List TableLabel) (ps : List Piece) : Prop :=
  Surrounded (s.Written f target) (around.map f.registry.labels ++ target) labels ps

/-- Expressions are expanded to what has been written at their sites. -/
def Expands (s : Statement) (f : Frame) (target : Surroundings) (expand : Frame → Expr → Rendered) :
    Prop :=
  ∀ around e ps, s.Reaches f ⟨around, .expr e⟩ → expand (f.within around) e = .ok ps →
    s.Parts f target around [] ps

/-- An expression is rendered to what has been written at its sites. -/
def Renders (s : Statement) (f : Frame) (target : Surroundings) (expand : Frame → Expr → Rendered)
    (e : Expr) : Prop :=
  ∀ around ps, s.Reaches f ⟨around, .expr e⟩ → exprPieces expand (f.within around) e = .ok ps →
    s.Parts f target around [] ps

section Sites

variable {expand : Frame → Expr → Rendered} {around : List Select} {item : Item} {ps : List Piece}

/-! ### Single pieces -/

theorem Reaches.written (h : s.Reaches f ⟨around, item⟩) {p : Piece}
    (hp : ∀ label name, p ≠ .column label name) :
    s.Written f target (around.map f.registry.labels ++ target) p :=
  ⟨_, h, rfl, fun label name hc => absurd hc (hp label name)⟩

theorem Reaches.free (h : s.Reaches f ⟨around, item⟩) (target : Surroundings) (fixed : List Piece)
    (hf : ∀ p ∈ fixed, p.isFree) : s.Parts f target around [] fixed := by
  refine .inners fun p hp => ⟨?_, h.written fun label name hc => ?_⟩
  · have hfree := hf p hp
    cases p <;> first | rfl | exact absurd hfree Bool.false_ne_true
  · have hfree := hf p hp
    rw [hc] at hfree
    exact absurd hfree Bool.false_ne_true

theorem Reaches.column (h : s.Reaches f ⟨around, item⟩) {label : TableLabel} {name : String}
    (hw : f.Writes ⟨around, item⟩ label name) :
    s.Parts f target around [] [.column label name] := by
  refine .inner rfl ⟨_, h, rfl, fun _ _ hc => ?_⟩
  cases hc
  exact hw

theorem Reaches.table (h : s.Reaches f ⟨around, item⟩) (target : Surroundings) (name : String)
    (label : TableLabel) : s.Parts f target around [label] [.table name label] :=
  .table (h.written fun _ _ => nofun)

theorem Reaches.parenthesized (h : s.Reaches f ⟨around, item⟩) (hps : s.Parts f target around [] ps) :
    s.Parts f target around [] (parenthesized ps) :=
  ((h.free _ [.word "("] (by decide)).both hps).both (h.free _ _ (by decide))

/-- An operand, which may stand between parentheses. -/
theorem Reaches.operand (h : s.Reaches f ⟨around, item⟩) (hps : s.Parts f target around [] ps)
    (compound : Bool) : s.Parts f target around [] (if compound then RecordSql.parenthesized ps else ps) := by
  cases compound with
  | true => exact h.parenthesized hps
  | false => exact hps

/-- Items of a list between separators. -/
theorem Reaches.separated (h : s.Reaches f ⟨around, item⟩) {separator : String}
    {pss : List (List Piece)} (hps : ∀ ps ∈ pss, s.Parts f target around [] ps) :
    s.Parts f target around [] (separated separator pss) := by
  have items : List.Forall₂ (fun (_ : List Piece) ps => s.Parts f target around [] ps) pss pss :=
    List.forall₂_same.2 hps
  have joined : s.Parts f target around (pss.flatMap fun _ => []) (RecordSql.separated separator pss) :=
    .separated (h.written fun _ _ => nofun) items
  rw [List.flatMap_eq_nil_iff.2 fun _ _ => rfl] at joined
  exact joined

/-- Placeholders between two words. -/
theorem Reaches.values (h : s.Reaches f ⟨around, item⟩) (front back : String) (values : List Value) :
    s.Parts f target around [] (.word front :: valueList values ++ [Piece.word back]) := by
  have placeholders : s.Parts f target around [] (valueList values) := by
    refine h.separated (List.forall_mem_map.2 fun v _ => h.free _ _ ?_)
    exact List.forall_mem_singleton.2 rfl
  exact ((h.free _ [.word front] (by simp [Piece.isFree])).both placeholders).both
    (h.free _ _ (by simp [Piece.isFree]))

/-! ### References -/

theorem referencePieces_parts (hx : s.Expands f target expand) {use : ColumnUse} {c : FieldRef}
    (h : s.Reaches f ⟨around, .reference use c⟩)
    (hps : referencePieces expand (f.within around) use c = .ok ps) :
    s.Parts f target around [] ps := by
  rw [referencePieces_eq] at hps
  obtain ⟨r, hr, hps⟩ := bind_eq_ok hps
  cases r with
  | name n =>
    cases hps
    exact h.free _ _ (by simp [Piece.isFree])
  | definition d =>
    obtain ⟨qs, hqs, hps⟩ := bind_eq_ok hps
    cases hps
    have hd := hx around d.expr qs (h.step (.definition (Frame.resolve_definition hr))) hqs
    exact hd.both (h.free _ _ (fieldAlias_free use c.field))
  | literal sql =>
    cases hps
    exact h.free _ _ (List.forall_mem_cons.2 ⟨rfl, fieldAlias_free use c.field⟩)
  | column label n =>
    cases hps
    exact h.column (.reference hr)

theorem fullTextPieces_parts {record : RecordType} {index query : String}
    (h : s.Reaches f ⟨around, .expr (.fullText record index query)⟩)
    (hps : fullTextPieces (f.within around) record index query = .ok ps) :
    s.Parts f target around [] ps := by
  unfold fullTextPieces at hps
  rw [f.within_registry] at hps
  obtain ⟨schema, -, hps⟩ := bind_eq_ok hps
  split at hps
  · cases hps
  · rename_i i _
    obtain ⟨t, ht, hps⟩ := bind_eq_ok hps
    split at hps
    · obtain ⟨columns, hcolumns, hps⟩ := bind_eq_ok hps
      cases hps
      have hmem : ∀ qs ∈ columns, s.Parts f target around [] qs := by
        intro qs hqs
        obtain ⟨name, -, hname⟩ := mem_of_mapM hcolumns qs hqs
        obtain ⟨label, hl, hname⟩ := bind_eq_ok hname
        obtain ⟨field, -, hname⟩ := bind_eq_ok hname
        cases hname
        rw [Frame.label_within] at hl
        exact h.column (.fullText ht hl)
      have front := h.free target [.word "match("] (by decide)
      have back := h.free target [.word ") against (", .value (.string query), .word " in boolean mode)"]
        (by simp [Piece.isFree])
      exact (front.both (h.separated hmem)).both back
    · obtain ⟨label, hl, hps⟩ := bind_eq_ok hps
      cases hps
      rw [Frame.label_within] at hl
      have column : s.Parts f target around [] [.column label (fullTextColumn i.name)] :=
        h.column (.fullText ht hl)
      exact column.both (h.free _ _ (by simp [Piece.isFree]))

/-! ### Conditions -/

theorem componentsPieces_parts (hx : s.Expands f target expand) {record : RecordType}
    {components : List (String × Value)} {pss : List (List Piece)}
    (h : ∀ p ∈ components, s.Reaches f ⟨around, .reference .key (.of record p.1)⟩)
    (hps : componentsPieces expand (f.within around) record components = .ok pss) :
    ∀ ps ∈ pss, s.Parts f target around [] ps := by
  intro ps hmem
  obtain ⟨p, hp, hps⟩ := mem_of_mapM hps ps hmem
  obtain ⟨column, hcolumn, hps⟩ := bind_eq_ok hps
  cases hps
  have value := (h p hp).free target (if p.2.isNull then [.word " is null"] else [.word " = ", .value p.2])
    (by split <;> simp [Piece.isFree])
  exact (referencePieces_parts hx (h p hp) hcolumn).both value

theorem keyPieces_parts (hx : s.Expands f target expand) {k : Key}
    (h : s.Reaches f ⟨around, .condition (.key k)⟩)
    (hps : keyPieces expand (f.within around) k = .ok ps) : s.Parts f target around [] ps := by
  obtain ⟨values, pss, -, hpss, rfl⟩ := keyPieces_eq_ok hps
  rw [f.within_registry] at hpss
  exact h.separated (componentsPieces_parts hx (fun p hp => h.step (.key (List.of_mem_zip hp).1)) hpss)

theorem multiKeyPieces_parts (hx : s.Expands f target expand) {k : MultiKey}
    (h : s.Reaches f ⟨around, .condition (.multiKey k)⟩)
    (hps : multiKeyPieces expand (f.within around) k = .ok ps) :
    s.Parts f target around [] ps := by
  obtain ⟨values, pss, column, hvarying, -, hpss, hcolumn, rfl⟩ := multiKeyPieces_eq_ok hps
  rw [f.within_registry] at hvarying hpss
  have fixed := componentsPieces_parts hx
    (fun p hp => h.step (.multiKey (List.mem_filter.1 (List.of_mem_zip hp).1).1)) hpss
  have varying := referencePieces_parts hx (h.step (.multiKey hvarying)) hcolumn
  have choice := varying.both (h.values " in (" ")" k.values)
  refine h.separated (List.forall_mem_append.2 ⟨fixed, List.forall_mem_singleton.2 ?_⟩)
  rw [List.append_assoc]
  exact choice

theorem conditionPieces_parts (hx : s.Expands f target expand) {c : Condition}
    (he : ∀ e, c = .expr e → s.Renders f target expand e) (h : s.Reaches f ⟨around, .condition c⟩)
    (hps : conditionPieces expand (f.within around) c = .ok ps) :
    s.Parts f target around [] ps := by
  have front := h.free target [.clauseBreak, .word "where "]
    (by simp [Piece.isFree])
  cases c with
  | expr e =>
    obtain ⟨qs, hqs, hps⟩ := bind_eq_ok hps
    cases hps
    exact front.both (he e rfl around qs (h.step .condition) hqs)
  | key k =>
    obtain ⟨qs, hqs, hps⟩ := bind_eq_ok hps
    cases hps
    exact front.both (keyPieces_parts hx h hqs)
  | multiKey k =>
    obtain ⟨qs, hqs, hps⟩ := bind_eq_ok hps
    cases hps
    exact front.both (multiKeyPieces_parts hx h hqs)

/-! ### Tables -/

theorem sourcePieces_parts (h : s.Reaches f ⟨around, item⟩) {record : RecordType}
    {sources : Option (List RecordType)}
    (hps : sourcePieces (f.within around) record sources = .ok ps) :
    s.Parts f target around
      ((sources.getD [record]).filterMap fun r => f.registry.declaredAs? r none) ps := by
  obtain ⟨tables, htables, hps⟩ := bind_eq_ok hps
  cases hps
  have each : List.Forall₂ (fun r ps => s.Parts f target around (f.registry.declaredAs? r none).toList ps)
      (sources.getD [record]) (tables.map fun t => [t]) := by
    refine List.forall₂_map_right_iff.2 ((mapM_eq_ok htables).imp fun r t ht => ?_)
    obtain ⟨name, label, rfl, hlabel⟩ := tablePiece_label ht
    rw [f.within_registry] at hlabel
    rw [hlabel]
    exact h.table _ _ _
  rw [List.filterMap_eq_flatMap_toList]
  exact Surrounded.separated (h.written fun _ _ => nofun) each

theorem joinPieces_parts (h : s.Reaches f ⟨around, item⟩) {js : List Join}
    (he : ∀ j ∈ js, s.Renders f target expand j.condition)
    (hreach : ∀ j ∈ js, s.Reaches f ⟨around, .expr j.condition⟩)
    (hps : joinPieces expand (f.within around) js = .ok ps) :
    s.Parts f target around
      (js.filterMap fun j => f.registry.declaredAs? j.record j.tableAlias) ps := by
  rw [joinPieces_eq] at hps
  obtain ⟨pss, hpss, rfl⟩ := map_eq_ok hps
  have each := mapM_eq_ok hpss
  clear hpss hps
  induction each with
  | nil => exact .nil
  | @cons j ps js pss hj _ ih =>
    obtain ⟨table, on, htable, hon, rfl⟩ := onePieces_eq_ok hj
    obtain ⟨name, label, rfl, hlabel⟩ := joinTable_label htable
    rw [f.within_registry] at hlabel
    have condition := he j List.mem_cons_self around on (hreach j List.mem_cons_self) hon
    have rest := ih (fun i hi => he i (List.mem_cons_of_mem j hi))
      fun i hi => hreach i (List.mem_cons_of_mem j hi)
    have front := h.free target [.clauseBreak, .word (j.kind.text ++ " ")]
      (by simp [Piece.isFree])
    have first := front.append (h.table target name label)
    have middle := h.free target [.word " on "] (by decide)
    rw [List.filterMap_cons, hlabel]
    exact (first.append (middle.both condition)).append rest

/-! ### Expressions and selects -/

theorem projectionPieces_parts (hx : s.Expands f target expand) {select : Select}
    (h : s.Reaches f ⟨around, .select select⟩)
    (hps : projectionPieces expand (f.within around) select.record select.fields = .ok ps) :
    s.Parts f target around [] ps := by
  obtain ⟨schema, fields, items, hschema, hfields, hitems, rfl⟩ := projectionPieces_eq_ok hps
  rw [f.within_registry] at hschema
  refine h.separated fun qs hqs => ?_
  obtain ⟨field, hfield, hqs⟩ := mem_of_mapM hitems qs hqs
  have hname := Simulation.mem_projected hschema hfields (List.mem_filter.1 hfield).1
  exact referencePieces_parts hx (h.step (.projection hname)) hqs

theorem exprsPieces_parts {es : List Expr} {pss : List (List Piece)}
    (he : ∀ e ∈ es, s.Renders f target expand e) (hreach : ∀ e ∈ es, s.Reaches f ⟨around, .expr e⟩)
    (hps : exprsPieces expand (f.within around) es = .ok pss) :
    ∀ qs ∈ pss, s.Parts f target around [] qs := by
  rw [exprsPieces_eq] at hps
  intro qs hqs
  obtain ⟨e, hmem, hqs⟩ := mem_of_mapM hps qs hqs
  exact he e hmem around qs (hreach e hmem) hqs

theorem orderPieces_parts {ts : List OrderTerm} {pss : List (List Piece)}
    (he : ∀ t ∈ ts, s.Renders f target expand t.expr)
    (hreach : ∀ t ∈ ts, s.Reaches f ⟨around, .expr t.expr⟩)
    (hps : orderPieces expand (f.within around) ts = .ok pss) :
    ∀ qs ∈ pss, s.Parts f target around [] qs := by
  rw [orderPieces_eq] at hps
  intro qs hqs
  obtain ⟨t, hmem, hqs⟩ := mem_of_mapM hps qs hqs
  obtain ⟨ps, hps, rfl⟩ := termPieces_eq_ok hqs
  have term := he t hmem around ps (hreach t hmem) hps
  exact term.both ((hreach t hmem).free _ _ (by simp [Piece.isFree]))

/-- A select is put together of its clauses. -/
theorem selectPieces_parts (hx : s.Expands f target expand) {select : Select}
    (hjoins : ∀ j ∈ select.joins, s.Renders f target expand j.condition)
    (hcondition : ∀ e, select.condition = some (.expr e) → s.Renders f target expand e)
    (hgroups : ∀ es, select.groupBy = some es → ∀ e ∈ es, s.Renders f target expand e)
    (horder : ∀ ts, select.orderBy = some ts → ∀ t ∈ ts, s.Renders f target expand t.expr)
    (h : s.Reaches f ⟨select :: around, .select select⟩)
    (hps : selectPieces expand (f.within around) select = .ok ps) :
    s.Parts f target (select :: around) (f.registry.labels select) ps := by
  obtain ⟨projection, tables, joined, condition, groups, order, hprojection, htables, hjoined, hwhere,
    hgroup, hsort, rfl⟩ := selectPieces_eq_ok hps
  -- the sites of the clauses
  have clause : ∀ e ∈ select.clauses, s.Reaches f ⟨select :: around, .expr e⟩ :=
    fun e he => h.step (.clause he)
  have projectionParts := projectionPieces_parts hx h hprojection
  have tableParts : s.Parts f target (select :: around) _ tables := sourcePieces_parts h htables
  have joinParts := joinPieces_parts h hjoins (fun j hj => clause _ (Select.join_mem_clauses hj)) hjoined
  have conditionParts : s.Parts f target (select :: around) [] condition := by
    cases hc : select.condition with
    | none =>
      rw [hc] at hwhere
      cases hwhere
      exact .nil
    | some c =>
      rw [hc] at hwhere
      exact conditionPieces_parts hx (fun e he => hcondition e (he ▸ hc)) (h.step (.restriction hc)) hwhere
  have groupParts : s.Parts f target (select :: around) [] groups := by
    obtain ⟨-, rfl⟩ | ⟨es, pss, hg, hpss, rfl⟩ := groupPieces_eq_ok hgroup
    · exact .nil
    · have items := exprsPieces_parts (hgroups es hg) (fun e he => clause e (Select.group_mem_clauses hg he)) hpss
      exact (h.free _ [.clauseBreak, .word "group by "] (by simp [Piece.isFree])).both
        (h.separated items)
  have orderParts : s.Parts f target (select :: around) [] order := by
    obtain ⟨-, rfl⟩ | ⟨ts, pss, ho, hpss, rfl⟩ := sortPieces_eq_ok hsort
    · exact .nil
    · have items := orderPieces_parts (horder ts ho) (fun t ht => clause _ (Select.order_mem_clauses ho ht)) hpss
      exact (h.free _ [.clauseBreak, .word "order by "] (by simp [Piece.isFree])).both
        (h.separated items)
  have front := h.free target [.word "select "] (by decide)
  have middle := h.free target [.clauseBreak, .word "from "] (by decide)
  have limit := h.free target _ (limitPieces_free select.limit)
  have lock := h.free target _ (lockPieces_free select.forUpdate)
  have body := (((front.both projectionParts).both middle).append tableParts).append joinParts
  have whole := ((((body.append conditionParts).append groupParts).append orderParts).append limit).append
    lock
  have hlabels : f.registry.labels select =
      ((select.sources.getD [select.record]).filterMap fun r => f.registry.declaredAs? r none) ++
        select.joins.filterMap fun j => f.registry.declaredAs? j.record j.tableAlias := by
    rw [Registry.labels, Select.tables, List.filterMap_append, List.filterMap_map, List.filterMap_map]
    rfl
  rw [hlabels]
  simp only [List.append_nil, List.nil_append] at whole
  exact whole

/-! ### Whole renderings -/

/-- What the induction over expressions and selects shows for each of them. -/
theorem rendersCases (hx : s.Expands f target expand) :
    ExprCases (s.Renders f target expand) fun select =>
      ∀ around ps, s.Reaches f ⟨select :: around, .select select⟩ →
        selectPieces expand (f.within around) select = .ok ps →
        s.Parts f target (select :: around) (f.registry.labels select) ps where
  column := fun c around ps h hps => referencePieces_parts hx (h.step (.reference rfl)) hps
  literal := fun sql around ps h hps => by
    cases hps
    exact h.free _ _ (by simp [Piece.isFree])
  value := fun v around ps h hps => by
    cases hps
    exact h.free _ _ (by simp [Piece.isFree])
  call := fun name args ih around ps h hps => by
    obtain ⟨pss, hpss, hps⟩ := bind_eq_ok hps
    cases hps
    have items := exprsPieces_parts ih (fun a ha => h.step (.operand ha)) hpss
    exact (h.free _ [.verbatim name] (by simp [Piece.isFree])).both
      (h.parenthesized (h.separated items))
  epoch := fun e ih around ps h hps => by
    obtain ⟨qs, hqs, hps⟩ := bind_eq_ok hps
    cases hps
    have operand := ih around qs (h.step (.operand (List.mem_singleton_self e))) hqs
    have front := h.free target [.word (epochWord (f.within around).dialect)]
      (by simp [Piece.isFree])
    exact (front.both operand).both (h.free _ _ (by decide))
  binary := fun op l r ihl ihr around ps h hps => by
    obtain ⟨left, hleft, hps⟩ := bind_eq_ok hps
    obtain ⟨right, hright, hps⟩ := bind_eq_ok hps
    cases hps
    have first := ihl around left (h.step (.operand (by simp [Expr.operands]))) hleft
    have second := ihr around right (h.step (.operand (by simp [Expr.operands]))) hright
    have operator := h.free target [.word (" " ++ op.text ++ " ")]
      (by simp [Piece.isFree])
    exact ((h.operand first l.isInfix).both operator).both (h.operand second r.isInfix)
  junction := fun op operands ih around ps h hps => by
    obtain ⟨pss, hpss, hps⟩ := bind_eq_ok hps
    cases hps
    have items := exprsPieces_parts ih (fun a ha => h.step (.operand ha)) hpss
    exact h.separated (List.forall_mem_map.2 fun qs hqs => h.parenthesized (items qs hqs))
  not := fun e ih around ps h hps => by
    obtain ⟨qs, hqs, hps⟩ := bind_eq_ok hps
    cases hps
    have operand := ih around qs (h.step (.operand (List.mem_singleton_self e))) hqs
    exact (h.free _ [.word "not "] (by decide)).both (h.parenthesized operand)
  isNull := fun c around ps h hps => by
    obtain ⟨qs, hqs, hps⟩ := bind_eq_ok hps
    cases hps
    have column := referencePieces_parts hx (h.step (.reference rfl)) hqs
    exact column.both (h.free _ _ (by decide))
  inList := fun c values around ps h hps => by
    obtain ⟨qs, hqs, hps⟩ := bind_eq_ok hps
    cases hps
    have column := referencePieces_parts hx (h.step (.reference rfl)) hqs
    rw [List.append_assoc]
    exact column.both (h.values " in (" ")" values)
  subSelect := fun select ih around ps h hps => by
    obtain ⟨qs, hqs, hps⟩ := bind_eq_ok hps
    cases hps
    exact .select (ih around qs (h.step .subSelect) hqs)
  fullText := fun _ _ _ around ps h hps => fullTextPieces_parts h hps
  ofParts := fun select _ hjoins hcondition hgroups horder around ps h hps =>
    selectPieces_parts hx hjoins hcondition hgroups horder h hps

end Sites

/-- Definitions are substituted to what has been written at the sites of their expressions. -/
theorem expandWith_expands (n : Nat) : s.Expands f target (expandWith n) := by
  induction n with
  | zero => exact fun _ _ _ _ => nofun
  | succ n ih => exact fun around e ps h hps => (rendersCases ih).expr e around ps h hps

theorem expr_renders (n : Nat) (e : Expr) : s.Renders f target (expandWith n) e :=
  (rendersCases (expandWith_expands n)).expr e

/-! ### Statements -/

/-- What is written outside of all selects, declaring nothing. -/
abbrev Outermost (s : Statement) (dialect : Dialect) (g : Registry) (ps : List Piece) : Prop :=
  s.Parts (s.frame dialect g) (s.target dialect g) [] [] ps

variable {dialect : Dialect} {g : Registry} {ps : List Piece}

/-- An assignment of an update. -/
theorem assignmentPieces_parts {n : Nat} {around : List Select} {record : RecordType}
    {schema : RecordSchema} {name : String} {e : Expr} (h : s.Reaches f ⟨around, .expr e⟩)
    (hps : assignmentPieces (expandWith n) (f.within around) record schema name e = .ok ps) :
    s.Parts f target around [] ps := by
  obtain ⟨field, qs, hqs, rfl⟩ := assignmentPieces_eq_ok hps
  exact (h.free _ _ (by simp [Piece.isFree])).both (expr_renders n e around qs h hqs)

/-- The outermost parts of a statement declare what is around all of its pieces. -/
theorem Parts.written {around : List Select} {labels : List TableLabel}
    (parts : s.Parts (s.frame dialect g) (s.target dialect g) around labels ps)
    (h : around.map g.labels ++ s.target dialect g = [s.ownName dialect g ++ labels]) :
    ∀ q ∈ s.surroundings dialect g ps, s.Written (s.frame dialect g) (s.target dialect g) q.2 q.1 := by
  have fits := parts.mem
  rw [s.frame_registry dialect g, h] at fits
  unfold surroundings
  rw [parts.declaredLabels_eq]
  exact fits

theorem select_written {select : Select} (hs : s = .select select)
    (hps : selectStatementPieces (s.frame dialect g) select = .ok ps) :
    ∀ q ∈ s.surroundings dialect g ps,
      s.Written (s.frame dialect g) (s.target dialect g) q.2 q.1 := by
  subst hs
  have reached : (Statement.select select).Reaches ((Statement.select select).frame dialect g)
      ⟨[select], .select select⟩ := .step .start .select
  have parts : (Statement.select select).Parts _ ((Statement.select select).target dialect g) [select] _ ps :=
    (rendersCases (expandWith_expands _)).select select [] ps reached hps
  exact Parts.written parts rfl

theorem insert_written {i : Insert} (hs : s = .insert i)
    (hps : insertPieces (s.frame dialect g) i = .ok ps) :
    ∀ q ∈ s.surroundings dialect g ps,
      s.Written (s.frame dialect g) (s.target dialect g) q.2 q.1 := by
  subst hs
  have reached : (Statement.insert i).Reaches ((Statement.insert i).frame dialect g) ⟨[], _⟩ := .start
  obtain ⟨schema, table, slots, -, -, hslots, rfl⟩ := insertPieces_eq_ok hps
  have columns : (Statement.insert i).Outermost dialect g
      (separated ", " (schema.storedFields.map fun c => [.ident c.columnName])) := by
    refine reached.separated (List.forall_mem_map.2 fun c _ => ?_)
    exact reached.free _ _ (by simp [Piece.isFree])
  have values : (Statement.insert i).Outermost dialect g (separated ", " slots) := by
    refine reached.separated fun qs hqs => ?_
    obtain ⟨field, -, hqs⟩ := mem_of_mapM hslots qs hqs
    exact reached.free _ _ (insertSlot_free hqs)
  have front := (reached.free _ [.word "insert into ", .ident table, .word " ("]
    (by simp [Piece.isFree])).both columns
  have middle := front.both (reached.free _ [.word ")", .clauseBreak, .word "values ("]
    (by simp [Piece.isFree]))
  exact Parts.written ((middle.both values).both (reached.free _ _ (by decide))) rfl

theorem update_written {u : Update} (hs : s = .update u)
    (hps : updatePieces (s.frame dialect g) u = .ok ps) :
    ∀ q ∈ s.surroundings dialect g ps,
      s.Written (s.frame dialect g) (s.target dialect g) q.2 q.1 := by
  subst hs
  have reached : (Statement.update u).Reaches ((Statement.update u).frame dialect g) ⟨[], _⟩ := .start
  obtain ⟨condition, schema, table, n, depth, assignments, restriction, hcondition, -, -, hn, hassignments,
    hrestriction, rfl⟩ := updatePieces_eq_ok hps
  rw [frame_registry] at hn
  have htarget : (Statement.update u).target dialect g = [[.abbreviation n]] := by
    show [((g.abbreviation u.record).map TableLabel.abbreviation).toOption.toList] = _
    rw [hn]
    rfl
  have items : (Statement.update u).Outermost dialect g (separated ", " assignments) := by
    refine reached.separated fun qs hqs => ?_
    obtain ⟨a, ha, hqs⟩ := mem_of_mapM hassignments qs hqs
    exact assignmentPieces_parts (reached.step (.assignment ha)) hqs
  have restricted : (Statement.update u).Outermost dialect g restriction :=
    conditionPieces_parts (expandWith_expands _) (fun e _ => expr_renders _ e)
      (reached.step (.update hcondition)) hrestriction
  have front := (reached.free ((Statement.update u).target dialect g) [.word "update "] (by decide)).append
    (reached.table _ table (.abbreviation n))
  have middle := front.append (reached.free _ [.clauseBreak, .word "set "]
    (by simp [Piece.isFree]))
  exact Parts.written ((middle.append items).append restricted) htarget

theorem delete_written {d : Delete} (hs : s = .delete d)
    (hps : deletePieces { dialect := dialect, registry := g } d = .ok ps) :
    ∀ q ∈ s.surroundings dialect g ps,
      s.Written (s.frame dialect g) (s.target dialect g) q.2 q.1 := by
  subst hs
  have reached : (Statement.delete d).Reaches ((Statement.delete d).frame dialect g) ⟨[], _⟩ := .start
  have restricted {depth restriction} (hrestriction : conditionPieces (expandWith depth)
      ((Statement.delete d).frame dialect g) d.condition = .ok restriction) :
      (Statement.delete d).Outermost dialect g restriction :=
    conditionPieces_parts (expandWith_expands _) (fun e _ => expr_renders _ e)
      (reached.step .delete) hrestriction
  obtain ⟨schema, table, depth, restriction, -, -, ⟨halias, hrestriction, n, hn, rfl⟩ |
    ⟨halias, hrestriction, rfl⟩⟩ := deletePieces_eq_ok hps
  · have front := (reached.free ((Statement.delete d).target dialect g) [.word "delete from "] (by decide)).append
      (reached.table _ table (.abbreviation n))
    refine Parts.written (front.append (restricted (frame_delete_aliased halias ▸ hrestriction))) ?_
    show [((Statement.delete d).targetLabel dialect g).toOption.toList] =
      [(Statement.delete d).ownName dialect g ++ [TableLabel.abbreviation n]]
    rw [targetLabel, ownName, if_pos halias, if_pos halias,
      show g.abbreviation d.record = .ok n from hn]
    rfl
  · have front := reached.free ((Statement.delete d).target dialect g) [.word "delete from ", .ident table] (by simp [Piece.isFree])
    refine Parts.written (front.both (restricted (frame_delete_unaliased halias ▸ hrestriction))) ?_
    have hneg := Bool.eq_false_iff.1 halias
    show [((Statement.delete d).targetLabel dialect g).toOption.toList] =
      [(Statement.delete d).ownName dialect g ++ []]
    rw [targetLabel, ownName, if_neg hneg, if_neg hneg, List.append_nil]

/-- The columns of a statement have been written at sites whose tables are around them. -/
theorem statementPieces_written (hps : statementPieces dialect g s = .ok ps) :
    ∀ q ∈ s.surroundings dialect g ps,
      s.Written (s.frame dialect g) (s.target dialect g) q.2 q.1 := by
  cases s with
  | select select => exact select_written rfl hps
  | insert i => exact insert_written rfl hps
  | update u => exact update_written rfl hps
  | delete d => exact delete_written rfl hps

end Statement

end RecordSql
