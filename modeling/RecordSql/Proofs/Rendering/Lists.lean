import RecordSql.Proofs.Expression.Selects
import RecordSql.Proofs.Expression.Validated
import RecordSql.Proofs.Rendering.Extent

/-!
# Lists that are not empty

Statements have lists in many places: what a select projects, the tables that it reads, the values that a
column is compared with. None of them may be empty in SQL. Most of them are kept from being empty where
they are built, an update refuses to be written without assignments, and the others are empty exactly if
the select or the insert has nothing to write there.

- `ListKind`, `ListKind.filled`: an item follows each word that opens a list of some kind.
- `ListKind.Item`: pieces that can be an item of a list, with all lists inside of it filled.
- `Site.Supplies`: a select or an insert has items for its lists of some kind.
- `clauses_filled`, `item_cases`: the lists of selects and expressions, if all that is written does.
- `expandWith_items`: so do definitions, whatever depth they are substituted to.
-/

namespace RecordSql

/-! ### Lists among pieces -/

/-- The lists of statements. -/
inductive ListKind
  | projection
  | sources
  | groups
  | order
  /-- The values that a column is compared with. -/
  | choice
  | assignments
  | columns
  /-- The values of an insert. -/
  | slots
  deriving DecidableEq, Repr

namespace ListKind

/-- The word that lists of this kind follow. -/
def opener : ListKind → String
  | projection => "select "
  | sources => "from "
  | groups => "group by "
  | order => "order by "
  | choice => " in ("
  | assignments => "set "
  | columns => " ("
  | slots => "values ("

/-- All kinds of lists. -/
def all : List ListKind :=
  [projection, sources, groups, order, choice, assignments, columns, slots]

/-- The kind of list that a word opens. -/
def opened? (word : String) : Option ListKind :=
  all.find? fun k => k.opener = word

end ListKind

/-- The kind of list that a piece opens. -/
def Piece.opens? : Piece → Option ListKind
  | .word s => ListKind.opened? s
  | _ => none

/-- Whether a list ends in front of a piece: where the next clause begins, and where a sub-select or a pair
of parentheses is closed. -/
def Piece.endsList : Piece → Bool
  | .clauseBreak | .closeSelect => true
  | .word s => s == ")"
  | _ => false

/-- Whether pieces begin with what may be an item of a list. -/
def beginsItem : List Piece → Bool
  | [] => false
  | p :: _ => !p.endsList

/-- No list of this kind is empty: wherever one is opened, an item follows. -/
def ListKind.filled (k : ListKind) : List Piece → Bool
  | [] => true
  | p :: ps => (p.opens? != some k || beginsItem ps) && k.filled ps

/-- An item of a list: its own lists of some kind are filled. -/
structure ListKind.Item (k : ListKind) (ps : List Piece) : Prop where
  begins : beginsItem ps
  filled : k.filled ps

section Pieces

variable {k j : ListKind} {p : Piece} {ps qs : List Piece} {pss : List (List Piece)}

theorem opens?_opener : (Piece.word j.opener).opens? = some j := by
  cases j <;> decide

theorem beginsItem_append (h : beginsItem ps) : beginsItem (ps ++ qs) := by
  cases ps with
  | nil => cases h
  | cons p ps => exact h

theorem not_beginsItem_append (hp : beginsItem ps = false) (hq : beginsItem qs = false) :
    beginsItem (ps ++ qs) = false := by
  cases ps with
  | nil => exact hq
  | cons p ps => exact hp

namespace ListKind

theorem filled_cons : k.filled (p :: ps) ↔ (p.opens? = some k → beginsItem ps) ∧ k.filled ps := by
  simp [filled, imp_iff_not_or]

theorem filled_append (hp : k.filled ps) (hq : k.filled qs) : k.filled (ps ++ qs) := by
  induction ps with
  | nil => exact hq
  | cons p ps ih =>
    obtain ⟨hopens, hrest⟩ := filled_cons.1 hp
    exact filled_cons.2 ⟨fun h => beginsItem_append (hopens h), ih hrest⟩

theorem filled_suffix (h : k.filled (ps ++ qs)) : k.filled qs := by
  induction ps with
  | nil => exact h
  | cons p ps ih => exact ih (filled_cons.1 h).2

/-- Pieces that open no list. -/
theorem filled_plain (h : ∀ p ∈ ps, p.opens? = none) : k.filled ps := by
  induction ps with
  | nil => rfl
  | cons p ps ih =>
    obtain ⟨hp, hps⟩ := List.forall_mem_cons.1 h
    refine filled_cons.2 ⟨fun hopens => ?_, ih hps⟩
    rw [hp] at hopens
    cases hopens

/-- A list after the word that opens it. -/
theorem filled_list (h : j = k → beginsItem ps) (hps : k.filled ps) :
    k.filled (.word j.opener :: ps) := by
  refine filled_cons.2 ⟨fun hopens => h ?_, hps⟩
  rw [opens?_opener] at hopens
  exact Option.some.inj hopens

theorem begins_of_filled (h : k.filled (.word k.opener :: ps)) : beginsItem ps :=
  (filled_cons.1 h).1 opens?_opener

theorem filled_separated {separator : String} (hseparator : (Piece.word separator).opens? = none) :
    ∀ {pss : List (List Piece)}, (∀ ps ∈ pss, k.filled ps) → k.filled (separated separator pss)
  | [], _ => rfl
  | [ps], h => h ps (List.mem_singleton_self ps)
  | ps :: qs :: pss, h => by
    obtain ⟨hps, hrest⟩ := List.forall_mem_cons.1 h
    refine filled_append hps (filled_cons.2 ⟨fun hopens => ?_, filled_separated hseparator hrest⟩)
    rw [hseparator] at hopens
    cases hopens

end ListKind

theorem begins_separated {separator : String} (h : ∀ ps ∈ pss, beginsItem ps) (hnil : pss ≠ []) :
    beginsItem (separated separator pss) := by
  cases pss with
  | nil => exact absurd rfl hnil
  | cons ps pss =>
    have hfirst := h ps List.mem_cons_self
    cases pss with
    | nil => exact hfirst
    | cons qs pss => exact beginsItem_append hfirst

/-- Items between separators, after the word that opens their list. -/
theorem ListKind.filled_items {separator : String} (hseparator : (Piece.word separator).opens? = none)
    (h : ∀ ps ∈ pss, k.Item ps) (hnil : j = k → pss ≠ []) :
    k.filled (.word j.opener :: separated separator pss) := by
  refine filled_list (fun hk => ?_) (filled_separated hseparator fun ps hps => (h ps hps).filled)
  exact begins_separated (fun ps hps => (h ps hps).begins) (hnil hk)

namespace ListKind.Item

theorem cons (hopens : p.opens? = none) (hends : p.endsList = false) (hps : k.filled ps) :
    k.Item (p :: ps) := by
  refine ⟨?_, filled_cons.2 ⟨fun h => ?_, hps⟩⟩
  · rw [beginsItem, hends]
    rfl
  · rw [hopens] at h
    cases h

theorem single (hopens : p.opens? = none) (hends : p.endsList = false) : k.Item [p] :=
  cons hopens hends rfl

theorem append (hp : k.Item ps) (hq : k.filled qs) : k.Item (ps ++ qs) :=
  ⟨beginsItem_append hp.begins, filled_append hp.filled hq⟩

theorem parenthesized (h : k.filled ps) : k.Item (parenthesized ps) :=
  cons (by decide) (by decide) (filled_append h (filled_plain (by decide)))

/-- An operand, which may stand between parentheses. -/
theorem operand (h : k.Item ps) (compound : Bool) :
    k.Item (if compound then RecordSql.parenthesized ps else ps) := by
  cases compound with
  | true => exact parenthesized h.filled
  | false => exact h

theorem separated {separator : String} (hseparator : (Piece.word separator).opens? = none)
    (h : ∀ ps ∈ pss, k.Item ps) (hnil : pss ≠ []) : k.Item (separated separator pss) :=
  ⟨begins_separated (fun ps hps => (h ps hps).begins) hnil,
    filled_separated hseparator fun ps hps => (h ps hps).filled⟩

end ListKind.Item

/-- Values between parentheses, behind a column that is compared with them. -/
theorem choice_filled {values : List Value} (h : values ≠ []) :
    k.filled (.word " in (" :: valueList values ++ [Piece.word ")"]) := by
  have items : ∀ qs ∈ values.map fun v => [Piece.value v], k.Item qs :=
    List.forall_mem_map.2 fun v _ => .single rfl rfl
  have list : k.filled (.word " in (" :: valueList values) :=
    ListKind.filled_items (j := .choice) (by decide) items fun _ => by rwa [Ne, List.map_eq_nil_iff]
  exact ListKind.filled_append list (ListKind.filled_plain (by decide))

end Pieces

/-! ### What selects and inserts have items for -/

/-- A select has items for its lists of some kind: a field that is projected where its definitions are in
force, and no list that it brings along without items. -/
def Select.Supplies (t : Select) (f : Frame) : ListKind → Prop
  | .projection => ∃ schema fields, f.registry.schema t.record = .ok schema ∧
      selectedFields schema t.fields = .ok fields ∧ ∃ field ∈ fields, f.projects t.record field = true
  | .sources => t.sources ≠ some []
  | .groups => t.groupBy ≠ some []
  | .order => t.orderBy ≠ some []
  | _ => True

/-- The lists that a select brings along are not empty. -/
theorem Select.Supplies.brought {t : Select} {f : Frame} {k : ListKind} (h : t.Supplies f k) :
    (k = .sources → t.sources ≠ some []) ∧ (k = .groups → t.groupBy ≠ some []) ∧
      (k = .order → t.orderBy ≠ some []) := by
  refine ⟨?_, ?_, ?_⟩ <;>
  · rintro rfl
    exact h

/-- An insert has items for its lists of some kind: a field that is stored. -/
def Insert.Supplies (i : Insert) (g : Registry) : ListKind → Prop
  | .columns | .slots => ∃ schema, g.schema i.record = .ok schema ∧ schema.storedFields ≠ []
  | _ => True

/-- What is written at a site has items for its lists of some kind. -/
def Site.Supplies (f : Frame) (k : ListKind) (p : Site) : Prop :=
  match p.item with
  | .select t => t.Supplies (f.within p.around) k
  | .statement (.insert i) => i.Supplies f.registry k
  | _ => True

/-! ### Lists that are filled -/

section Filled

variable {k : ListKind} {f : Frame} {s : Statement} {expand : Frame → Expr → Rendered}
  {around : List Select} {ps : List Piece}

theorem alias_filled (use : ColumnUse) (field : String) : k.filled (fieldAlias use field) := by
  refine ListKind.filled_plain ?_
  cases use <;> simp [fieldAlias, Piece.opens?, ListKind.opened?, ListKind.all, ListKind.opener]

theorem limit_filled (limit : Option Limit) : k.filled (limitPieces limit) := by
  refine ListKind.filled_plain ?_
  cases limit <;> simp [limitPieces, Piece.opens?, ListKind.opened?, ListKind.all, ListKind.opener]

theorem lock_filled (forUpdate : Bool) : k.filled (lockPieces forUpdate) := by
  refine ListKind.filled_plain ?_
  cases forUpdate <;> decide

theorem operator_plain (op : Operator) : (Piece.word (" " ++ op.text ++ " ")).opens? = none := by
  cases op <;> decide

theorem junction_plain (op : Junction) : (Piece.word (" " ++ op.text ++ " ")).opens? = none := by
  cases op <;> decide

theorem joinKind_plain (kind : JoinKind) : (Piece.word (kind.text ++ " ")).opens? = none := by
  cases kind <;> decide

theorem direction_plain (d : Direction) : (Piece.word (" " ++ d.text)).opens? = none := by
  cases d <;> decide

theorem source_item {t : RecordType} {p : Piece} (h : f.tablePiece t = .ok p) : k.Item [p] := by
  obtain ⟨name, label, rfl, -⟩ := tablePiece_label h
  exact .single rfl rfl

theorem sources_filled {t : Select} (hsupplies : k = .sources → t.sources ≠ some [])
    (h : sourcePieces f t.record t.sources = .ok ps) : k.filled (.word "from " :: ps) := by
  obtain ⟨tables, htables, h⟩ := bind_eq_ok h
  cases h
  have items : ∀ qs ∈ tables.map fun t => [t], k.Item qs := by
    refine List.forall_mem_map.2 fun p hp => ?_
    obtain ⟨r, -, hr⟩ := mem_of_mapM htables p hp
    exact source_item hr
  refine ListKind.filled_items (j := .sources) (by decide) items fun hk hnil => hsupplies hk.symm ?_
  have hlength := (mapM_eq_ok htables).length_eq
  rw [List.map_eq_nil_iff.1 hnil] at hlength
  cases hs : t.sources with
  | none => simp [hs] at hlength
  | some rs =>
    rw [hs] at hlength
    exact congrArg some (List.length_eq_zero_iff.1 hlength)

theorem fullText_item {record : RecordType} {index query : String}
    (h : fullTextPieces f record index query = .ok ps) : k.Item ps := by
  obtain ⟨schema, -, h⟩ := bind_eq_ok h
  split at h
  · cases h
  · obtain ⟨t, -, h⟩ := bind_eq_ok h
    split at h
    · obtain ⟨columns, hcolumns, h⟩ := bind_eq_ok h
      cases h
      have plain : ∀ qs ∈ columns, k.filled qs := by
        intro qs hqs
        obtain ⟨name, -, hname⟩ := mem_of_mapM hcolumns qs hqs
        obtain ⟨label, -, hname⟩ := bind_eq_ok hname
        obtain ⟨field, -, hname⟩ := bind_eq_ok hname
        cases hname
        exact ListKind.filled_plain (List.forall_mem_singleton.2 rfl)
      refine .cons (by decide) (by decide) ?_
      refine ListKind.filled_append (ListKind.filled_separated (by decide) plain) ?_
      exact ListKind.filled_plain (by simp [Piece.opens?, ListKind.opened?, ListKind.all, ListKind.opener])
    · obtain ⟨label, -, h⟩ := bind_eq_ok h
      cases h
      refine .cons rfl rfl (ListKind.filled_plain ?_)
      simp [Piece.opens?, ListKind.opened?, ListKind.all, ListKind.opener]

/-- Expressions are expanded to items. -/
def Statement.ExpandsItems (s : Statement) (f : Frame) (k : ListKind)
    (expand : Frame → Expr → Rendered) : Prop :=
  ∀ around e ps, s.Reaches f ⟨around, .expr e⟩ → expand (f.within around) e = .ok ps → k.Item ps

theorem reference_item (hx : s.ExpandsItems f k expand) {use : ColumnUse} {c : FieldRef}
    (h : s.Reaches f ⟨around, .reference use c⟩)
    (hps : referencePieces expand (f.within around) use c = .ok ps) : k.Item ps := by
  rw [referencePieces_eq] at hps
  obtain ⟨r, hr, hps⟩ := bind_eq_ok hps
  cases r with
  | name n =>
    cases hps
    exact .single rfl rfl
  | definition d =>
    obtain ⟨qs, hqs, hps⟩ := bind_eq_ok hps
    cases hps
    have hd : k.Item qs := hx around d.expr qs (h.step (.definition (Frame.resolve_definition hr))) hqs
    exact hd.append (alias_filled use c.field)
  | literal sql =>
    cases hps
    exact .cons rfl rfl (alias_filled use c.field)
  | column label n =>
    cases hps
    exact .single rfl rfl

/-! #### Conditions -/

theorem components_filled (hx : s.ExpandsItems f k expand) {record : RecordType}
    {components : List (String × Value)} {pss : List (List Piece)}
    (h : ∀ p ∈ components, s.Reaches f ⟨around, .reference .key (.of record p.1)⟩)
    (hps : componentsPieces expand (f.within around) record components = .ok pss) :
    ∀ qs ∈ pss, k.filled qs := by
  intro qs hqs
  obtain ⟨p, hp, hps⟩ := mem_of_mapM hps qs hqs
  obtain ⟨column, hcolumn, hps⟩ := bind_eq_ok hps
  cases hps
  refine ListKind.filled_append (reference_item hx (h p hp) hcolumn).filled (ListKind.filled_plain ?_)
  split <;> simp [Piece.opens?, ListKind.opened?, ListKind.all, ListKind.opener]

theorem key_filled (hx : s.ExpandsItems f k expand) {key : Key}
    (h : s.Reaches f ⟨around, .condition (.key key)⟩)
    (hps : keyPieces expand (f.within around) key = .ok ps) : k.filled ps := by
  obtain ⟨values, pss, -, hpss, rfl⟩ := keyPieces_eq_ok hps
  rw [f.within_registry] at hpss
  refine ListKind.filled_separated (by decide) (components_filled hx (fun p hp => ?_) hpss)
  exact h.step (.key (List.of_mem_zip hp).1)

theorem multiKey_filled (hx : s.ExpandsItems f k expand) {key : MultiKey} (hkey : key.values ≠ [])
    (h : s.Reaches f ⟨around, .condition (.multiKey key)⟩)
    (hps : multiKeyPieces expand (f.within around) key = .ok ps) : k.filled ps := by
  obtain ⟨values, pss, column, hvarying, -, hpss, hcolumn, rfl⟩ := multiKeyPieces_eq_ok hps
  rw [f.within_registry] at hvarying hpss
  have fixed : ∀ qs ∈ pss, k.filled qs := by
    refine components_filled hx (fun p hp => ?_) hpss
    exact h.step (.multiKey (List.mem_filter.1 (List.of_mem_zip hp).1).1)
  have varying : k.Item column := reference_item hx (h.step (.multiKey hvarying)) hcolumn
  refine ListKind.filled_separated (by decide) (List.forall_mem_append.2 ⟨fixed, ?_⟩)
  refine List.forall_mem_singleton.2 ?_
  rw [List.append_assoc]
  exact ListKind.filled_append varying.filled (choice_filled hkey)

theorem condition_filled (hx : s.ExpandsItems f k expand) {c : Condition}
    (hvalid : ∀ p, s.Reaches f p → p.item.Validated) (h : s.Reaches f ⟨around, .condition c⟩)
    (he : ∀ e, c = .expr e → ∀ qs, exprPieces expand (f.within around) e = .ok qs → k.Item qs)
    (hps : conditionPieces expand (f.within around) c = .ok ps) : k.filled ps := by
  have front : k.filled [.clauseBreak, .word "where "] := ListKind.filled_plain (by decide)
  cases c with
  | expr e =>
    obtain ⟨qs, hqs, hps⟩ := bind_eq_ok hps
    cases hps
    exact ListKind.filled_append front (he e rfl qs hqs).filled
  | key key =>
    obtain ⟨qs, hqs, hps⟩ := bind_eq_ok hps
    cases hps
    exact ListKind.filled_append front (key_filled hx h hqs)
  | multiKey key =>
    obtain ⟨qs, hqs, hps⟩ := bind_eq_ok hps
    cases hps
    have hkey : key.values ≠ [] := Condition.multiKey_validated_iff.1 (hvalid _ h)
    exact ListKind.filled_append front (multiKey_filled hx hkey h hqs)

/-! #### Clauses -/

theorem projection_filled (hx : s.ExpandsItems f k expand) {t : Select}
    (h : s.Reaches f ⟨around, .select t⟩) (hsupplies : k = .projection → t.Supplies (f.within around) k)
    (hps : projectionPieces expand (f.within around) t.record t.fields = .ok ps) :
    k.filled (.word "select " :: ps) := by
  obtain ⟨schema, fields, items, hschema, hfields, hitems, rfl⟩ := projectionPieces_eq_ok hps
  have each : ∀ qs ∈ items, k.Item qs := by
    intro qs hqs
    obtain ⟨field, hfield, hqs⟩ := mem_of_mapM hitems qs hqs
    rw [f.within_registry] at hschema
    have hname := Simulation.mem_projected hschema hfields (List.mem_filter.1 hfield).1
    exact reference_item hx (h.step (.projection hname)) hqs
  refine ListKind.filled_items (j := .projection) (by decide) each ?_
  rintro rfl hnil
  obtain ⟨schema', fields', hschema', hfields', field, hfield, hprojects⟩ := hsupplies rfl
  cases hschema.symm.trans hschema'
  cases hfields.symm.trans hfields'
  obtain ⟨qs, hqs, -⟩ := mapM_mem hitems (List.mem_filter.2 ⟨hfield, hprojects⟩)
  rw [hnil] at hqs
  cases hqs

theorem exprs_items {es : List Expr} {pss : List (List Piece)}
    (he : ∀ e ∈ es, ∀ qs, exprPieces expand f e = .ok qs → k.Item qs)
    (hps : exprsPieces expand f es = .ok pss) :
    (∀ qs ∈ pss, k.Item qs) ∧ pss.length = es.length := by
  rw [exprsPieces_eq] at hps
  refine ⟨fun qs hqs => ?_, (mapM_eq_ok hps).length_eq.symm⟩
  obtain ⟨e, hmem, hqs⟩ := mem_of_mapM hps qs hqs
  exact he e hmem qs hqs

theorem joins_filled {js : List Join}
    (he : ∀ j ∈ js, ∀ qs, exprPieces expand f j.condition = .ok qs → k.Item qs)
    (hps : joinPieces expand f js = .ok ps) : k.filled ps := by
  rw [joinPieces_eq] at hps
  obtain ⟨pss, hpss, rfl⟩ := map_eq_ok hps
  have each := mapM_eq_ok hpss
  clear hpss hps
  induction each with
  | nil => rfl
  | @cons j ps js pss hj _ ih =>
    obtain ⟨table, on, htable, hon, rfl⟩ := onePieces_eq_ok hj
    obtain ⟨name, label, rfl, -⟩ := joinTable_label htable
    have front : k.filled [.clauseBreak, .word (j.kind.text ++ " "), .table name label, .word " on "] := by
      refine ListKind.filled_plain (List.forall_mem_cons.2 ⟨rfl, ?_⟩)
      refine List.forall_mem_cons.2 ⟨joinKind_plain j.kind, List.forall_mem_cons.2 ⟨rfl, ?_⟩⟩
      decide
    have condition : k.Item on := he j List.mem_cons_self on hon
    refine ListKind.filled_append (ListKind.filled_append front condition.filled) ?_
    exact ih fun i hi => he i (List.mem_cons_of_mem j hi)

theorem groups_filled {groupBy : Option (List Expr)}
    (he : ∀ e ∈ groupBy.getD [], ∀ qs, exprPieces expand f e = .ok qs → k.Item qs)
    (hsupplies : k = .groups → groupBy ≠ some []) (hps : groupPieces expand f groupBy = .ok ps) :
    k.filled ps := by
  obtain ⟨-, rfl⟩ | ⟨es, pss, rfl, hpss, rfl⟩ := groupPieces_eq_ok hps
  · rfl
  · obtain ⟨items, hlength⟩ := exprs_items he hpss
    refine ListKind.filled_cons.2 ⟨nofun, ?_⟩
    refine ListKind.filled_items (j := .groups) (by decide) items fun hk hnil => hsupplies hk.symm ?_
    rw [hnil] at hlength
    exact congrArg some (List.length_eq_zero_iff.1 hlength.symm)

theorem order_filled {orderBy : Option (List OrderTerm)}
    (he : ∀ t ∈ orderBy.getD [], ∀ qs, exprPieces expand f t.expr = .ok qs → k.Item qs)
    (hsupplies : k = .order → orderBy ≠ some []) (hps : sortPieces expand f orderBy = .ok ps) :
    k.filled ps := by
  obtain ⟨-, rfl⟩ | ⟨ts, pss, rfl, hpss, rfl⟩ := sortPieces_eq_ok hps
  · rfl
  · rw [orderPieces_eq] at hpss
    have items : ∀ qs ∈ pss, k.Item qs := by
      intro qs hqs
      obtain ⟨t, ht, hqs⟩ := mem_of_mapM hpss qs hqs
      obtain ⟨term, hterm, rfl⟩ := termPieces_eq_ok hqs
      have hdirection : k.filled [.word (" " ++ t.direction.text)] :=
        ListKind.filled_plain (List.forall_mem_singleton.2 (direction_plain t.direction))
      exact (he t ht term hterm).append hdirection
    refine ListKind.filled_cons.2 ⟨nofun, ?_⟩
    refine ListKind.filled_items (j := .order) (by decide) items fun hk hnil => hsupplies hk.symm ?_
    have hlength := (mapM_eq_ok hpss).length_eq
    rw [hnil] at hlength
    exact congrArg some (List.length_eq_zero_iff.1 hlength)

/-- The clauses of a select one after the other. -/
theorem clauses_filled {projection tables joined condition groups order : List Piece}
    (hprojection : k.filled (.word "select " :: projection)) (htables : k.filled (.word "from " :: tables))
    (hjoined : k.filled joined) (hcondition : k.filled condition) (hgroups : k.filled groups)
    (horder : k.filled order) (limit : Option Limit) (forUpdate : Bool) :
    k.filled (.word "select " :: projection ++ [Piece.clauseBreak, .word "from "] ++ tables ++ joined ++
      condition ++ groups ++ order ++ limitPieces limit ++ lockPieces forUpdate) := by
  have head : k.filled (.word "select " :: projection ++ [Piece.clauseBreak, .word "from "] ++ tables) := by
    rw [List.append_assoc]
    exact ListKind.filled_append hprojection (ListKind.filled_cons.2 ⟨nofun, htables⟩)
  refine ListKind.filled_append (ListKind.filled_append ?_ (limit_filled limit)) (lock_filled forUpdate)
  refine ListKind.filled_append (ListKind.filled_append ?_ hgroups) horder
  exact ListKind.filled_append (ListKind.filled_append head hjoined) hcondition

/-! #### Expressions and selects -/

/-- Whatever is written is validated and has items for its lists. -/
structure Statement.Supplied (s : Statement) (f : Frame) (k : ListKind) : Prop where
  validated : ∀ p, s.Reaches f p → p.item.Validated
  supplies : ∀ p, s.Reaches f p → p.Supplies f k

/-- An expression is an item, and the lists of a select are filled. -/
theorem item_cases (hs : s.Supplied f k) (hx : s.ExpandsItems f k expand) :
    ExprCases
      (fun e => ∀ around, s.Reaches f ⟨around, .expr e⟩ →
        ∀ ps, exprPieces expand (f.within around) e = .ok ps → k.Item ps)
      (fun t => ∀ around, s.Reaches f ⟨t :: around, .select t⟩ →
        ∀ ps, selectPieces expand (f.within around) t = .ok ps → k.filled ps) := by
  refine .ofOperands ?expr ?select
  case expr =>
    intro e ih hsub around he ps hps
    have operand : ∀ a ∈ e.operands, ∀ qs, exprPieces expand (f.within around) a = .ok qs → k.Item qs :=
      fun a ha => ih a ha around (he.step (.operand ha))
    have reference : ∀ c, e.reference? = some c → ∀ qs,
        referencePieces expand (f.within around) .plain c = .ok qs → k.Item qs :=
      fun c hc qs hqs => reference_item hx (he.step (.reference hc)) hqs
    cases e with
    | column c => exact reference c rfl ps hps
    | literal sql | value v =>
      cases hps
      exact .single rfl rfl
    | call name args =>
      obtain ⟨pss, hpss, hps⟩ := bind_eq_ok hps
      cases hps
      obtain ⟨items, -⟩ := exprs_items operand hpss
      have hargs : k.filled (separated ", " pss) :=
        ListKind.filled_separated (by decide) fun qs hqs => (items qs hqs).filled
      exact .cons rfl rfl (ListKind.Item.parenthesized hargs).filled
    | epoch e =>
      obtain ⟨qs, hqs, hps⟩ := bind_eq_ok hps
      cases hps
      have hitem := operand e (List.mem_singleton_self e) qs hqs
      have back : k.filled (qs ++ [Piece.word ")"]) :=
        ListKind.filled_append hitem.filled (ListKind.filled_plain (by decide))
      have front : (Piece.word (epochWord (f.within around).dialect)).opens? = none ∧
          (Piece.word (epochWord (f.within around).dialect)).endsList = false := by
        cases (f.within around).dialect <;> decide
      exact .cons front.1 front.2 back
    | binary op l r =>
      obtain ⟨left, hl, hps⟩ := bind_eq_ok hps
      obtain ⟨right, hr, hps⟩ := bind_eq_ok hps
      cases hps
      have hleft := operand l List.mem_cons_self left hl
      have hright := operand r (List.mem_cons_of_mem l List.mem_cons_self) right hr
      have symbol : k.filled [Piece.word (" " ++ op.text ++ " ")] :=
        ListKind.filled_plain (List.forall_mem_singleton.2 (operator_plain op))
      exact ((hleft.operand l.isInfix).append symbol).append (hright.operand r.isInfix).filled
    | junction op operands =>
      obtain ⟨pss, hpss, hps⟩ := bind_eq_ok hps
      cases hps
      obtain ⟨items, hlength⟩ := exprs_items operand hpss
      have hoperands : operands ≠ [] := Expr.junction_validated_iff.1 (hs.validated _ he)
      refine .separated (junction_plain op) (List.forall_mem_map.2 fun qs hqs => ?_) fun hnil => ?_
      · exact .parenthesized (items qs hqs).filled
      · rw [List.map_eq_nil_iff.1 hnil] at hlength
        exact hoperands (List.length_eq_zero_iff.1 hlength.symm)
    | not e =>
      obtain ⟨qs, hqs, hps⟩ := bind_eq_ok hps
      cases hps
      have hitem := operand e (List.mem_singleton_self e) qs hqs
      exact .cons (by decide) (by decide) (ListKind.Item.parenthesized hitem.filled).filled
    | isNull c =>
      obtain ⟨qs, hqs, hps⟩ := bind_eq_ok hps
      cases hps
      exact (reference c rfl qs hqs).append (ListKind.filled_plain (by decide))
    | inList c values =>
      obtain ⟨qs, hqs, hps⟩ := bind_eq_ok hps
      cases hps
      have hvalues : values ≠ [] := Expr.inList_validated_iff.1 (hs.validated _ he)
      rw [List.append_assoc]
      exact (reference c rfl qs hqs).append (choice_filled hvalues)
    | «exists» t =>
      obtain ⟨qs, hqs, hps⟩ := bind_eq_ok hps
      cases hps
      have hselect := hsub t rfl around (he.step .subSelect) qs hqs
      exact .cons rfl rfl (ListKind.filled_append hselect (ListKind.filled_plain (by decide)))
    | fullText record index query => exact fullText_item hps
  case select =>
    intro t _ hclauses hcondition around ht ps hps
    obtain ⟨projection, tables, joined, condition, groups, order, hprojection, htables, hjoined, hwhere,
      hgroups, horder, rfl⟩ := selectPieces_eq_ok hps
    have hsupplies : t.Supplies (f.within (t :: around)) k := hs.supplies _ ht
    obtain ⟨hsources, hgrouping, hsorting⟩ := hsupplies.brought
    have clause : ∀ e ∈ t.clauses, ∀ qs, exprPieces expand (f.within (t :: around)) e = .ok qs →
        k.Item qs := fun e he => hclauses e he _ (ht.step (.clause he))
    refine clauses_filled ?_ ?_ ?_ ?_ ?_ ?_ t.limit t.forUpdate
    · exact projection_filled hx ht (fun _ => hsupplies) hprojection
    · exact sources_filled hsources htables
    · exact joins_filled (fun j hj => clause _ (Select.join_mem_clauses hj)) hjoined
    · cases hc : t.condition with
      | none =>
        rw [hc] at hwhere
        cases hwhere
        rfl
      | some c =>
        rw [hc] at hwhere
        have hreach := ht.step (.restriction hc)
        refine condition_filled hx hs.validated hreach (fun e he qs hqs => ?_) hwhere
        subst he
        exact hcondition e hc _ (hreach.step .condition) qs hqs
    · refine groups_filled (fun e he => clause e ?_) hgrouping hgroups
      exact List.mem_append_left _ (List.mem_append_right _ he)
    · refine order_filled (fun t' ht' => clause _ ?_) hsorting horder
      exact List.mem_append_right _ (List.mem_map_of_mem ht')

/-- Definitions are expanded to items, whatever depth they are substituted to. -/
theorem expandWith_items (hs : s.Supplied f k) : ∀ n, s.ExpandsItems f k (expandWith n)
  | 0 => fun _ _ _ _ hps => nomatch hps
  | n + 1 => fun around e ps he hps => (item_cases hs (expandWith_items hs n)).expr e around he ps hps

end Filled

end RecordSql
