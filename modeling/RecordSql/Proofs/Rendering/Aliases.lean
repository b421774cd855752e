import RecordSql.Proofs.Rendering.Simulation.Clauses
import RecordSql.Proofs.Rendering.Simulation.Keys
import RecordSql.Proofs.Rendering.Sites

/-!
# Names of fields

What is written in place of a column of a projection gets the name of its field: the item ends with the word
`as` and the name. No other text of a statement gives a name to a field, be it a clause of a select, a key,
an assignment or a definition; names in these are those of the sub-selects inside of them.

- `projectionItems`: the items of a projection, each with the field that it stands for.
- `Statement.NamesField`: a place at the end of an item whose field is replaced.
- `Statement.Named`: pieces in which names are given at such places only.
- `Statement.Named.select`: a select, given its items and its clauses.
- `named_cases`, `statementPieces_named`: expressions, selects and whole statements.
-/

namespace RecordSql

/-- Whether a piece is the word in front of the name of a field. -/
def Piece.isAs : Piece → Bool
  | .word w => w == " as "
  | _ => false

/-- The items of a projection, each with the name of the field that it stands for. -/
def projectionItems (expand : Frame → Expr → Rendered) (f : Frame) (record : RecordType)
    (names : List String) : Except Error (List (String × List Piece)) := do
  let fields ← selectedFields (← f.registry.schema record) names
  (fields.filter (f.projects record)).mapM fun field => do
    return (field.name, ← referencePieces expand f .projection (.of record field.name))

/-- What is written for a field instead of its column: its definition, or literal SQL. -/
inductive Frame.Replaces (f : Frame) (expand : Frame → Expr → Rendered) (r : RecordType) (name : String)
    (own : List Piece) : Prop
  | definition {d} : f.resolve .projection (.of r name) = .ok (.definition d) → expand f d.expr = .ok own →
      Replaces f expand r name own
  | literal {sql} : f.resolve .projection (.of r name) = .ok (.literal sql) → own = [.verbatim sql] →
      Replaces f expand r name own

/-- A select with some items and clauses. -/
def selectOfItems (items : List (String × List Piece)) (clauses : List Piece) : List Piece :=
  .word "select " :: separated ", " (items.map (·.2)) ++ ([Piece.clauseBreak, .word "from "] ++ clauses)

/-- Between `front` and `back` stands the word that gives a name to a field, at the end of an item in the
projection of a select that the writing of the statement comes by, and the field is replaced by what the
item starts with. -/
inductive Statement.NamesField (s : Statement) (f : Frame) (front back : List Piece) : Prop
  | ofItem {depth around t before own name after clauses pre post}
      (site : s.Reaches f ⟨t :: around, .select t⟩)
      (text : selectPieces (expandWith depth) (f.within around) t =
        .ok (selectOfItems (before ++ (name, own ++ fieldAlias .projection name) :: after) clauses))
      (items : projectionItems (expandWith depth) (f.within (t :: around)) t.record t.fields =
        .ok (before ++ (name, own ++ fieldAlias .projection name) :: after))
      (replaced : (f.within (t :: around)).Replaces (expandWith depth) t.record name own)
      (reads : front = pre ++ (.word "select " :: before.flatMap fun i => i.2 ++ [.word ", "]) ++ own)
      (follows : back = .ident name :: (after.flatMap (fun i => .word ", " :: i.2) ++
        ([Piece.clauseBreak, .word "from "] ++ clauses) ++ post)) : NamesField s f front back

/-- Where some pieces stand between others, each word in them that gives a name stands at the end of an
item. -/
def Statement.NamedAt (s : Statement) (f : Frame) (pre post ps : List Piece) : Prop :=
  ∀ front back, ps = front ++ .word " as " :: back → s.NamesField f (pre ++ front) (back ++ post)

/-- Wherever some pieces stand, each word in them that gives a name stands at the end of an item. -/
def Statement.Named (s : Statement) (f : Frame) (ps : List Piece) : Prop :=
  ∀ pre post, s.NamedAt f pre post ps

namespace Statement

variable {s : Statement} {f : Frame} {ps qs pre post : List Piece}

/-! ### Putting pieces together -/

theorem NamedAt.append (hp : s.NamedAt f pre (qs ++ post) ps) (hq : s.NamedAt f (pre ++ ps) post qs) :
    s.NamedAt f pre post (ps ++ qs) := by
  intro front back h
  obtain ⟨rest, rfl, hrest⟩ | ⟨rest, hfront, hrest⟩ := List.append_eq_append_iff.1 h
  · rw [← List.append_assoc]
    exact hq rest back hrest
  · cases rest with
    | nil =>
      rw [List.nil_append] at hrest
      rw [List.append_nil] at hfront
      have here := hq [] back hrest.symm
      rwa [List.append_nil, hfront] at here
    | cons p rest =>
      obtain ⟨rfl, hback⟩ := List.cons.inj hrest
      have hback : back = rest ++ qs := hback
      rw [hback, List.append_assoc]
      exact hp front rest hfront

theorem Named.append (hp : s.Named f ps) (hq : s.Named f qs) : s.Named f (ps ++ qs) :=
  fun pre post => (hp pre (qs ++ post)).append (hq (pre ++ ps) post)

/-- Pieces that give no name. -/
theorem Named.free (h : ∀ p ∈ ps, p.isAs = false) : s.Named f ps := by
  rintro pre post front back rfl
  have has := h (.word " as ") (List.mem_append_right front List.mem_cons_self)
  cases has

theorem Named.between (before after : List Piece) (hp : s.Named f ps)
    (hbefore : ∀ p ∈ before, p.isAs = false) (hafter : ∀ p ∈ after, p.isAs = false) :
    s.Named f (before ++ ps ++ after) :=
  ((Named.free hbefore).append hp).append (.free hafter)

theorem Named.parenthesized (hp : s.Named f ps) : s.Named f (parenthesized ps) :=
  hp.between [.word "("] [.word ")"] (by decide) (by decide)

theorem Named.separated {separator : String} (hs : (Piece.word separator).isAs = false) :
    ∀ {pss : List (List Piece)}, (∀ ps ∈ pss, s.Named f ps) → s.Named f (RecordSql.separated separator pss)
  | [], _ => .free (List.forall_mem_nil _)
  | [ps], h => h ps List.mem_cons_self
  | ps :: qs :: pss, h => by
    obtain ⟨hp, hrest⟩ := List.forall_mem_cons.1 h
    have between : s.Named f [.word separator] := .free (List.forall_mem_singleton.2 hs)
    exact hp.append (between.append (Named.separated hs hrest))

theorem Named.flatten {pss : List (List Piece)} (h : ∀ ps ∈ pss, s.Named f ps) : s.Named f pss.flatten := by
  induction pss with
  | nil => exact .free (List.forall_mem_nil _)
  | cons ps pss ih =>
    obtain ⟨hp, hrest⟩ := List.forall_mem_cons.1 h
    rw [List.flatten_cons]
    exact hp.append (ih hrest)

/-! ### Items -/

/-- Items behind the first one stand behind separators. -/
theorem separated_cons (separator : String) (ps : List Piece) (pss : List (List Piece)) :
    RecordSql.separated separator (ps :: pss) = ps ++ pss.flatMap (.word separator :: ·) := by
  induction pss generalizing ps with
  | nil => exact (List.append_nil ps).symm
  | cons qs pss ih =>
    show ps ++ .word separator :: RecordSql.separated separator (qs :: pss) = _
    rw [ih, List.flatMap_cons]
    rfl

theorem separated_free {separator : String} {pss : List (List Piece)}
    (hs : (Piece.word separator).isAs = false) (h : ∀ qs ∈ pss, ∀ p ∈ qs, p.isAs = false) :
    ∀ p ∈ RecordSql.separated separator pss, p.isAs = false := by
  cases pss with
  | nil => exact List.forall_mem_nil _
  | cons qs pss =>
    rw [separated_cons]
    refine List.forall_mem_append.2 ⟨h qs List.mem_cons_self, fun p hp => ?_⟩
    obtain ⟨rs, hrs, hp⟩ := List.mem_flatMap.1 hp
    obtain rfl | hp := List.mem_cons.1 hp
    · exact hs
    · exact h rs (List.mem_cons_of_mem qs hrs) p hp

/-- An item of a projection: names in it are those of sub-selects, but for that of its own field. -/
def NamedItem (s : Statement) (f f' : Frame) (expand : Frame → Expr → Rendered) (r : RecordType)
    (i : String × List Piece) : Prop :=
  s.Named f i.2 ∨
    ∃ own, i.2 = own ++ fieldAlias .projection i.1 ∧ f'.Replaces expand r i.1 own ∧ s.Named f own

section Select

variable {depth : Nat} {around : List Select} {t : Select} {items : List (String × List Piece)}
  {clauses : List Piece} (site : s.Reaches f ⟨t :: around, .select t⟩)
  (text : selectPieces (expandWith depth) (f.within around) t = .ok (selectOfItems items clauses))
  (hitems : projectionItems (expandWith depth) (f.within (t :: around)) t.record t.fields = .ok items)

include site text hitems

/-- One item of a select. -/
theorem NamedItem.at {before after : List (String × List Piece)} {i : String × List Piece}
    (h : s.NamedItem f (f.within (t :: around)) (expandWith depth) t.record i)
    (hsplit : items = before ++ i :: after) (pre post : List Piece) :
    s.NamedAt f (pre ++ (.word "select " :: before.flatMap fun i => i.2 ++ [.word ", "]))
      (after.flatMap (fun i => .word ", " :: i.2) ++ ([Piece.clauseBreak, .word "from "] ++ clauses) ++ post)
      i.2 := by
  obtain h | ⟨own, hown, hreplaces, hnamed⟩ := h
  · exact h _ _
  · obtain ⟨name, ps⟩ := i
    dsimp only at hown
    subst hown
    refine (hnamed _ _).append ?_
    -- the name of the field itself
    intro front back h
    obtain ⟨rfl, hback⟩ | ⟨rest, rfl, hrest⟩ := List.append_eq_cons_iff.1 h.symm
    · cases hback
      subst hsplit
      exact .ofItem site text hitems hreplaces (by rw [List.append_nil]) rfl
    · obtain ⟨-, hback⟩ | ⟨rest, -, hrest⟩ := List.append_eq_cons_iff.1 hrest.symm
      · cases hback
      · cases rest <;> cases hrest

/-- The items of a select. -/
theorem NamedItem.all (pre post : List Piece) : ∀ before {rest : List (String × List Piece)},
    items = before ++ rest →
    (∀ i ∈ rest, s.NamedItem f (f.within (t :: around)) (expandWith depth) t.record i) →
    s.NamedAt f (pre ++ (.word "select " :: before.flatMap fun i => i.2 ++ [.word ", "]))
      (([Piece.clauseBreak, .word "from "] ++ clauses) ++ post) (RecordSql.separated ", " (rest.map (·.2)))
  | _, [], _, _ => Named.free (List.forall_mem_nil _) _ _
  | before, [i], hsplit, h => by
    exact (h i List.mem_cons_self).at site text hitems hsplit pre post
  | before, i :: j :: rest, hsplit, h => by
    obtain ⟨hi, hrest⟩ := List.forall_mem_cons.1 h
    have first := hi.at site text hitems hsplit pre post
    have others := NamedItem.all pre post (before ++ [i]) (by rw [hsplit, List.append_assoc]; rfl) hrest
    have comma : s.NamedAt f
        (pre ++ (.word "select " :: before.flatMap fun i => i.2 ++ [.word ", "]) ++ i.2)
        (RecordSql.separated ", " ((j :: rest).map (·.2)) ++
          (([Piece.clauseBreak, .word "from "] ++ clauses) ++ post)) [.word ", "] :=
      Named.free (by decide) _ _
    have hbefore : pre ++ (.word "select " :: (before ++ [i]).flatMap fun i => i.2 ++ [.word ", "]) =
        pre ++ (.word "select " :: before.flatMap fun i => i.2 ++ [.word ", "]) ++ i.2 ++ [.word ", "] := by
      simp
    have hafter : (j :: rest).flatMap (fun i => .word ", " :: i.2) =
        .word ", " :: RecordSql.separated ", " ((j :: rest).map (·.2)) := by
      rw [List.map_cons, separated_cons, List.flatMap_cons, List.flatMap_map]
      rfl
    rw [hbefore] at others
    have tail := comma.append others
    rw [hafter, List.append_assoc] at first
    exact first.append tail

/-- A select gives names to fields at the ends of its items, and otherwise where its items and clauses do. -/
theorem Named.select
    (hall : ∀ i ∈ items, s.NamedItem f (f.within (t :: around)) (expandWith depth) t.record i)
    (hclauses : s.Named f clauses) : s.Named f (selectOfItems items clauses) := by
  intro pre post
  have rest : s.Named f ([Piece.clauseBreak, .word "from "] ++ clauses) :=
    (Named.free (by simp [Piece.isAs])).append hclauses
  have front : s.NamedAt f pre (RecordSql.separated ", " (items.map (·.2)) ++
      (([Piece.clauseBreak, .word "from "] ++ clauses) ++ post)) [.word "select "] :=
    Named.free (by decide) _ _
  have projection := NamedItem.all site text hitems pre post [] rfl hall
  refine NamedAt.append ?_ (rest _ _)
  exact front.append projection

end Select

/-! ### References and keys -/

section Parts

variable {depth : Nat} {around : List Select}

/-- Definitions, substituted up to some depth, name fields of sub-selects alone. -/
def ExpandsNamed (s : Statement) (f : Frame) (depth : Nat) : Prop :=
  ∀ around e ps, s.Reaches f ⟨around, .expr e⟩ → expandWith depth (f.within around) e = .ok ps → s.Named f ps

/-- An expression names fields of sub-selects alone. -/
def RendersNamed (s : Statement) (f : Frame) (depth : Nat) (e : Expr) : Prop :=
  ∀ around ps, s.Reaches f ⟨around, .expr e⟩ →
    exprPieces (expandWith depth) (f.within around) e = .ok ps → s.Named f ps

/-- References outside of projections give no name to their fields. -/
theorem referencePieces_named (hx : s.ExpandsNamed f depth) {use : ColumnUse} {c : FieldRef}
    (h : s.Reaches f ⟨around, .reference use c⟩)
    (hps : referencePieces (expandWith depth) (f.within around) use c = .ok ps)
    (huse : use ≠ .projection) : s.Named f ps := by
  have hno : fieldAlias use c.field = [] := if_neg huse
  rw [referencePieces_eq] at hps
  obtain ⟨r, hr, hps⟩ := bind_eq_ok hps
  cases r with
  | name n =>
    cases hps
    exact .free (by simp [Piece.isAs])
  | definition d =>
    obtain ⟨own, hown, hps⟩ := bind_eq_ok hps
    rw [hno] at hps
    cases hps
    rw [List.append_nil]
    exact hx around d.expr own (h.step (.definition (Frame.resolve_definition hr))) hown
  | literal sql =>
    have hps : Except.ok (.verbatim sql :: fieldAlias use c.field) = .ok ps := hps
    rw [hno] at hps
    cases hps
    exact .free (by simp [Piece.isAs])
  | column label n =>
    cases hps
    exact .free (by simp [Piece.isAs])

/-- The items of a projection name their own fields where these are replaced. -/
theorem projectionItems_named (hx : s.ExpandsNamed f depth) {t : Select} {items : List (String × List Piece)}
    (h : s.Reaches f ⟨t :: around, .select t⟩)
    (hitems : projectionItems (expandWith depth) (f.within (t :: around)) t.record t.fields = .ok items) :
    ∀ i ∈ items, s.NamedItem f (f.within (t :: around)) (expandWith depth) t.record i := by
  obtain ⟨schema, hschema, hitems⟩ := bind_eq_ok hitems
  obtain ⟨fields, hfields, hitems⟩ := bind_eq_ok hitems
  intro i hi
  obtain ⟨field, hfield, hi⟩ := mem_of_mapM hitems i hi
  obtain ⟨ps, hps, hi⟩ := bind_eq_ok hi
  cases hi
  rw [Frame.within_registry] at hschema
  have hname := Simulation.mem_projected hschema hfields (List.mem_filter.1 hfield).1
  rw [referencePieces_eq] at hps
  obtain ⟨r, hr, hps⟩ := bind_eq_ok hps
  cases r with
  | name n =>
    cases hps
    exact .inl (.free (by simp [Piece.isAs]))
  | definition d =>
    obtain ⟨own, hown, hps⟩ := bind_eq_ok hps
    cases hps
    have hd := (h.step (.projection hname)).step (.definition (Frame.resolve_definition hr))
    exact .inr ⟨own, rfl, .definition hr hown, hx (t :: around) d.expr own hd hown⟩
  | literal sql =>
    cases hps
    exact .inr ⟨[.verbatim sql], rfl, .literal hr rfl, .free (by simp [Piece.isAs])⟩
  | column label n =>
    cases hps
    exact .inl (.free (by simp [Piece.isAs]))

theorem components_named (hx : s.ExpandsNamed f depth) {record : RecordType}
    {components : List (String × Value)} {pss : List (List Piece)}
    (h : ∀ p ∈ components, s.Reaches f ⟨around, .reference .key (.of record p.1)⟩)
    (hps : componentsPieces (expandWith depth) (f.within around) record components = .ok pss) :
    ∀ ps ∈ pss, s.Named f ps := by
  intro ps hmem
  obtain ⟨p, hp, hps⟩ := mem_of_mapM hps ps hmem
  obtain ⟨column, hcolumn, hps⟩ := bind_eq_ok hps
  cases hps
  refine (referencePieces_named hx (h p hp) hcolumn (by decide)).append (.free ?_)
  split <;> simp [Piece.isAs]

theorem values_free (values : List Value) : ∀ p ∈ valueList values, p.isAs = false :=
  separated_free (by decide) (List.forall_mem_map.2 fun _ _ => List.forall_mem_singleton.2 rfl)

/-- A choice of values behind what is compared with them. -/
theorem Named.choice (hp : s.Named f ps) (values : List Value) :
    s.Named f (ps ++ .word " in (" :: valueList values ++ [Piece.word ")"]) := by
  rw [List.append_assoc]
  refine hp.append (.free ?_)
  exact List.forall_mem_cons.2
    ⟨by decide, List.forall_mem_append.2 ⟨values_free values, by decide⟩⟩

theorem conditionPieces_named (hx : s.ExpandsNamed f depth) {c : Condition}
    (he : ∀ e, c = .expr e → s.RendersNamed f depth e) (h : s.Reaches f ⟨around, .condition c⟩)
    (hps : conditionPieces (expandWith depth) (f.within around) c = .ok ps) : s.Named f ps := by
  have keyword : s.Named f [.clauseBreak, .word "where "] := .free (by simp [Piece.isAs])
  cases c with
  | expr e =>
    obtain ⟨qs, hqs, hps⟩ := bind_eq_ok hps
    cases hps
    exact keyword.append (he e rfl around qs (h.step .condition) hqs)
  | key k =>
    obtain ⟨qs, hqs, hps⟩ := bind_eq_ok hps
    cases hps
    obtain ⟨values, pss, -, hpss, rfl⟩ := keyPieces_eq_ok hqs
    rw [Frame.within_registry] at hpss
    exact keyword.append (.separated (by decide)
      (components_named hx (fun p hp => h.step (.key (List.of_mem_zip hp).1)) hpss))
  | multiKey k =>
    obtain ⟨qs, hqs, hps⟩ := bind_eq_ok hps
    cases hps
    obtain ⟨values, pss, column, hvarying, -, hpss, hcolumn, rfl⟩ := multiKeyPieces_eq_ok hqs
    rw [Frame.within_registry] at hvarying hpss
    have fixed := components_named hx
      (fun p hp => h.step (.multiKey (List.mem_filter.1 (List.of_mem_zip hp).1).1)) hpss
    have varying := referencePieces_named hx (h.step (.multiKey hvarying)) hcolumn (by decide)
    refine keyword.append (.separated (by decide) (List.forall_mem_append.2 ⟨fixed, ?_⟩))
    exact List.forall_mem_singleton.2 (varying.choice k.values)

/-! ### Clauses -/

theorem fullTextPieces_free {f : Frame} {record : RecordType} {index query : String}
    (hps : fullTextPieces f record index query = .ok ps) : ∀ p ∈ ps, p.isAs = false := by
  obtain ⟨schema, -, hps⟩ := bind_eq_ok hps
  split at hps
  · cases hps
  · rename_i i _
    obtain ⟨t, -, hps⟩ := bind_eq_ok hps
    split at hps
    · obtain ⟨columns, hcolumns, hps⟩ := bind_eq_ok hps
      cases hps
      refine List.forall_mem_cons.2 ⟨by decide, List.forall_mem_append.2
        ⟨separated_free (by decide) fun qs hqs => ?_, by simp [Piece.isAs]⟩⟩
      obtain ⟨name, -, hname⟩ := mem_of_mapM hcolumns qs hqs
      obtain ⟨label, -, hname⟩ := bind_eq_ok hname
      obtain ⟨field, -, hname⟩ := bind_eq_ok hname
      cases hname
      exact List.forall_mem_singleton.2 rfl
    · obtain ⟨label, -, hps⟩ := bind_eq_ok hps
      cases hps
      simp [Piece.isAs]

/-- The tables that a select reads are declared in pieces of their own. -/
theorem sourcePieces_free {f : Frame} {record : RecordType} {sources : Option (List RecordType)}
    (hps : sourcePieces f record sources = .ok ps) : ∀ p ∈ ps, p.isAs = false := by
  obtain ⟨tables, htables, hps⟩ := bind_eq_ok hps
  cases hps
  refine separated_free (by decide) (List.forall_mem_map.2 fun p hp => List.forall_mem_singleton.2 ?_)
  obtain ⟨r, -, hr⟩ := mem_of_mapM htables p hp
  obtain ⟨name, label, rfl, -⟩ := tablePiece_label hr
  rfl

theorem joinTable_free {f : Frame} {record : RecordType} {tableAlias : Option String} {p : Piece}
    (h : joinTable f record tableAlias = .ok p) : p.isAs = false := by
  obtain ⟨name, label, rfl, -⟩ := joinTable_label h
  rfl

theorem joinKind_isAs (k : JoinKind) : (Piece.word (k.text ++ " ")).isAs = false := by
  cases k <;> decide

theorem operator_isAs (op : Operator) : (Piece.word (" " ++ op.text ++ " ")).isAs = false := by
  cases op <;> decide

theorem junction_isAs (op : Junction) : (Piece.word (" " ++ op.text ++ " ")).isAs = false := by
  cases op <;> decide

theorem direction_isAs (d : Direction) : (Piece.word (" " ++ d.text)).isAs = false := by
  cases d <;> decide

theorem epochWord_isAs (d : Dialect) : (Piece.word (epochWord d)).isAs = false := by
  cases d <;> decide

theorem joinPieces_named {js : List Join} (he : ∀ j ∈ js, s.RendersNamed f depth j.condition)
    (hreach : ∀ j ∈ js, s.Reaches f ⟨around, .expr j.condition⟩)
    (hps : joinPieces (expandWith depth) (f.within around) js = .ok ps) : s.Named f ps := by
  rw [joinPieces_eq] at hps
  obtain ⟨pss, hpss, rfl⟩ := map_eq_ok hps
  refine .flatten fun qs hqs => ?_
  obtain ⟨j, hj, hqs⟩ := mem_of_mapM hpss qs hqs
  obtain ⟨table, on, htable, hon, rfl⟩ := onePieces_eq_ok hqs
  refine (Named.free ?_).append (he j hj around on (hreach j hj) hon)
  exact List.forall_mem_cons.2 ⟨rfl, List.forall_mem_cons.2 ⟨joinKind_isAs j.kind,
    List.forall_mem_cons.2 ⟨joinTable_free htable, by decide⟩⟩⟩

theorem exprsPieces_named {es : List Expr} {pss : List (List Piece)}
    (he : ∀ e ∈ es, s.RendersNamed f depth e) (hreach : ∀ e ∈ es, s.Reaches f ⟨around, .expr e⟩)
    (hps : exprsPieces (expandWith depth) (f.within around) es = .ok pss) : ∀ qs ∈ pss, s.Named f qs := by
  rw [exprsPieces_eq] at hps
  intro qs hqs
  obtain ⟨e, hmem, hqs⟩ := mem_of_mapM hps qs hqs
  exact he e hmem around qs (hreach e hmem) hqs

theorem orderPieces_named {ts : List OrderTerm} {pss : List (List Piece)}
    (he : ∀ t ∈ ts, s.RendersNamed f depth t.expr)
    (hreach : ∀ t ∈ ts, s.Reaches f ⟨around, .expr t.expr⟩)
    (hps : orderPieces (expandWith depth) (f.within around) ts = .ok pss) : ∀ qs ∈ pss, s.Named f qs := by
  rw [orderPieces_eq] at hps
  intro qs hqs
  obtain ⟨t, hmem, hqs⟩ := mem_of_mapM hps qs hqs
  obtain ⟨ps, hps, rfl⟩ := termPieces_eq_ok hqs
  refine (he t hmem around ps (hreach t hmem) hps).append (.free ?_)
  exact List.forall_mem_singleton.2 (direction_isAs t.direction)

/-- A projection is the items between commas. -/
theorem projectionPieces_items {expand : Frame → Expr → Rendered} {f : Frame} {record : RecordType}
    {names : List String} (hps : projectionPieces expand f record names = .ok ps) :
    ∃ items, projectionItems expand f record names = .ok items ∧
      ps = RecordSql.separated ", " (items.map (·.2)) := by
  have paired : ∀ {fields : List FieldSchema} {pss : List (List Piece)},
      (fields.mapM fun field => referencePieces expand f .projection (.of record field.name)) = .ok pss →
      ∃ items, (fields.mapM fun field => do
          return (field.name, ← referencePieces expand f .projection (.of record field.name))) =
            (.ok items : Except Error (List (String × List Piece))) ∧ pss = items.map (·.2) := by
    intro fields
    induction fields with
    | nil =>
      intro pss h
      cases h
      exact ⟨[], rfl, rfl⟩
    | cons field fields ih =>
      intro pss h
      rw [List.mapM_cons] at h
      obtain ⟨ps, hps, h⟩ := bind_eq_ok h
      obtain ⟨rest, hrest, h⟩ := bind_eq_ok h
      cases h
      obtain ⟨items, hitems, rfl⟩ := ih hrest
      exact ⟨(field.name, ps) :: items, by rw [List.mapM_cons, hps, ok_bind, hitems]; rfl, rfl⟩
  obtain ⟨schema, fields, pss, hschema, hfields, hpss, rfl⟩ := projectionPieces_eq_ok hps
  obtain ⟨items, hitems, rfl⟩ := paired hpss
  refine ⟨items, ?_, rfl⟩
  unfold projectionItems
  rw [hschema, ok_bind, hfields]
  exact hitems

/-- A select, given the expressions in its clauses. -/
theorem selectPieces_named (hx : s.ExpandsNamed f depth) {t : Select}
    (hjoins : ∀ j ∈ t.joins, s.RendersNamed f depth j.condition)
    (hcondition : ∀ e, t.condition = some (.expr e) → s.RendersNamed f depth e)
    (hgroups : ∀ es, t.groupBy = some es → ∀ e ∈ es, s.RendersNamed f depth e)
    (horder : ∀ ts, t.orderBy = some ts → ∀ o ∈ ts, s.RendersNamed f depth o.expr)
    (h : s.Reaches f ⟨t :: around, .select t⟩)
    (hps : selectPieces (expandWith depth) (f.within around) t = .ok ps) : s.Named f ps := by
  have clause : ∀ e ∈ t.clauses, s.Reaches f ⟨t :: around, .expr e⟩ := fun e he => h.step (.clause he)
  have hwhole := hps
  obtain ⟨projection, tables, joined, condition, groups, order, hprojection, htables, hjoined, hwhere,
    hgroup, hsort, heq⟩ := selectPieces_eq_ok hps
  obtain ⟨items, hitems, rfl⟩ := projectionPieces_items hprojection
  have htext : ps = selectOfItems items
      (tables ++ joined ++ condition ++ groups ++ order ++ limitPieces t.limit ++ lockPieces t.forUpdate) := by
    rw [heq]
    simp [selectOfItems]
  rw [htext] at hwhole ⊢
  refine Named.select h hwhole hitems (projectionItems_named hx h hitems) ?_
  have tablesNamed : s.Named f tables := .free (sourcePieces_free htables)
  have joinsNamed : s.Named f joined :=
    joinPieces_named hjoins (fun j hj => clause _ (Select.join_mem_clauses hj)) hjoined
  have conditionNamed : s.Named f condition := by
    cases hc : t.condition with
    | none =>
      rw [hc] at hwhere
      cases hwhere
      exact .free (List.forall_mem_nil _)
    | some c =>
      rw [hc] at hwhere
      exact conditionPieces_named hx (fun e he => hcondition e (he ▸ hc)) (h.step (.restriction hc)) hwhere
  have groupsNamed : s.Named f groups := by
    obtain ⟨-, rfl⟩ | ⟨es, pss, hg, hpss, rfl⟩ := groupPieces_eq_ok hgroup
    · exact .free (List.forall_mem_nil _)
    · have terms := exprsPieces_named (hgroups es hg)
        (fun e he => clause e (Select.group_mem_clauses hg he)) hpss
      have keyword : s.Named f [.clauseBreak, .word "group by "] := .free (by simp [Piece.isAs])
      exact keyword.append (.separated (by decide) terms)
  have orderNamed : s.Named f order := by
    obtain ⟨-, rfl⟩ | ⟨ts, pss, ho, hpss, rfl⟩ := sortPieces_eq_ok hsort
    · exact .free (List.forall_mem_nil _)
    · have terms := orderPieces_named (horder ts ho)
        (fun o hmem => clause _ (Select.order_mem_clauses ho hmem)) hpss
      have keyword : s.Named f [.clauseBreak, .word "order by "] := .free (by simp [Piece.isAs])
      exact keyword.append (.separated (by decide) terms)
  have limitNamed : s.Named f (limitPieces t.limit) :=
    .free (by cases t.limit <;> simp [limitPieces, Piece.isAs])
  have lockNamed : s.Named f (lockPieces t.forUpdate) :=
    .free (by cases t.forUpdate <;> simp [lockPieces, Piece.isAs])
  exact (((((tablesNamed.append joinsNamed).append conditionNamed).append groupsNamed).append
    orderNamed).append limitNamed).append lockNamed

/-! ### Expressions and statements -/

/-- The cases of the induction. -/
theorem named_cases (hx : s.ExpandsNamed f depth) :
    ExprCases (s.RendersNamed f depth) fun t => ∀ around ps, s.Reaches f ⟨t :: around, .select t⟩ →
      selectPieces (expandWith depth) (f.within around) t = .ok ps → s.Named f ps where
  column := fun c around ps h hps => referencePieces_named hx (h.step (.reference rfl)) hps (by decide)
  literal := fun sql around ps h hps => by
    cases hps
    exact .free (by simp [Piece.isAs])
  value := fun v around ps h hps => by
    cases hps
    exact .free (by simp [Piece.isAs])
  call := fun name args ih around ps h hps => by
    obtain ⟨pss, hpss, hps⟩ := bind_eq_ok hps
    cases hps
    have items := exprsPieces_named ih (fun a ha => h.step (.operand ha)) hpss
    have front : s.Named f [.verbatim name] := .free (by simp [Piece.isAs])
    exact front.append (Named.separated (by decide) items).parenthesized
  epoch := fun e ih around ps h hps => by
    obtain ⟨qs, hqs, hps⟩ := bind_eq_ok hps
    cases hps
    refine (ih around qs (h.step (.operand (List.mem_singleton_self _))) hqs).between [_] [_]
      (List.forall_mem_singleton.2 (epochWord_isAs _)) (by decide)
  binary := fun op l r ihl ihr around ps h hps => by
    obtain ⟨left, hleft, hps⟩ := bind_eq_ok hps
    obtain ⟨right, hright, hps⟩ := bind_eq_ok hps
    cases hps
    have operand : ∀ {qs : List Piece} (compound : Bool), s.Named f qs →
        s.Named f (if compound then RecordSql.parenthesized qs else qs) := by
      intro qs compound hqs
      cases compound with
      | true => exact hqs.parenthesized
      | false => exact hqs
    have hl := ihl around left (h.step (.operand List.mem_cons_self)) hleft
    have hr := ihr around right
      (h.step (.operand (List.mem_cons_of_mem _ (List.mem_singleton_self _)))) hright
    refine ((operand _ hl).append (.free ?_)).append (operand _ hr)
    exact List.forall_mem_singleton.2 (operator_isAs op)
  junction := fun op operands ih around ps h hps => by
    obtain ⟨pss, hpss, hps⟩ := bind_eq_ok hps
    cases hps
    have items := exprsPieces_named ih (fun a ha => h.step (.operand ha)) hpss
    exact .separated (junction_isAs op)
      (List.forall_mem_map.2 fun qs hqs => (items qs hqs).parenthesized)
  not := fun e ih around ps h hps => by
    obtain ⟨qs, hqs, hps⟩ := bind_eq_ok hps
    cases hps
    have front : s.Named f [.word "not "] := .free (by decide)
    exact front.append (ih around qs (h.step (.operand (List.mem_singleton_self _))) hqs).parenthesized
  isNull := fun c around ps h hps => by
    obtain ⟨qs, hqs, hps⟩ := bind_eq_ok hps
    cases hps
    exact (referencePieces_named hx (h.step (.reference rfl)) hqs (by decide)).append (.free (by decide))
  inList := fun c values around ps h hps => by
    obtain ⟨qs, hqs, hps⟩ := bind_eq_ok hps
    cases hps
    exact (referencePieces_named hx (h.step (.reference rfl)) hqs (by decide)).choice values
  subSelect := fun t ih around ps h hps => by
    obtain ⟨qs, hqs, hps⟩ := bind_eq_ok hps
    cases hps
    exact (ih around qs (h.step .subSelect) hqs).between [.openSelect] [.closeSelect] (by simp [Piece.isAs])
      (by simp [Piece.isAs])
  fullText := fun record index query around ps h hps => .free (fullTextPieces_free hps)
  ofParts := fun t _ hjoins hcondition hgroups horder around ps h hps =>
    selectPieces_named hx hjoins hcondition hgroups horder h hps

theorem expandsNamed : ∀ depth, s.ExpandsNamed f depth
  | 0 => nofun
  | depth + 1 => fun around e ps h hps => (named_cases (expandsNamed depth)).expr e around ps h hps

end Parts

section Statements

variable {dialect : Dialect} {g : Registry}

theorem insertPieces_free {f : Frame} {i : Insert} (hps : insertPieces f i = .ok ps) :
    ∀ p ∈ ps, p.isAs = false := by
  obtain ⟨schema, table, slots, -, -, hslots, rfl⟩ := insertPieces_eq_ok hps
  have columns : ∀ p ∈ RecordSql.separated ", " (schema.storedFields.map fun c => [.ident c.columnName]),
      p.isAs = false :=
    separated_free (by decide) (List.forall_mem_map.2 fun _ _ => List.forall_mem_singleton.2 rfl)
  have values : ∀ p ∈ RecordSql.separated ", " slots, p.isAs = false := by
    refine separated_free (by decide) fun qs hqs => ?_
    obtain ⟨field, -, hslot⟩ := mem_of_mapM hslots qs hqs
    obtain rfl | ⟨v, -, rfl⟩ := insertSlot_eq_ok hslot
    · decide
    · exact List.forall_mem_singleton.2 rfl
  simp only [List.forall_mem_append]
  exact ⟨⟨⟨⟨by simp [Piece.isAs], columns⟩, by simp [Piece.isAs]⟩, values⟩, by decide⟩

theorem updatePieces_named {u : Update} {ps : List Piece}
    (hps : updatePieces ((Statement.update u).frame dialect g) u = .ok ps) :
    (Statement.update u).Named ((Statement.update u).frame dialect g) ps := by
  have whole : (Statement.update u).Reaches ((Statement.update u).frame dialect g) ⟨[], _⟩ := .start
  have hexprs : ∀ depth e,
      (Statement.update u).RendersNamed ((Statement.update u).frame dialect g) depth e :=
    fun depth => (named_cases (expandsNamed depth)).expr
  obtain ⟨condition, schema, table, n, depth, assignments, restriction, hcondition, -, -, -, hassignments,
    hrestriction, rfl⟩ := updatePieces_eq_ok hps
  refine ((Named.free (by simp [Piece.isAs])).append (.separated (by decide) fun qs hqs => ?_)).append
    (conditionPieces_named (expandsNamed _) (fun e _ => hexprs _ e) (whole.step (.update hcondition))
      hrestriction)
  obtain ⟨a, ha, hqs⟩ := mem_of_mapM hassignments qs hqs
  obtain ⟨field, rs, hrs, rfl⟩ := assignmentPieces_eq_ok hqs
  exact (Named.free (by simp [Piece.isAs])).append (hexprs _ a.2 [] rs (whole.step (.assignment ha)) hrs)

theorem deletePieces_named {d : Delete} {ps : List Piece}
    (hps : deletePieces { dialect := dialect, registry := g } d = .ok ps) :
    (Statement.delete d).Named ((Statement.delete d).frame dialect g) ps := by
  have whole : (Statement.delete d).Reaches ((Statement.delete d).frame dialect g) ⟨[], _⟩ := .start
  have restricted : ∀ {depth restriction}, conditionPieces (expandWith depth)
      ((Statement.delete d).frame dialect g) d.condition = .ok restriction →
      (Statement.delete d).Named ((Statement.delete d).frame dialect g) restriction := fun h =>
    conditionPieces_named (expandsNamed _) (fun e _ => (named_cases (expandsNamed _)).expr e)
      (whole.step .delete) h
  obtain ⟨schema, table, depth, restriction, -, -, ⟨halias, hrestriction, n, -, rfl⟩ |
    ⟨halias, hrestriction, rfl⟩⟩ := deletePieces_eq_ok hps
  · exact (Named.free (by simp [Piece.isAs])).append
      (restricted (frame_delete_aliased halias ▸ hrestriction))
  · exact (Named.free (by simp [Piece.isAs])).append
      (restricted (frame_delete_unaliased halias ▸ hrestriction))

/-- In the pieces of a statement, each word that gives a name to a field stands at the end of an item in the
projection of a select, one whose field is replaced. -/
theorem statementPieces_named {s : Statement} {ps : List Piece}
    (hps : statementPieces dialect g s = .ok ps) : s.Named (s.frame dialect g) ps := by
  cases s with
  | select t => exact (named_cases (expandsNamed _)).select t [] ps (.step .start .select) hps
  | insert i => exact .free (insertPieces_free hps)
  | update u => exact updatePieces_named hps
  | delete d => exact deletePieces_named hps

end Statements

end Statement

end RecordSql
