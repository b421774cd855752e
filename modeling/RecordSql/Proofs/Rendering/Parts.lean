import RecordSql.Proofs.Outcome
import RecordSql.Statement.Pieces

/-!
# The parts of a rendering

How the pieces of references, lists and selects are put together, in a form that can be followed step by
step.

- `Frame.enter`: what the clauses of a select are written in.
- `Frame.applied?`, `Frame.resolve`: what a reference stands for.
- `referencePieces_eq`, `selectPieces_eq`: references and selects as sequences of steps.
- `exprsPieces_eq`, `orderPieces_eq`, `joinPieces_eq`: lists item by item.
- `onePieces_eq_ok`, `termPieces_eq_ok`, `projectionPieces_eq_ok`, `groupPieces_eq_ok`, `sortPieces_eq_ok`:
  what is rendered item by item.
- `selectPieces_eq_ok`, `insertPieces_eq_ok`, `updatePieces_eq_ok`, `deletePieces_eq_ok`: what is rendered
  clause by clause.
-/

namespace RecordSql

/-- What the clauses of a select are written in: its definitions come before those around it. -/
def Frame.enter (f : Frame) (s : Select) : Frame :=
  { f with selects := (s.record, s.definitions) :: f.selects }

/-- The definition that a reference is replaced by. -/
def Frame.applied? (f : Frame) (use : ColumnUse) (c : FieldRef) : Option Definition :=
  c.record.bind fun r => (f.definition? r c.field).filter (Definition.applies use)

/-- A definition that is found is one of a select around. -/
theorem Frame.mem_of_definition? {f : Frame} {r : RecordType} {field : String} {d : Definition}
    (h : f.definition? r field = some d) : ∃ s ∈ f.selects, s.1 = r ∧ d ∈ s.2 ∧ d.field = field := by
  obtain ⟨s, hs, hfind⟩ := List.exists_of_findSome?_eq_some h
  split at hfind
  · rename_i hr
    have hfield := List.find?_some hfind
    exact ⟨s, hs, hr, List.mem_of_find?_eq_some hfind, of_decide_eq_true hfield⟩
  · cases hfind

/-- A definition that a reference is replaced by is one of a select around, of its record and field. -/
theorem Frame.mem_of_applied? {f : Frame} {use : ColumnUse} {c : FieldRef} {d : Definition}
    (h : f.applied? use c = some d) :
    ∃ s ∈ f.selects, c.record = some s.1 ∧ d ∈ s.2 ∧ d.field = c.field := by
  obtain ⟨r, hr, hd⟩ := Option.bind_eq_some_iff.1 h
  obtain ⟨s, hs, rfl, hmem, hfield⟩ := Frame.mem_of_definition? (Option.filter_eq_some_iff.1 hd).1
  exact ⟨s, hs, hr, hmem, hfield⟩

/-- The name that a table is known by. -/
def TableLabel.name : TableLabel → String
  | .abbreviation n => abbreviationText n
  | .named s => s

/-- What a reference stands for. -/
inductive Resolved
  | name (name : String)
  | definition (d : Definition)
  | literal (sql : String)
  | column (label : TableLabel) (name : String)

/-- What a reference stands for where no definition applies: literal SQL or a column. -/
def Frame.stored (f : Frame) (c : FieldRef) (record : RecordType) (schema : RecordSchema)
    (field : FieldSchema) : Except Error Resolved :=
  match field.literal with
  | some sql => .ok (.literal sql)
  | none =>
    match field.shadowOf <|> schema.tableOwner with
    | none => .error (.noDefinition record c.field)
    | some t =>
      match c.qualifier with
      | some a => .ok (.column (.named a) field.columnName)
      | none => do return .column (← f.label t) field.columnName

/-- What a reference stands for. -/
def Frame.resolve (f : Frame) (use : ColumnUse) (c : FieldRef) : Except Error Resolved :=
  match c.record with
  | none => .ok (.name c.field)
  | some record => do
    let schema ← f.registry.schema record
    let field ← schema.getField c.field
    match f.applied? use c with
    | some d => .ok (.definition d)
    | none => f.stored c record schema field

/-- The pieces of what a reference stands for. -/
def Resolved.pieces (expand : Frame → Expr → Rendered) (f : Frame) (use : ColumnUse)
    (field : String) : Resolved → Rendered
  | .name n => .ok [.ident n]
  | .definition d => do return (← expand f d.expr) ++ fieldAlias use field
  | .literal sql => .ok (.verbatim sql :: fieldAlias use field)
  | .column label n => .ok [.column label n]

/-- A reference is resolved first and written then. -/
theorem referencePieces_eq (expand : Frame → Expr → Rendered) (f : Frame) (use : ColumnUse)
    (c : FieldRef) :
    referencePieces expand f use c =
      f.resolve use c >>= fun r => r.pieces expand f use c.field := by
  unfold referencePieces Frame.resolve
  cases hr : c.record with
  | none => rfl
  | some record =>
    have happ : f.applied? use c
        = (f.definition? record c.field).filter (Definition.applies use) := by
      simp [Frame.applied?, hr]
    simp only [bind_assoc, happ]
    congr 1
    funext schema
    congr 1
    funext field
    cases (f.definition? record c.field).filter (Definition.applies use) with
    | some d => rfl
    | none =>
      unfold Frame.stored
      cases field.literal with
      | some sql => rfl
      | none =>
        cases (field.shadowOf <|> schema.tableOwner) with
        | none => rfl
        | some t =>
          cases c.qualifier with
          | some a => rfl
          | none =>
            simp only [bind_assoc]
            rfl

/-- Only the definition that applies stands for a reference. -/
theorem Frame.resolve_definition {f : Frame} {use : ColumnUse} {c : FieldRef} {d : Definition}
    (h : f.resolve use c = .ok (.definition d)) : f.applied? use c = some d := by
  unfold Frame.resolve at h
  split at h
  · cases h
  · obtain ⟨schema, -, h⟩ := bind_eq_ok h
    obtain ⟨field, -, h⟩ := bind_eq_ok h
    split at h
    · rename_i happ
      cases h
      exact happ
    · unfold Frame.stored at h
      split at h
      · cases h
      · split at h
        · cases h
        · split at h
          · cases h
          · obtain ⟨_, -, h⟩ := bind_eq_ok h
            cases h

/-- A reference that stands for a column is one to a field of a record, and the table is that of the
record that the field shadows, or the one behind its own record. -/
theorem Frame.resolve_column {f : Frame} {use : ColumnUse} {c : FieldRef} {label : TableLabel}
    {name : String} (h : f.resolve use c = .ok (.column label name)) :
    ∃ r schema field t, c.record = some r ∧ f.registry.schema r = .ok schema ∧
      schema.getField c.field = .ok field ∧ (field.shadowOf <|> schema.tableOwner) = some t ∧
      name = field.columnName ∧
      match c.qualifier with
      | some a => label = .named a
      | none => f.label t = .ok label := by
  unfold Frame.resolve at h
  split at h
  · cases h
  · rename_i r hr
    obtain ⟨schema, hschema, h⟩ := bind_eq_ok h
    obtain ⟨field, hfield, h⟩ := bind_eq_ok h
    split at h
    · cases h
    · unfold Frame.stored at h
      split at h
      · cases h
      · split at h
        · cases h
        · rename_i t ht
          refine ⟨r, schema, field, t, hr, hschema, hfield, ht, ?_⟩
          split at h
          · rename_i a hq
            cases h
            exact ⟨rfl, rfl⟩
          · rename_i hq
            obtain ⟨_, hl, h⟩ := bind_eq_ok h
            cases h
            exact ⟨rfl, hl⟩

/-! ### Lists -/

/-- Pieces of one join. -/
def onePieces (expand : Frame → Expr → Rendered) (f : Frame) (j : Join) : Rendered := do
  let table ← joinTable f j.record j.tableAlias
  let on ← exprPieces expand f j.condition
  return [Piece.clauseBreak, .word (j.kind.text ++ " "), table, .word " on "] ++ on

/-- Pieces of one term of an order. -/
def termPieces (expand : Frame → Expr → Rendered) (f : Frame) (t : OrderTerm) : Rendered := do
  return (← exprPieces expand f t.expr) ++ [Piece.word (" " ++ t.direction.text)]

theorem exprsPieces_eq (expand : Frame → Expr → Rendered) (f : Frame) (es : List Expr) :
    exprsPieces expand f es = es.mapM (exprPieces expand f) := by
  induction es with
  | nil => simp [exprsPieces]
  | cons e es ih => simp [exprsPieces, ih]

theorem orderPieces_eq (expand : Frame → Expr → Rendered) (f : Frame) (ts : List OrderTerm) :
    orderPieces expand f ts = ts.mapM (termPieces expand f) := by
  induction ts with
  | nil => simp [orderPieces]
  | cons t ts ih => cases t; simp [orderPieces, termPieces, ih]

theorem joinPieces_eq (expand : Frame → Expr → Rendered) (f : Frame) (js : List Join) :
    joinPieces expand f js = List.flatten <$> js.mapM (onePieces expand f) := by
  induction js with
  | nil => simp [joinPieces]
  | cons j js ih => cases j; simp [joinPieces, onePieces, ih]

/-- A join is its table and its condition behind the words that go with them. -/
theorem onePieces_eq_ok {expand : Frame → Expr → Rendered} {f : Frame} {j : Join} {ps : List Piece}
    (h : onePieces expand f j = .ok ps) :
    ∃ table on, joinTable f j.record j.tableAlias = .ok table ∧ exprPieces expand f j.condition = .ok on ∧
      ps = [Piece.clauseBreak, .word (j.kind.text ++ " "), table, .word " on "] ++ on := by
  obtain ⟨table, htable, h⟩ := bind_eq_ok h
  obtain ⟨on, hon, h⟩ := bind_eq_ok h
  cases h
  exact ⟨table, on, htable, hon, rfl⟩

/-- A term of an order is its expression with the direction behind it. -/
theorem termPieces_eq_ok {expand : Frame → Expr → Rendered} {f : Frame} {t : OrderTerm} {ps : List Piece}
    (h : termPieces expand f t = .ok ps) :
    ∃ qs, exprPieces expand f t.expr = .ok qs ∧ ps = qs ++ [Piece.word (" " ++ t.direction.text)] := by
  obtain ⟨qs, hqs, h⟩ := bind_eq_ok h
  cases h
  exact ⟨qs, hqs, rfl⟩

/-! ### Selects -/

/-- A projection is its items one after the other, references to the fields that are asked for. -/
theorem projectionPieces_eq_ok {expand : Frame → Expr → Rendered} {f : Frame} {record : RecordType}
    {names : List String} {ps : List Piece} (h : projectionPieces expand f record names = .ok ps) :
    ∃ schema fields items, f.registry.schema record = .ok schema ∧
      selectedFields schema names = .ok fields ∧
      ((fields.filter (f.projects record)).mapM fun field =>
        referencePieces expand f .projection (.of record field.name)) = .ok items ∧
      ps = separated ", " items := by
  obtain ⟨schema, hschema, h⟩ := bind_eq_ok h
  obtain ⟨fields, hfields, h⟩ := bind_eq_ok h
  obtain ⟨items, hitems, h⟩ := bind_eq_ok h
  cases h
  exact ⟨schema, fields, items, hschema, hfields, hitems, rfl⟩

/-- The restriction of a select, if it has one. -/
def wherePieces (expand : Frame → Expr → Rendered) (f : Frame) : Option Condition → Rendered
  | some c => conditionPieces expand f c
  | none => .ok []

/-- The groups of a select. -/
def groupPieces (expand : Frame → Expr → Rendered) (f : Frame) : Option (List Expr) → Rendered
  | some es => do
    return .clauseBreak :: .word "group by " :: separated ", " (← exprsPieces expand f es)
  | none => .ok []

/-- The order of a select. -/
def sortPieces (expand : Frame → Expr → Rendered) (f : Frame) : Option (List OrderTerm) → Rendered
  | some ts => do
    return .clauseBreak :: .word "order by " :: separated ", " (← orderPieces expand f ts)
  | none => .ok []

/-- Groups are expressions between commas. -/
theorem groupPieces_eq_ok {expand : Frame → Expr → Rendered} {f : Frame} {groupBy : Option (List Expr)}
    {ps : List Piece} (h : groupPieces expand f groupBy = .ok ps) :
    (groupBy = none ∧ ps = []) ∨
      ∃ es pss, groupBy = some es ∧ exprsPieces expand f es = .ok pss ∧
        ps = .clauseBreak :: .word "group by " :: separated ", " pss := by
  cases groupBy with
  | none =>
    cases h
    exact .inl ⟨rfl, rfl⟩
  | some es =>
    obtain ⟨pss, hpss, h⟩ := bind_eq_ok h
    cases h
    exact .inr ⟨es, pss, rfl, hpss, rfl⟩

/-- An order is its terms between commas. -/
theorem sortPieces_eq_ok {expand : Frame → Expr → Rendered} {f : Frame} {orderBy : Option (List OrderTerm)}
    {ps : List Piece} (h : sortPieces expand f orderBy = .ok ps) :
    (orderBy = none ∧ ps = []) ∨
      ∃ ts pss, orderBy = some ts ∧ orderPieces expand f ts = .ok pss ∧
        ps = .clauseBreak :: .word "order by " :: separated ", " pss := by
  cases orderBy with
  | none =>
    cases h
    exact .inl ⟨rfl, rfl⟩
  | some ts =>
    obtain ⟨pss, hpss, h⟩ := bind_eq_ok h
    cases h
    exact .inr ⟨ts, pss, rfl, hpss, rfl⟩

/-- A record without table needs other sources. -/
def Frame.readable (f : Frame) (s : Select) : Except Error Unit :=
  if s.sources.isNone then discard (f.registry.tableOf s.record) else .ok ()

/-- A select is written clause by clause, all of them with its definitions in force. -/
theorem selectPieces_eq (expand : Frame → Expr → Rendered) (f : Frame) (s : Select) :
    selectPieces expand f s = (do
      f.readable s
      let projection ← projectionPieces expand (f.enter s) s.record s.fields
      let tables ← sourcePieces (f.enter s) s.record s.sources
      let joined ← joinPieces expand (f.enter s) s.joins
      let condition ← wherePieces expand (f.enter s) s.condition
      let groups ← groupPieces expand (f.enter s) s.groupBy
      let order ← sortPieces expand (f.enter s) s.orderBy
      return .word "select " :: projection ++ [Piece.clauseBreak, .word "from "] ++ tables ++ joined ++
        condition ++ groups ++ order ++ limitPieces s.limit ++ lockPieces s.forUpdate) := by
  obtain ⟨record, names, sources, joins, condition, groupBy, orderBy, limit, forUpdate, definitions⟩ := s
  cases sources <;> cases condition <;> cases groupBy <;> cases orderBy <;>
    simp only [wherePieces, groupPieces, sortPieces, bind_assoc] <;> rfl

/-- A select that is rendered is its clauses one after the other. -/
theorem selectPieces_eq_ok {expand : Frame → Expr → Rendered} {f : Frame} {s : Select} {ps : List Piece}
    (h : selectPieces expand f s = .ok ps) :
    ∃ projection tables joined condition groups order,
      projectionPieces expand (f.enter s) s.record s.fields = .ok projection ∧
      sourcePieces (f.enter s) s.record s.sources = .ok tables ∧
      joinPieces expand (f.enter s) s.joins = .ok joined ∧
      wherePieces expand (f.enter s) s.condition = .ok condition ∧
      groupPieces expand (f.enter s) s.groupBy = .ok groups ∧
      sortPieces expand (f.enter s) s.orderBy = .ok order ∧
      ps = .word "select " :: projection ++ [Piece.clauseBreak, .word "from "] ++ tables ++ joined ++
        condition ++ groups ++ order ++ limitPieces s.limit ++ lockPieces s.forUpdate := by
  rw [selectPieces_eq] at h
  obtain ⟨_, -, h⟩ := bind_eq_ok h
  obtain ⟨projection, hprojection, h⟩ := bind_eq_ok h
  obtain ⟨tables, htables, h⟩ := bind_eq_ok h
  obtain ⟨joined, hjoined, h⟩ := bind_eq_ok h
  obtain ⟨condition, hwhere, h⟩ := bind_eq_ok h
  obtain ⟨groups, hgroup, h⟩ := bind_eq_ok h
  obtain ⟨order, hsort, h⟩ := bind_eq_ok h
  cases h
  exact ⟨projection, tables, joined, condition, groups, order, hprojection, htables, hjoined, hwhere,
    hgroup, hsort, rfl⟩

/-! ### Inserts, updates and deletes -/

section Changes

variable {f : Frame} {ps : List Piece}

/-- A slot is left to the database, or it is the value given for its field. -/
theorem insertSlot_eq_ok {i : Insert} {identity : List String} {field : FieldSchema}
    (h : insertSlot i identity field = .ok ps) :
    ps = [.word "default"] ∨ ∃ v, i.values.value? field.name = some v ∧ ps = [.value v] := by
  unfold insertSlot at h
  split at h
  · cases h
    exact .inl rfl
  · split at h
    · rename_i v hv
      cases h
      exact .inr ⟨v, hv, rfl⟩
    · cases h

/-- An insert has a table, names the columns of its record and has a slot for each of them. -/
theorem insertPieces_eq_ok {i : Insert} (h : insertPieces f i = .ok ps) :
    ∃ schema table slots, f.registry.schema i.record = .ok schema ∧ schema.table = some table ∧
      schema.storedFields.mapM (insertSlot i (i.identityFields ++ schema.identityFields)) = .ok slots ∧
      ps = [Piece.word "insert into ", .ident table, .word " ("] ++
        separated ", " (schema.storedFields.map fun c => [.ident c.columnName]) ++
        [Piece.word ")", .clauseBreak, .word "values ("] ++ separated ", " slots ++ [Piece.word ")"] := by
  obtain ⟨schema, hschema, h⟩ := bind_eq_ok h
  split at h
  · cases h
  · rename_i table htable
    obtain ⟨slots, hslots, h⟩ := bind_eq_ok h
    cases h
    exact ⟨schema, table, slots, hschema, htable, hslots, rfl⟩

/-- An assignment sets the column of its field. -/
theorem assignmentPieces_eq_ok {expand : Frame → Expr → Rendered} {record : RecordType}
    {schema : RecordSchema} {name : String} {e : Expr}
    (h : assignmentPieces expand f record schema name e = .ok ps) :
    ∃ (field : FieldSchema) (qs : List Piece), exprPieces expand f e = .ok qs ∧
      ps = [Piece.ident field.columnName, .word " = "] ++ qs := by
  obtain ⟨field, -, h⟩ := bind_eq_ok h
  dsimp only at h
  split at h
  · cases h
  · obtain ⟨qs, hqs, h⟩ := bind_eq_ok h
    cases h
    exact ⟨field, qs, hqs, rfl⟩

/-- An update has a table and a condition, and its assignments stand between the two. -/
theorem updatePieces_eq_ok {u : Update} (h : updatePieces f u = .ok ps) :
    ∃ condition schema table n depth assignments restriction, u.condition = some condition ∧
      f.registry.schema u.record = .ok schema ∧ schema.table = some table ∧
      f.registry.abbreviation u.record = .ok n ∧
      (u.assignments.mapM fun a => assignmentPieces (expandWith depth) f u.record schema a.1 a.2) =
        .ok assignments ∧
      conditionPieces (expandWith depth) f condition = .ok restriction ∧
      ps = [Piece.word "update ", .table table (.abbreviation n), .clauseBreak, .word "set "] ++
        separated ", " assignments ++ restriction := by
  unfold updatePieces at h
  split at h
  · cases h
  · rename_i condition hcondition
    dsimp only at h
    split at h
    · cases h
    · obtain ⟨schema, hschema, h⟩ := bind_eq_ok h
      split at h
      · cases h
      · rename_i table htable
        obtain ⟨n, hn, h⟩ := bind_eq_ok h
        obtain ⟨assignments, hassignments, h⟩ := bind_eq_ok h
        obtain ⟨restriction, hrestriction, h⟩ := bind_eq_ok h
        cases h
        exact ⟨condition, schema, table, n, _, assignments, restriction, hcondition, hschema, htable, hn,
          hassignments, hrestriction, rfl⟩

/-- A delete has a table, and its restriction is written under the alias that the table is given or, where
it can be given none, under the table's own name. -/
theorem deletePieces_eq_ok {d : Delete} (h : deletePieces f d = .ok ps) :
    ∃ schema table depth restriction, f.registry.schema d.record = .ok schema ∧
      schema.table = some table ∧
      ((f.dialect.deleteTakesAlias = true ∧ conditionPieces (expandWith depth) f d.condition = .ok restriction ∧
          ∃ n, f.registry.abbreviation d.record = .ok n ∧
            ps = [Piece.word "delete from ", .table table (.abbreviation n)] ++ restriction) ∨
        (f.dialect.deleteTakesAlias = false ∧
          conditionPieces (expandWith depth) { f with unaliased := some d.record } d.condition =
            .ok restriction ∧
          ps = [Piece.word "delete from ", .ident table] ++ restriction)) := by
  obtain ⟨schema, hschema, h⟩ := bind_eq_ok h
  split at h
  · cases h
  · rename_i table htable
    split at h
    · rename_i halias
      obtain ⟨n, hn, h⟩ := bind_eq_ok h
      obtain ⟨restriction, hrestriction, h⟩ := bind_eq_ok h
      cases h
      exact ⟨schema, table, _, restriction, hschema, htable, .inl ⟨halias, hrestriction, n, hn, rfl⟩⟩
    · rename_i halias
      obtain ⟨restriction, hrestriction, h⟩ := bind_eq_ok h
      cases h
      exact ⟨schema, table, _, restriction, hschema, htable,
        .inr ⟨Bool.eq_false_iff.2 halias, hrestriction, rfl⟩⟩

end Changes

end RecordSql
