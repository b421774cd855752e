import RecordSql.Proofs.Expression.Induction
import RecordSql.Proofs.Rendering.InPlace

/-!
# Texts with values in place are laid out pieces

The text of each part, with its values in place, is the layout of the pieces of the same part, the same
values printed for them; and the pieces are well nested. Both fail alike.

- `exprText_matches`, `selectText_matches`: expressions and selects, by induction over both.
- `statementText_matches`, `freeExprText_matches`: statements and free-standing expressions.
-/

namespace RecordSql

/-- A text in `depth` sub-selects and pieces that it lays out, or two equal failures. -/
abbrev LaysOut (p : Printer) (dialect : Dialect) (depth : Nat) : Printed → Rendered → Prop :=
  Matches .same (TextOf p.print dialect p.layout depth)

/-- Lists of texts and the pieces that they lay out item by item. -/
abbrev LaysOutAll (p : Printer) (dialect : Dialect) (depth : Nat) :
    Except Error (List String) → Except Error (List (List Piece)) → Prop :=
  Matches .same (List.Forall₂ (TextOf p.print dialect p.layout depth))

/-- A text and the single piece that it lays out. -/
abbrev LaysOutPiece (p : Printer) (dialect : Dialect) (depth : Nat) :
    Except Error String → Except Error Piece → Prop :=
  Matches .same fun t q => TextOf p.print dialect p.layout depth t [q]

/-- Question marks for all values, in one line. -/
def placeholders : Printer :=
  ⟨fun _ => "?", .compact⟩

/-- Laid out pieces are well nested. -/
theorem LaysOut.nested {p : Printer} {dialect : Dialect} {t : Printed} {x : Rendered}
    (h : LaysOut p dialect 0 t x) : ∀ ps, x = .ok ps → WellNested ps := by
  rintro ps rfl
  cases t with
  | ok t => exact h.2
  | error e => exact nomatch h

/-- What stands for a definition lays out the pieces of it, wherever it is. -/
def ExpandsAlike (p : Printer) (expandText : Frame → Nat → Expr → Printed)
    (expand : Frame → Expr → Rendered) : Prop :=
  ∀ f depth e, LaysOut p f.dialect depth (expandText f depth e) (expand f e)

section Parts

variable {p : Printer} {expT : Frame → Nat → Expr → Printed} {exp : Frame → Expr → Rendered}
  {f : Frame} {depth : Nat}

theorem textOf_value (v : Value) :
    TextOf p.print f.dialect p.layout depth (p.print v) [.value v] :=
  TextOf.plain (p := .value v) rfl

theorem textOf_ident (n : String) :
    TextOf p.print f.dialect p.layout depth (f.dialect.quote n) [.ident n] :=
  TextOf.plain (p := .ident n) rfl

theorem textOf_column (label : TableLabel) (n : String) :
    TextOf p.print f.dialect p.layout depth (label.text f.dialect ++ "." ++ f.dialect.quote n)
      [.column label n] :=
  TextOf.plain (p := .column label n) rfl

theorem textOf_table (n : String) (label : TableLabel) :
    TextOf p.print f.dialect p.layout depth (f.dialect.quote n ++ " as " ++ label.text f.dialect)
      [.table n label] :=
  TextOf.plain (p := .table n label) rfl

theorem textOf_clauseBreak :
    TextOf p.print f.dialect p.layout depth (p.layout.clauseBreak depth) [.clauseBreak] :=
  TextOf.plain (p := .clauseBreak) rfl

theorem textOf_alias (use : ColumnUse) (field : String) :
    TextOf p.print f.dialect p.layout depth (aliasText f use field) (fieldAlias use field) := by
  unfold aliasText fieldAlias
  exact .ite (fun _ => (TextOf.word (by decide)).cons (textOf_ident field)) fun _ => .nil

theorem textOf_parenthesized {t : String} {ps : List Piece}
    (h : TextOf p.print f.dialect p.layout depth t ps) :
    TextOf p.print f.dialect p.layout depth (parenthesizedText t) (parenthesized ps) :=
  ((TextOf.word (by decide)).cons h).append (.word (by decide))

theorem textOf_values (values : List Value) :
    TextOf p.print f.dialect p.layout depth (valuesText p values) (valueList values) := by
  refine TextOf.separated (by decide) ?_
  rw [List.forall₂_map_left_iff, List.forall₂_map_right_iff]
  exact List.forall₂_same.2 fun v _ => textOf_value v

/-! ### References, keys and full text -/

theorem referenceText_matches (hexp : ExpandsAlike p expT exp) (use : ColumnUse) (c : FieldRef) :
    LaysOut p f.dialect depth (referenceText expT f depth use c) (referencePieces exp f use c) := by
  rw [referencePieces_eq]
  refine Matches.bindSame fun r _ => ?_
  cases r with
  | name n => exact textOf_ident n
  | definition d =>
    exact (hexp f depth d.expr).bind fun t ps h => h.append (textOf_alias use c.field)
  | literal sql => exact TextOf.cons (TextOf.plain (p := .verbatim sql) rfl) (textOf_alias use c.field)
  | column label n => exact textOf_column label n

theorem componentText_matches (hexp : ExpandsAlike p expT exp) (record : RecordType)
    (field : String) (v : Value) :
    LaysOut p f.dialect depth (componentText p expT f depth record field v)
      (componentPieces exp f record field v) := by
  refine (referenceText_matches hexp .key _).bind fun t ps h => h.append ?_
  exact .ite (fun _ => .word (by decide)) fun _ => (TextOf.word (by decide)).cons (textOf_value v)

theorem componentTexts_matches (hexp : ExpandsAlike p expT exp) (record : RecordType)
    (components : List (String × Value)) :
    LaysOutAll p f.dialect depth
      (components.mapM fun c => componentText p expT f depth record c.1 c.2)
      (componentsPieces exp f record components) :=
  Matches.mapM fun c _ => componentText_matches hexp record c.1 c.2

theorem keyText_matches (hexp : ExpandsAlike p expT exp) (k : Key) :
    LaysOut p f.dialect depth (keyText p expT f depth k) (keyPieces exp f k) := by
  refine Matches.bindSame fun schema _ => Matches.bindSame fun values _ => ?_
  exact (componentTexts_matches hexp _ _).bind fun ts pss h => TextOf.separated (by decide) h

theorem multiKeyText_matches (hexp : ExpandsAlike p expT exp) (k : MultiKey) :
    LaysOut p f.dialect depth (multiKeyText p expT f depth k) (multiKeyPieces exp f k) := by
  refine Matches.bindSame fun schema _ => Matches.bindSame fun values _ => ?_
  refine (componentTexts_matches hexp _ _).bind fun ts pss h => ?_
  refine (referenceText_matches hexp .key _).bind fun t ps hc => ?_
  refine TextOf.separated (by decide) (List.rel_append h (.cons ?_ .nil))
  exact (hc.append ((TextOf.word (by decide)).cons (textOf_values k.values))).append
    (.word (by decide))

theorem indexText_matches (schema : RecordSchema) (t : RecordType) (fields : List String) :
    LaysOutAll p f.dialect depth (indexText f schema t fields) (indexPieces f schema t fields) :=
  Matches.mapM fun _ _ => Matches.bindSame fun label _ => Matches.bindSame fun field _ =>
    textOf_column label field.columnName

/-- What the dialects write in different ways is laid out if each of them lays it out. -/
theorem laysOut_dialects {dialect d : Dialect} {l l' : Printed} {ps ps' : Rendered}
    (hmySql : LaysOut p dialect depth l ps) (hpostgreSql : LaysOut p dialect depth l' ps') :
    LaysOut p dialect depth (match d with | .mySql => l | .postgreSql => l')
      (match d with | .mySql => ps | .postgreSql => ps') := by
  cases d with
  | mySql => exact hmySql
  | postgreSql => exact hpostgreSql

theorem fullTextText_matches (record : RecordType) (index query : String) :
    LaysOut p f.dialect depth (fullTextText p f record index query)
      (fullTextPieces f record index query) := by
  refine Matches.bindSame fun schema _ => ?_
  cases schema.fullTextIndex? index with
  | none => exact rfl
  | some i =>
    refine Matches.bindSame fun t _ => ?_
    have hq : TextOf p.print f.dialect p.layout depth _ _ := textOf_value (.string query)
    have hi : LaysOutAll p f.dialect depth _ _ := indexText_matches schema t i.fields
    refine laysOut_dialects ?_ ?_
    · refine hi.bind fun ts pss h => ?_
      exact ((TextOf.word (by decide)).cons (.separated (by decide) h)).append
        ((TextOf.word (by decide)).cons (hq.cons (.word (by decide))))
    · refine Matches.bindSame fun label _ => ?_
      exact (textOf_column label _).cons
        ((TextOf.word (by decide)).cons (hq.cons (.word (by decide))))

/-! ### Clauses of a select -/

theorem projectionText_matches (hexp : ExpandsAlike p expT exp) (record : RecordType)
    (names : List String) :
    LaysOut p f.dialect depth (projectionText expT f depth record names)
      (projectionPieces exp f record names) := by
  refine Matches.bindSame fun schema _ => Matches.bindSame fun fields _ => ?_
  refine (Matches.mapM fun field _ => referenceText_matches hexp .projection _).bind
    fun ts pss h => TextOf.separated (by decide) h

theorem tableText_matches (r : RecordType) :
    LaysOutPiece p f.dialect depth (tableText f r) (f.tablePiece r) :=
  Matches.bindSame fun _ _ => Matches.bindSame fun name _ => Matches.bindSame fun n _ =>
    textOf_table name (.abbreviation n)

theorem sourceText_matches (record : RecordType) (sources : Option (List RecordType)) :
    LaysOut p f.dialect depth (sourceText f record sources) (sourcePieces f record sources) := by
  have tables : ∀ r, LaysOutPiece p f.dialect depth _ _ := tableText_matches
  refine (Matches.mapM fun r _ => tables r).bind fun ts qs h => ?_
  refine TextOf.separated (by decide) ?_
  rwa [List.forall₂_map_right_iff]

theorem joinTableText_matches (record : RecordType) (tableAlias : Option String) :
    LaysOutPiece p f.dialect depth (joinTableText f record tableAlias)
      (joinTable f record tableAlias) := by
  refine Matches.bindSame fun _ _ => Matches.bindSame fun name _ => ?_
  cases tableAlias with
  | some a => exact textOf_table name (.named a)
  | none => exact Matches.bindSame fun n _ => textOf_table name (.abbreviation n)

theorem textOf_limit (limit : Option Limit) :
    TextOf p.print f.dialect p.layout depth (limitText p depth limit) (limitPieces limit) := by
  cases limit with
  | none => exact .nil
  | some l =>
    exact textOf_clauseBreak.cons ((TextOf.word (by decide)).cons ((textOf_value _).cons
      ((TextOf.word (by decide)).cons (textOf_value _))))

theorem textOf_lock (forUpdate : Bool) :
    TextOf p.print f.dialect p.layout depth (lockText p depth forUpdate) (lockPieces forUpdate) := by
  exact .ite (fun _ => textOf_clauseBreak.cons (.word (by decide))) fun _ => .nil

end Parts

/-! ### Expressions and selects -/

section Expressions

variable {p : Printer} {expT : Frame → Nat → Expr → Printed} {exp : Frame → Expr → Rendered}

theorem exprTexts_eq (f : Frame) (depth : Nat) (es : List Expr) :
    exprTexts p expT f depth es = es.mapM (exprText p expT f depth) := by
  induction es with
  | nil => rfl
  | cons e es ih =>
    rw [List.mapM_cons, ← ih]
    rfl

/-- The text of one term of an order. -/
def termText (p : Printer) (expT : Frame → Nat → Expr → Printed) (f : Frame) (depth : Nat)
    (t : OrderTerm) : Printed := do
  return (← exprText p expT f depth t.expr) ++ (" " ++ t.direction.text)

theorem termTexts_eq (f : Frame) (depth : Nat) (ts : List OrderTerm) :
    termTexts p expT f depth ts = ts.mapM (termText p expT f depth) := by
  induction ts with
  | nil => rfl
  | cons t ts ih =>
    obtain ⟨e, direction⟩ := t
    rw [List.mapM_cons, ← ih, termText, bind_assoc]
    rfl

/-- The text of one join. -/
def onText (p : Printer) (expT : Frame → Nat → Expr → Printed) (f : Frame) (depth : Nat)
    (j : Join) : Printed := do
  let table ← joinTableText f j.record j.tableAlias
  let on ← exprText p expT f depth j.condition
  return p.layout.clauseBreak depth ++ (j.kind.text ++ " " ++ (table ++ " on ")) ++ on

theorem joinText_cons (f : Frame) (depth : Nat) (j : Join) (js : List Join) :
    joinText p expT f depth (j :: js) = (do
      let on ← onText p expT f depth j
      return on ++ (← joinText p expT f depth js)) := by
  obtain ⟨record, condition, kind, tableAlias⟩ := j
  rw [onText, bind_assoc]
  refine congrArg _ (funext fun table => ?_)
  rw [bind_assoc]
  rfl

theorem joinPieces_cons (f : Frame) (j : Join) (js : List Join) :
    joinPieces exp f (j :: js) = (do
      let on ← onePieces exp f j
      return on ++ (← joinPieces exp f js)) := by
  obtain ⟨record, condition, kind, tableAlias⟩ := j
  rw [onePieces, bind_assoc]
  refine congrArg _ (funext fun table => ?_)
  rw [bind_assoc]
  rfl

/-- The restriction of a select, if it has one. -/
def whereText (p : Printer) (expT : Frame → Nat → Expr → Printed) (f : Frame) (depth : Nat) :
    Option Condition → Printed
  | some c => conditionText p expT f depth c
  | none => .ok ""

/-- The groups of a select. -/
def groupText (p : Printer) (expT : Frame → Nat → Expr → Printed) (f : Frame) (depth : Nat) :
    Option (List Expr) → Printed
  | some es => do
    return p.layout.clauseBreak depth ++
      ("group by " ++ ", ".intercalate (← exprTexts p expT f depth es))
  | none => .ok ""

/-- The order of a select. -/
def sortText (p : Printer) (expT : Frame → Nat → Expr → Printed) (f : Frame) (depth : Nat) :
    Option (List OrderTerm) → Printed
  | some ts => do
    return p.layout.clauseBreak depth ++
      ("order by " ++ ", ".intercalate (← termTexts p expT f depth ts))
  | none => .ok ""

theorem selectText_eq (f : Frame) (depth : Nat) (s : Select) :
    selectText p expT f depth s = (do
      f.readable s
      let projection ← projectionText expT (f.enter s) depth s.record s.fields
      let tables ← sourceText (f.enter s) s.record s.sources
      let joined ← joinText p expT (f.enter s) depth s.joins
      let condition ← whereText p expT (f.enter s) depth s.condition
      let groups ← groupText p expT (f.enter s) depth s.groupBy
      let order ← sortText p expT (f.enter s) depth s.orderBy
      return "select " ++ projection ++ (p.layout.clauseBreak depth ++ "from ") ++ tables ++ joined ++
        condition ++ groups ++ order ++ limitText p depth s.limit ++
        lockText p depth s.forUpdate) := by
  obtain ⟨record, names, sources, joins, condition, groupBy, orderBy, limit, forUpdate, definitions⟩ := s
  cases sources <;> cases condition <;> cases groupBy <;> cases orderBy <;>
    simp only [whereText, groupText, sortText, bind_assoc] <;> rfl

theorem operator_text_plain (op : Operator) : '?' ∉ (" " ++ op.text ++ " ").toList := by
  cases op <;> decide

theorem junction_text_plain (op : Junction) : '?' ∉ (" " ++ op.text ++ " ").toList := by
  cases op <;> decide

theorem epochWord_plain (d : Dialect) : '?' ∉ (epochWord d).toList := by
  cases d <;> decide

theorem joinKind_text_plain (k : JoinKind) : '?' ∉ (k.text ++ " ").toList := by
  cases k <;> decide

theorem direction_text_plain (d : Direction) : '?' ∉ (" " ++ d.text).toList := by
  cases d <;> decide

/-! ### Clauses, given their expressions -/

theorem joinsText_matches {f : Frame} {depth : Nat} : ∀ {js : List Join},
    (∀ j ∈ js, LaysOut p f.dialect depth (exprText p expT f depth j.condition)
      (exprPieces exp f j.condition)) →
    LaysOut p f.dialect depth (joinText p expT f depth js) (joinPieces exp f js)
  | [], _ => TextOf.nil
  | j :: js, h => by
    rw [joinText_cons, joinPieces_cons]
    have one : LaysOut p f.dialect depth (onText p expT f depth j) (onePieces exp f j) := by
      have table : LaysOutPiece p f.dialect depth _ _ := joinTableText_matches j.record j.tableAlias
      refine table.bind fun t q ht => ?_
      refine (h j List.mem_cons_self).bind fun u qs hu => ?_
      exact (textOf_clauseBreak.cons ((TextOf.word (joinKind_text_plain j.kind)).cons
        (ht.cons (.word (by decide))))).append hu
    refine one.bind fun t ps ht => ?_
    exact (joinsText_matches fun k hk => h k (List.mem_cons_of_mem j hk)).bind
      fun u qs hu => ht.append hu

theorem textOf_where {f : Frame} {depth : Nat} {t : String} {ps : List Piece}
    (h : TextOf p.print f.dialect p.layout depth t ps) :
    TextOf p.print f.dialect p.layout depth (p.layout.clauseBreak depth ++ "where " ++ t)
      ([Piece.clauseBreak, .word "where "] ++ ps) :=
  (textOf_clauseBreak.cons (.word (by decide))).append h

theorem conditionText_matches {f : Frame} {depth : Nat} (hexp : ExpandsAlike p expT exp) :
    ∀ {c : Condition}, (∀ e, c = .expr e →
        LaysOut p f.dialect depth (exprText p expT f depth e) (exprPieces exp f e)) →
      LaysOut p f.dialect depth (conditionText p expT f depth c) (conditionPieces exp f c)
  | .expr e, h => (h e rfl).bind fun _ _ ht => textOf_where ht
  | .key k, _ => (keyText_matches hexp k).bind fun _ _ ht => textOf_where ht
  | .multiKey k, _ => (multiKeyText_matches hexp k).bind fun _ _ ht => textOf_where ht

theorem whereText_matches {f : Frame} {depth : Nat} (hexp : ExpandsAlike p expT exp) :
    ∀ {c : Option Condition}, (∀ e, c = some (.expr e) →
        LaysOut p f.dialect depth (exprText p expT f depth e) (exprPieces exp f e)) →
      LaysOut p f.dialect depth (whereText p expT f depth c) (wherePieces exp f c)
  | none, _ => TextOf.nil
  | some _, h => conditionText_matches hexp fun e he => h e (congrArg some he)

theorem groupText_matches {f : Frame} {depth : Nat} : ∀ {g : Option (List Expr)},
    (∀ es, g = some es → ∀ e ∈ es,
      LaysOut p f.dialect depth (exprText p expT f depth e) (exprPieces exp f e)) →
    LaysOut p f.dialect depth (groupText p expT f depth g) (groupPieces exp f g)
  | none, _ => TextOf.nil
  | some es, h => by
    show LaysOut p f.dialect depth (exprTexts p expT f depth es >>= _) (exprsPieces exp f es >>= _)
    rw [exprTexts_eq, exprsPieces_eq]
    refine (Matches.mapM fun e he => h es rfl e he).bind fun ts pss ht => ?_
    exact textOf_clauseBreak.cons ((TextOf.word (by decide)).cons (.separated (by decide) ht))

theorem sortText_matches {f : Frame} {depth : Nat} : ∀ {o : Option (List OrderTerm)},
    (∀ ts, o = some ts → ∀ t ∈ ts,
      LaysOut p f.dialect depth (exprText p expT f depth t.expr) (exprPieces exp f t.expr)) →
    LaysOut p f.dialect depth (sortText p expT f depth o) (sortPieces exp f o)
  | none, _ => TextOf.nil
  | some ts, h => by
    show LaysOut p f.dialect depth (termTexts p expT f depth ts >>= _) (orderPieces exp f ts >>= _)
    rw [termTexts_eq, orderPieces_eq]
    have terms : ∀ t ∈ ts, LaysOut p f.dialect depth (termText p expT f depth t)
        (termPieces exp f t) := fun t ht =>
      (h ts rfl t ht).bind fun u ps hu => hu.append (.word (direction_text_plain t.direction))
    refine (Matches.mapM terms).bind fun us pss hu => ?_
    exact textOf_clauseBreak.cons ((TextOf.word (by decide)).cons (.separated (by decide) hu))

/-- The cases of the induction: the text of each node is put together like its pieces. -/
theorem text_cases (hexp : ExpandsAlike p expT exp) :
    ExprCases (fun e => ∀ f depth, LaysOut p f.dialect depth (exprText p expT f depth e) (exprPieces exp f e))
      (fun s => ∀ f depth, LaysOut p f.dialect depth (selectText p expT f depth s) (selectPieces exp f s)) := by
  refine ⟨?column, ?literal, ?value, ?call, ?epoch, ?binary, ?junction, ?not, ?isNull, ?inList,
    ?subSelect, ?fullText, ?select⟩
  case column => exact fun c f depth => referenceText_matches hexp .plain c
  case literal => exact fun sql f depth => TextOf.plain (p := .verbatim sql) rfl
  case value => exact fun v f depth => textOf_value v
  case call =>
    intro name args ih f depth
    show LaysOut p f.dialect depth (exprTexts p expT f depth args >>= _) (exprsPieces exp f args >>= _)
    rw [exprTexts_eq, exprsPieces_eq]
    refine (Matches.mapM fun a ha => ih a ha f depth).bind fun ts pss h => ?_
    exact (TextOf.plain (p := .verbatim name) rfl).cons
      (textOf_parenthesized (.separated (by decide) h))
  case epoch =>
    intro e ih f depth
    exact (ih f depth).bind fun t ps h =>
      ((TextOf.word (epochWord_plain f.dialect)).cons h).append (.word (by decide))
  case binary =>
    intro op l r ihl ihr f depth
    refine (ihl f depth).bind fun t ps hl => (ihr f depth).bind fun u qs hr => ?_
    have operand : ∀ {t ps} (e : Expr), TextOf p.print f.dialect p.layout depth t ps →
        TextOf p.print f.dialect p.layout depth (if e.isInfix then parenthesizedText t else t)
          (if e.isInfix then parenthesized ps else ps) :=
      fun e h => .ite (fun _ => textOf_parenthesized h) fun _ => h
    exact ((operand l hl).append (.word (operator_text_plain op))).append (operand r hr)
  case junction =>
    intro op operands ih f depth
    show LaysOut p f.dialect depth (exprTexts p expT f depth operands >>= _)
      (exprsPieces exp f operands >>= _)
    rw [exprTexts_eq, exprsPieces_eq]
    refine (Matches.mapM fun a ha => ih a ha f depth).bind fun ts pss h => ?_
    refine TextOf.separated (junction_text_plain op) ?_
    rw [List.forall₂_map_left_iff, List.forall₂_map_right_iff]
    exact h.imp fun t ps ht => textOf_parenthesized ht
  case not =>
    intro e ih f depth
    exact (ih f depth).bind fun t ps h => (TextOf.word (by decide)).cons (textOf_parenthesized h)
  case isNull =>
    intro c f depth
    exact (referenceText_matches hexp .plain c).bind fun t ps h => h.append (.word (by decide))
  case inList =>
    intro c values f depth
    exact (referenceText_matches hexp .plain c).bind fun t ps h =>
      (h.append ((TextOf.word (by decide)).cons (textOf_values values))).append (.word (by decide))
  case subSelect =>
    intro s ih f depth
    exact (ih f (depth + 1)).bind fun t ps h => h.select
  case fullText => exact fun record index query f depth => fullTextText_matches record index query
  case select =>
    intro s _ hjoins hcondition hgroupBy horderBy f depth
    rw [selectText_eq, selectPieces_eq]
    refine Matches.bindSame fun _ _ => ?_
    refine (projectionText_matches (f := f.enter s) hexp _ _).bind fun t₁ ps₁ h₁ => ?_
    have source : LaysOut p f.dialect depth _ _ := sourceText_matches (f := f.enter s) s.record s.sources
    refine source.bind fun t₂ ps₂ h₂ => ?_
    refine (joinsText_matches (fun j hj => hjoins j hj (f.enter s) depth)).bind fun t₃ ps₃ h₃ => ?_
    refine (whereText_matches hexp fun e he => hcondition e he (f.enter s) depth).bind
      fun t₄ ps₄ h₄ => ?_
    refine (groupText_matches fun es hes e he => hgroupBy es hes e he (f.enter s) depth).bind
      fun t₅ ps₅ h₅ => ?_
    refine (sortText_matches fun ts hts t ht => horderBy ts hts t ht (f.enter s) depth).bind
      fun t₆ ps₆ h₆ => ?_
    have head := ((TextOf.word (s := "select ") (by decide)).cons h₁).append
      ((textOf_clauseBreak (f := f.enter s)).cons (.word (s := "from ") (by decide)))
    exact ((((((head.append h₂).append h₃).append h₄).append h₅).append h₆).append
      (textOf_limit s.limit)).append (textOf_lock s.forUpdate)

/-- Expressions in place lay out their pieces. -/
theorem exprText_matches (hexp : ExpandsAlike p expT exp) (f : Frame) (depth : Nat) (e : Expr) :
    LaysOut p f.dialect depth (exprText p expT f depth e) (exprPieces exp f e) :=
  (text_cases hexp).expr e f depth

/-- Selects in place lay out their pieces. -/
theorem selectText_matches (hexp : ExpandsAlike p expT exp) (f : Frame) (depth : Nat) (s : Select) :
    LaysOut p f.dialect depth (selectText p expT f depth s) (selectPieces exp f s) :=
  (text_cases hexp).select s f depth

theorem expandsAlike_expandWith : ∀ n, ExpandsAlike p (expandText p n) (expandWith n)
  | 0 => fun _ _ _ => rfl
  | n + 1 => fun f depth e => exprText_matches (expandsAlike_expandWith n) f depth e

end Expressions

/-! ### Statements -/

section Statements

variable {p : Printer} {f : Frame}

theorem slotText_matches (i : Insert) (identity : List String) (field : FieldSchema) :
    LaysOut p f.dialect 0 (slotText p i identity field) (insertSlot i identity field) := by
  unfold slotText insertSlot
  split
  · exact TextOf.word (by decide)
  · cases i.values.value? field.name with
    | some v => exact textOf_value v
    | none => exact rfl

/-- The columns of some fields with their slots, as an insert writes them. -/
theorem textOf_insert (table : String) (fields : List FieldSchema) {ts : List String}
    {slots : List (List Piece)} (h : List.Forall₂ (TextOf p.print f.dialect p.layout 0) ts slots) :
    TextOf p.print f.dialect p.layout 0
      ("insert into " ++ (f.dialect.quote table ++ " (") ++
        ", ".intercalate (fields.map fun c => f.dialect.quote c.columnName) ++
        (")" ++ (p.layout.clauseBreak 0 ++ "values (")) ++ ", ".intercalate ts ++ ")")
      ([Piece.word "insert into ", .ident table, .word " ("] ++
        separated ", " (fields.map fun c => [.ident c.columnName]) ++
        [Piece.word ")", .clauseBreak, .word "values ("] ++ separated ", " slots ++ [Piece.word ")"]) := by
  have head : TextOf p.print f.dialect p.layout 0 ("insert into " ++ (f.dialect.quote table ++ " ("))
      [.word "insert into ", .ident table, .word " ("] :=
    (TextOf.word (by decide)).cons ((textOf_ident table).cons (.word (by decide)))
  have columns : TextOf p.print f.dialect p.layout 0
      (", ".intercalate (fields.map fun c => f.dialect.quote c.columnName))
      (separated ", " (fields.map fun c => [.ident c.columnName])) := by
    refine .separated (by decide) ?_
    rw [List.forall₂_map_left_iff, List.forall₂_map_right_iff]
    exact List.forall₂_same.2 fun c _ => textOf_ident c.columnName
  have middle : TextOf p.print f.dialect p.layout 0 (")" ++ (p.layout.clauseBreak 0 ++ "values ("))
      [.word ")", .clauseBreak, .word "values ("] :=
    (TextOf.word (by decide)).cons (textOf_clauseBreak.cons (.word (by decide)))
  exact (((head.append columns).append middle).append (.separated (by decide) h)).append (.word (by decide))

theorem insertText_matches (i : Insert) :
    LaysOut p f.dialect 0 (insertText p f i) (insertPieces f i) := by
  refine Matches.bindSame fun schema _ => ?_
  cases schema.table with
  | none => exact rfl
  | some table =>
    exact (Matches.mapM fun field _ => slotText_matches (f := f) i _ field).bind fun ts pss h =>
      textOf_insert table schema.storedFields h

theorem assignmentText_matches {expT : Frame → Nat → Expr → Printed} {exp : Frame → Expr → Rendered}
    (hexp : ExpandsAlike p expT exp) (record : RecordType) (schema : RecordSchema) (name : String)
    (e : Expr) :
    LaysOut p f.dialect 0 (assignmentText p f expT record schema name e)
      (assignmentPieces exp f record schema name e) := by
  refine Matches.bindSame fun field _ => ?_
  cases field.isComputed with
  | true => exact rfl
  | false =>
    exact (exprText_matches hexp f 0 e).bind fun t ps h =>
      ((textOf_ident field.columnName).cons (.word (by decide))).append h

theorem updateText_matches (u : Update) :
    LaysOut p f.dialect 0 (updateText p f u) (updatePieces f u) := by
  obtain ⟨record, assignments, condition⟩ := u
  cases condition with
  | none => exact rfl
  | some condition =>
    cases assignments with
    | nil => exact rfl
    | cons first rest =>
      refine Matches.bindSame fun schema _ => ?_
      cases schema.table with
      | none => exact rfl
      | some table =>
        refine Matches.bindSame fun n _ => ?_
        have hexp := expandsAlike_expandWith (p := p)
          (expansionDepth (exprsDefinitionCount ((first :: rest).map (·.2)) + condition.definitionCount))
        refine (Matches.mapM fun a _ => assignmentText_matches (f := f) hexp record schema a.1 a.2).bind
          fun ts pss h => ?_
        refine (conditionText_matches hexp fun e _ => exprText_matches hexp f 0 e).bind fun t ps hc => ?_
        have head : TextOf p.print f.dialect p.layout 0
            ("update " ++ (f.dialect.quote table ++ " as " ++ abbreviationText n ++
              (p.layout.clauseBreak 0 ++ "set ")))
            [.word "update ", .table table (.abbreviation n), .clauseBreak, .word "set "] :=
          (TextOf.word (by decide)).cons ((textOf_table table (.abbreviation n)).cons
            (textOf_clauseBreak.cons (.word (by decide))))
        exact (head.append (.separated (by decide) h)).append hc

theorem deleteText_matches (d : Delete) :
    LaysOut p f.dialect 0 (deleteText p f d) (deletePieces f d) := by
  refine Matches.bindSame fun schema _ => ?_
  have hexp := expandsAlike_expandWith (p := p) (expansionDepth d.condition.definitionCount)
  cases schema.table with
  | none => exact rfl
  | some table =>
    show LaysOut p f.dialect 0 (if f.dialect.deleteTakesAlias then _ else _)
      (if f.dialect.deleteTakesAlias then _ else _)
    split
    · refine Matches.bindSame fun n _ => ?_
      refine (conditionText_matches hexp fun e _ => exprText_matches hexp f 0 e).bind fun t ps h => ?_
      exact ((TextOf.word (by decide)).cons (textOf_table table (.abbreviation n))).append h
    · refine (conditionText_matches (f := { f with unaliased := some d.record }) hexp
        fun e _ => exprText_matches hexp _ 0 e).bind fun t ps h => ?_
      exact ((TextOf.word (by decide)).cons (textOf_ident table)).append h

/-- Statements in place lay out their pieces. -/
theorem statementText_matches (dialect : Dialect) (g : Registry) (s : Statement) :
    LaysOut p dialect 0 (statementText p { dialect := dialect, registry := g } s)
      (statementPieces dialect g s) := by
  cases s with
  | select s => exact selectText_matches (expandsAlike_expandWith _) _ 0 s
  | insert i => exact insertText_matches i
  | update u => exact updateText_matches u
  | delete d => exact deleteText_matches d

/-- Free-standing expressions in place lay out their pieces. -/
theorem freeExprText_matches (dialect : Dialect) (g : Registry) (e : Expr) :
    LaysOut p dialect 0 (freeExprText p { dialect := dialect, registry := g } e)
      (freeExprPieces dialect g e) :=
  expandsAlike_expandWith _ _ 0 e

end Statements

end RecordSql
