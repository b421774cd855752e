import RecordSql.Proofs.Compilation
import RecordSql.Proofs.Rendering.Laid

/-!
# Placeholders and their parameters

The placeholders of a compiled text stand for its parameters one by one: put back in their order, they
give the text that has every value where it is bound.

- `fillPlaceholders`: replaces the placeholders of a text from left to right, in one pass.
- `Piece.brought`: the texts that a piece takes from a statement or from the schemas.
- `fill_layout`: filling the layout of pieces prints their values in place.
- `compiled_aligned`: what is compiled has one placeholder for each parameter, in the order of the text.
-/

namespace RecordSql

/-- A text with its placeholders replaced by texts, the first by the first and so on. -/
def fillPlaceholders : List Char → List String → List Char
  | [], _ => []
  | '?' :: cs, t :: ts => t.toList ++ fillPlaceholders cs ts
  | c :: cs, ts => c :: fillPlaceholders cs ts

/-- The compiled text with each placeholder replaced by its parameter, printed. -/
def Compiled.fill (c : Compiled) (print : Value → String) : String :=
  String.ofList (fillPlaceholders c.sql.toList (c.parameters.map print))

/-- One placeholder for each parameter, and filling them gives the text with the values in place. -/
def Compiled.Aligned (c : Compiled) (inPlace : (Value → String) → Except Error String) : Prop :=
  c.sql.toList.count '?' = c.parameters.length ∧ ∀ print, inPlace print = .ok (c.fill print)

/-! ### Texts brought along -/

/-- The texts that a label takes from a statement. -/
def TableLabel.brought : TableLabel → List String
  | .abbreviation _ => []
  | .named name => [name]

/-- The texts that a piece takes from a statement or from the schemas, as they are written. -/
def Piece.brought : Piece → List String
  | .verbatim s => [s]
  | .ident name => [name]
  | .table name label => name :: label.brought
  | .column label name => label.brought ++ [name]
  | .word _ | .value _ | .clauseBreak | .openSelect | .closeSelect => []

/-- The texts that are written for a statement and that it, or a schema, brings along. -/
def broughtTexts (catalog : Catalog) (dialect : Dialect) (s : Statement) :
    SessionM (List String) := do
  let registry ← Registry.build catalog s.records
  verify registry s
  return (← statementPieces dialect registry s).flatMap Piece.brought

/-- The texts that are written for an expression and that it, or a schema, brings along. -/
def expressionBroughtTexts (catalog : Catalog) (dialect : Dialect) (e : Expr) :
    SessionM (List String) := do
  let registry ← Registry.build catalog e.records
  return (← freeExprPieces dialect registry e).flatMap Piece.brought

/-! ### Texts without placeholder -/

theorem doubleQuotes_noPlaceholder {cs : List Char} (h : '?' ∉ cs) :
    '?' ∉ Dialect.doubleQuotes cs := by
  induction cs with
  | nil => exact h
  | cons c cs ih =>
    rw [List.mem_cons, not_or] at h
    rw [Dialect.doubleQuotes]
    split
    · rw [List.mem_cons, List.mem_cons]
      exact fun hm => hm.elim (by decide) (Or.rec (by decide) (ih h.2))
    · rw [List.mem_cons]
      exact fun hm => hm.elim h.1 (ih h.2)

theorem quote_noPlaceholder (d : Dialect) {name : String} (h : '?' ∉ name.toList) :
    '?' ∉ (d.quote name).toList := by
  cases d with
  | mySql => exact h
  | postgreSql =>
    have hq := doubleQuotes_noPlaceholder h
    simpa [Dialect.quote] using hq

theorem abbreviationText_noPlaceholder (n : Nat) : '?' ∉ (abbreviationText n).toList := by
  intro h
  rw [abbreviationText_toList] at h
  obtain h | h := List.mem_cons.1 h
  · exact absurd h (by decide)
  · exact absurd (Nat.isDigit_of_mem_toDigits (by decide) (by decide) h) (by decide)

theorem label_noPlaceholder (d : Dialect) {label : TableLabel}
    (h : ∀ t ∈ label.brought, '?' ∉ t.toList) : '?' ∉ (label.text d).toList := by
  cases label with
  | abbreviation n => exact abbreviationText_noPlaceholder n
  | named name => exact quote_noPlaceholder d (h name List.mem_cons_self)

theorem newLine_noPlaceholder (depth : Nat) : '?' ∉ (newLine depth).toList := by
  intro h
  rw [newLine, String.toList_append, List.mem_append, String.toList_join, List.mem_flatMap] at h
  rcases h with h | ⟨t, ht, h⟩
  · revert h
    decide
  · rw [List.eq_of_mem_replicate ht] at h
    revert h
    decide

theorem clauseBreak_noPlaceholder (l : Layout) (depth : Nat) : '?' ∉ (l.clauseBreak depth).toList := by
  cases l with
  | compact => exact (by decide : '?' ∉ " ".toList)
  | pretty => exact newLine_noPlaceholder depth

theorem selectBreak_noPlaceholder (l : Layout) (depth : Nat) : '?' ∉ (l.selectBreak depth).toList := by
  cases l with
  | compact => exact (by decide : '?' ∉ "".toList)
  | pretty => exact newLine_noPlaceholder depth

theorem append_noPlaceholder {s t : String} (hs : '?' ∉ s.toList) (ht : '?' ∉ t.toList) :
    '?' ∉ (s ++ t).toList := by
  rw [String.toList_append, List.mem_append]
  exact not_or.2 ⟨hs, ht⟩

/-- A piece that binds no value is written without placeholder, unless it brings one along. -/
theorem text_noPlaceholder {print : Value → String} {d : Dialect} {l : Layout} {depth : Nat}
    {p : Piece} (hw : ∀ s, p = .word s → '?' ∉ s.toList) (hv : p.value? = none)
    (hb : ∀ t ∈ p.brought, '?' ∉ t.toList) : '?' ∉ (p.text print d l depth).toList := by
  cases p with
  | word s => exact hw s rfl
  | verbatim s => exact hb s List.mem_cons_self
  | ident name => exact quote_noPlaceholder d (hb name List.mem_cons_self)
  | table name label =>
    have hn := quote_noPlaceholder d (hb name List.mem_cons_self)
    have hl := label_noPlaceholder d fun t ht => hb t (List.mem_cons_of_mem _ ht)
    exact append_noPlaceholder (append_noPlaceholder hn (by decide)) hl
  | column label name =>
    have hl := label_noPlaceholder d fun t ht => hb t (List.mem_append_left _ ht)
    have hn := quote_noPlaceholder d (hb name (List.mem_append_right _ List.mem_cons_self))
    exact append_noPlaceholder (append_noPlaceholder hl (by decide)) hn
  | value v => exact absurd hv (by simp [Piece.value?])
  | clauseBreak => exact clauseBreak_noPlaceholder l depth
  | openSelect => exact append_noPlaceholder (by decide) (selectBreak_noPlaceholder l (depth + 1))
  | closeSelect => exact append_noPlaceholder (selectBreak_noPlaceholder l (depth - 1)) (by decide)

/-- Only bound values are written by the printer of values. -/
theorem text_congr {print print' : Value → String} {d : Dialect} {l : Layout} {depth : Nat}
    {p : Piece} (hv : p.value? = none) : p.text print d l depth = p.text print' d l depth := by
  cases p with
  | value v => exact absurd hv (by simp [Piece.value?])
  | _ => rfl

/-! ### Filling the layout of pieces -/

theorem parameters_value (v : Value) (ps : List Piece) :
    parameters (.value v :: ps) = v :: parameters ps := rfl

theorem parameters_of_none {p : Piece} (hv : p.value? = none) (ps : List Piece) :
    parameters (p :: ps) = parameters ps :=
  List.filterMap_cons_none hv

theorem fillPlaceholders_append {cs ds : List Char} {ts : List String} (h : '?' ∉ cs) :
    fillPlaceholders (cs ++ ds) ts = cs ++ fillPlaceholders ds ts := by
  induction cs with
  | nil => rfl
  | cons c cs ih =>
    rw [List.mem_cons, not_or] at h
    rw [List.cons_append, fillPlaceholders, ih h.2, List.cons_append]
    exact fun _ _ _ hc => h.1 hc.symm

/-- The keywords of well nested pieces hold no placeholder. -/
theorem WellNested.word_noPlaceholder {ps : List Piece} (h : WellNested ps) :
    ∀ p ∈ ps, ∀ s, p = .word s → '?' ∉ s.toList := by
  induction h with
  | nil => exact fun p hp => absurd hp List.not_mem_nil
  | word hs =>
    intro p hp s hps
    rw [List.mem_singleton.1 hp] at hps
    cases hps
    exact hs
  | plain hq =>
    intro p hp s hps
    rw [List.mem_singleton.1 hp] at hps
    rw [hps] at hq
    exact absurd hq Bool.false_ne_true
  | append _ _ ihp ihq => exact fun p hp => (List.mem_append.1 hp).elim (ihp p) (ihq p)
  | select _ ih =>
    intro p hp s hps
    rw [List.cons_append, List.mem_cons, List.mem_append, List.mem_singleton] at hp
    rcases hp with rfl | hp | rfl
    · cases hps
    · exact ih p hp s hps
    · cases hps

theorem placeholder_toList : "?".toList = ['?'] := by decide

section Layout

variable {d : Dialect} {l : Layout}

/-- Filling the placeholders of a layout prints the values in place, and there are as many placeholders
as values. -/
theorem fill_layout {ps : List Piece} (hw : ∀ p ∈ ps, ∀ s, p = .word s → '?' ∉ s.toList)
    (hb : ∀ p ∈ ps, ∀ t ∈ p.brought, '?' ∉ t.toList) (print : Value → String) :
    ∀ depth,
      fillPlaceholders (layoutWith (fun _ => "?") d l depth ps).toList ((parameters ps).map print) =
        (layoutWith print d l depth ps).toList := by
  induction ps with
  | nil => exact fun _ => rfl
  | cons p ps ih =>
    intro depth
    have ih := ih (fun q hq => hw q (List.mem_cons_of_mem p hq))
      (fun q hq => hb q (List.mem_cons_of_mem p hq)) (p.depthAfter depth)
    rw [layoutWith, layoutWith, String.toList_append, String.toList_append]
    cases hv : p.value? with
    | none =>
      have hp : '?' ∉ (p.text (fun _ => "?") d l depth).toList :=
        text_noPlaceholder (hw p List.mem_cons_self) hv (hb p List.mem_cons_self)
      have htext : p.text (fun _ => "?") d l depth = p.text print d l depth := text_congr hv
      rw [fillPlaceholders_append hp, htext, parameters_of_none hv, ih]
    | some v =>
      cases p with
      | value w =>
        show fillPlaceholders ("?".toList ++ _) (print w :: _) = (print w).toList ++ _
        rw [placeholder_toList, ← ih]
        rfl
      | _ => cases hv

theorem count_layout {ps : List Piece} (hw : ∀ p ∈ ps, ∀ s, p = .word s → '?' ∉ s.toList)
    (hb : ∀ p ∈ ps, ∀ t ∈ p.brought, '?' ∉ t.toList) :
    ∀ depth, (layoutWith (fun _ => "?") d l depth ps).toList.count '?' = (parameters ps).length := by
  induction ps with
  | nil => exact fun _ => rfl
  | cons p ps ih =>
    intro depth
    have ih := ih (fun q hq => hw q (List.mem_cons_of_mem p hq))
      (fun q hq => hb q (List.mem_cons_of_mem p hq)) (p.depthAfter depth)
    rw [layoutWith, String.toList_append, List.count_append, ih]
    cases hv : p.value? with
    | none =>
      have hp : '?' ∉ (p.text (fun _ => "?") d l depth).toList :=
        text_noPlaceholder (hw p List.mem_cons_self) hv (hb p List.mem_cons_self)
      rw [List.count_eq_zero_of_not_mem hp, parameters_of_none hv, Nat.zero_add]
    | some v =>
      cases p with
      | value w =>
        show "?".toList.count '?' + _ = _
        rw [placeholder_toList, parameters_value, List.length_cons, Nat.add_comm]
        rfl
      | _ => cases hv

end Layout

/-! ### Compiled texts -/

/-- Pieces whose texts bring no placeholder along compile to an aligned text. -/
theorem aligned_ofPieces {options : Options} {ps : List Piece} {inPlace : (Value → String) → Printed}
    (ht : ∀ print, LaysOut ⟨print, options.layout⟩ options.dialect 0 (inPlace print) (.ok ps))
    (hb : ∀ t ∈ ps.flatMap Piece.brought, '?' ∉ t.toList) :
    (Compiled.ofPieces options ps).Aligned inPlace := by
  have text : ∀ print, ∃ t, inPlace print = .ok t ∧
      TextOf print options.dialect options.layout 0 t ps := by
    intro print
    have hp := ht print
    cases h : inPlace print with
    | ok t =>
      rw [h] at hp
      exact ⟨t, rfl, hp⟩
    | error e =>
      rw [h] at hp
      cases hp
  obtain ⟨_, _, hps⟩ := text fun _ => ""
  have hw := hps.2.word_noPlaceholder
  have hb : ∀ p ∈ ps, ∀ t ∈ p.brought, '?' ∉ t.toList := fun p hp t htp =>
    hb t (List.mem_flatMap.2 ⟨p, hp, htp⟩)
  refine ⟨count_layout hw hb 0, fun print => ?_⟩
  obtain ⟨t, h, htext⟩ := text print
  rw [h, htext.1]
  refine congrArg _ (String.toList_injective ?_)
  rw [Compiled.fill, String.toList_ofList]
  exact (fill_layout hw hb print 0).symm

theorem writeInPlace_runIn {catalog : Catalog} {p : Printer} {dialect : Dialect} {s : Statement}
    {σ σ' : Session} {g : Registry}
    (hg : (Registry.build catalog s.records).runIn σ = (.ok g, σ')) :
    ((writeInPlace catalog p dialect s).runIn σ).1 =
      verify g s >>= fun _ => statementText p { dialect := dialect, registry := g } s := by
  rw [writeInPlace, runIn_bind, hg]
  show (SessionM.runIn (liftM (verify g s) >>= fun _ => liftM (statementText _ _ s)) σ').1 = _
  rw [runIn_liftBind]
  cases verify g s <;> rfl

theorem broughtTexts_runIn {catalog : Catalog} {dialect : Dialect} {s : Statement} {σ σ' : Session}
    {g : Registry} (hg : (Registry.build catalog s.records).runIn σ = (.ok g, σ')) :
    ((broughtTexts catalog dialect s).runIn σ).1 =
      (checkedPieces dialect g s).map (List.flatMap Piece.brought) := by
  rw [broughtTexts, runIn_bind, hg]
  show (SessionM.runIn (liftM (verify g s) >>= fun _ => liftM (statementPieces dialect g s) >>= _) σ').1 =
    (verify g s >>= fun _ => statementPieces dialect g s).map _
  rw [runIn_liftBind]
  cases verify g s with
  | error e => rfl
  | ok _ =>
    show (SessionM.runIn (liftM (statementPieces dialect g s) >>= _) σ').1 = _
    rw [runIn_liftBind, ok_bind]
    cases statementPieces dialect g s <;> rfl

theorem writeExpressionInPlace_runIn {catalog : Catalog} {p : Printer} {dialect : Dialect} {e : Expr}
    {σ σ' : Session} {g : Registry}
    (hg : (Registry.build catalog e.records).runIn σ = (.ok g, σ')) :
    ((writeExpressionInPlace catalog p dialect e).runIn σ).1 =
      freeExprText p { dialect := dialect, registry := g } e := by
  rw [writeExpressionInPlace, runIn_bind, hg]
  rfl

theorem expressionBroughtTexts_runIn {catalog : Catalog} {dialect : Dialect} {e : Expr}
    {σ σ' : Session} {g : Registry}
    (hg : (Registry.build catalog e.records).runIn σ = (.ok g, σ')) :
    ((expressionBroughtTexts catalog dialect e).runIn σ).1 =
      (freeExprPieces dialect g e).map (List.flatMap Piece.brought) := by
  rw [expressionBroughtTexts, runIn_bind, hg]
  show (SessionM.runIn (liftM (freeExprPieces dialect g e) >>= _) σ').1 = _
  rw [runIn_liftBind]
  cases freeExprPieces dialect g e <;> rfl

/-- A statement compiles to as many placeholders as parameters, which stand in the order of the text:
filling the placeholders gives the statement with its values in place. The same holds of a free-standing
expression. -/
theorem compiled_aligned (catalog : Catalog) (options : Options) (σ : Session) :
    (∀ s c, ((compile catalog options s).runIn σ).1 = .ok c →
      (∀ texts, ((broughtTexts catalog options.dialect s).runIn σ).1 = .ok texts →
        ∀ t ∈ texts, '?' ∉ t.toList) →
      c.Aligned fun print =>
        ((writeInPlace catalog ⟨print, options.layout⟩ options.dialect s).runIn σ).1) ∧
    (∀ e c, ((compileExpression catalog options e).runIn σ).1 = .ok c →
      (∀ texts, ((expressionBroughtTexts catalog options.dialect e).runIn σ).1 = .ok texts →
        ∀ t ∈ texts, '?' ∉ t.toList) →
      c.Aligned fun print =>
        ((writeExpressionInPlace catalog ⟨print, options.layout⟩ options.dialect e).runIn σ).1) := by
  constructor
  · intro s c hc hb
    obtain ⟨g, σ', ps, hg, hv, hs, rfl⟩ := compile_ok hc
    rw [broughtTexts_runIn hg, checkedPieces, hv, ok_bind, hs] at hb
    refine aligned_ofPieces (fun print => ?_) (hb _ rfl)
    rw [writeInPlace_runIn hg, hv, ok_bind, ← hs]
    exact statementText_matches options.dialect g s
  · intro e c hc hb
    obtain ⟨g, σ', ps, hg, hs, rfl⟩ := compileExpression_ok hc
    rw [expressionBroughtTexts_runIn hg, hs] at hb
    refine aligned_ofPieces (fun print => ?_) (hb _ rfl)
    rw [writeExpressionInPlace_runIn hg, ← hs]
    exact freeExprText_matches options.dialect g e

/-- Books of some numbers that cost more than ten, each page at a price of three. -/
def dearBooks : Select where
  record := book
  fields := ["id", "price"]
  condition := some (.expr (.junction .and
    [.binary .gt (.column (.of book "price")) (.value (.integer 10)),
      .inList (.of book "id") [.integer 1, .integer 2]]))
  limit := some { offset := 0, count := 20 }
  definitions :=
    [⟨"price", .binary .mul (.column (.of book "pages")) (.value (.integer 3)), .definition⟩]

/-- The length of a text that looks like a placeholder, compared with the pages of a book. -/
def pagesOfText : Expr :=
  .binary .eq (.column (.of book "pages")) (.call "length" [.value (.string "?")])

/-- The value of a definition is bound wherever the definition is used. -/
theorem dearBooks_aligned :
    (∃ c, ((compile {} { dialect := .postgreSql } (.select dearBooks)).runIn library).1 = .ok c ∧
      c.sql = "select t0.\"id\", t0.\"page_count\" * ? as \"price\" from \"books\" as t0 " ++
        "where (t0.\"page_count\" * ? > ?) and (t0.\"id\" in (?, ?)) limit ? offset ?" ∧
      (∀ texts, ((broughtTexts {} .postgreSql (.select dearBooks)).runIn library).1 = .ok texts →
        ∀ t ∈ texts, '?' ∉ t.toList) ∧
      c.Aligned fun print =>
        ((writeInPlace {} ⟨print, .compact⟩ .postgreSql (.select dearBooks)).runIn library).1) ∧
    ∃ c, ((compileExpression {} {} pagesOfText).runIn library).1 = .ok c ∧
      (∀ texts, ((expressionBroughtTexts {} .mySql pagesOfText).runIn library).1 = .ok texts →
        ∀ t ∈ texts, '?' ∉ t.toList) ∧
      c.Aligned fun print =>
        ((writeExpressionInPlace {} ⟨print, .compact⟩ .mySql pagesOfText).runIn library).1 := by
  have hs : (Registry.build {} (Statement.select dearBooks).records).runIn library =
      (.ok bookRegistry, library) :=
    build_library {} [book, book, book] (by decide)
  have he : (Registry.build {} pagesOfText.records).runIn library = (.ok bookRegistry, library) :=
    build_library {} [] (by decide)
  constructor
  · obtain ⟨c, hc, hsql⟩ : ∃ c,
        ((compile {} { dialect := .postgreSql } (.select dearBooks)).runIn library).1 = .ok c ∧
        c.sql = "select t0.\"id\", t0.\"page_count\" * ? as \"price\" from \"books\" as t0 " ++
          "where (t0.\"page_count\" * ? > ?) and (t0.\"id\" in (?, ?)) limit ? offset ?" := by
      rw [compile_runIn, hs]
      exact ⟨_, rfl, by decide +kernel⟩
    have hb : ∀ texts,
        ((broughtTexts {} .postgreSql (.select dearBooks)).runIn library).1 = .ok texts →
        ∀ t ∈ texts, '?' ∉ t.toList := by
      intro texts ht
      rw [broughtTexts_runIn hs] at ht
      cases ht
      decide
    exact ⟨c, hc, hsql, hb, (compiled_aligned {} { dialect := .postgreSql } library).1 _ _ hc hb⟩
  · obtain ⟨c, hc⟩ : ∃ c, ((compileExpression {} {} pagesOfText).runIn library).1 = .ok c := by
      rw [compileExpression_runIn, he]
      exact ⟨_, rfl⟩
    have hb : ∀ texts, ((expressionBroughtTexts {} .mySql pagesOfText).runIn library).1 = .ok texts →
        ∀ t ∈ texts, '?' ∉ t.toList := by
      intro texts ht
      rw [expressionBroughtTexts_runIn he] at ht
      cases ht
      decide
    exact ⟨c, hc, hb, (compiled_aligned {} {} library).2 _ _ hc hb⟩

end RecordSql
