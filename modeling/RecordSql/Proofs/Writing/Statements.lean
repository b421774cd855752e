import RecordSql.Proofs.Writing.Following

/-!
# Whole statements, step by step

Expressions and selects follow their pieces, by induction over both, and so do definitions at any depth and
whole statements.

- `writes_cases`: the cases of the induction.
- `fills_writeWith`: definitions, filled in up to some depth.
- `writeStatement_writes`, `writeFreeExpr_writes`: statements and free-standing expressions.
-/

namespace RecordSql

section Expressions

variable {f : Frame} {fill : Expr → Writing Unit} {expand : Frame → Expr → Rendered}

theorem writeExprs_eq (es : List Expr) : writeExprs fill es = es.map (writeExpr fill) := by
  induction es with
  | nil => rfl
  | cons e es ih => exact congrArg (writeExpr fill e :: ·) ih

/-- An expression is written to its pieces, wherever it stands. -/
abbrev WritesExpr (fill : Expr → Writing Unit) (expand : Frame → Expr → Rendered) (e : Expr) : Prop :=
  ∀ f, Writes f .plain (writeExpr fill e) (exprPieces expand f e)

/-- One term of an order. -/
def writeTerm (fill : Expr → Writing Unit) (t : OrderTerm) : Writing Unit := do
  writeExpr fill t.expr
  write (" " ++ t.direction.text)

theorem writeOrder_eq (ts : List OrderTerm) : writeOrder fill ts = ts.map (writeTerm fill) := by
  induction ts with
  | nil => rfl
  | cons t ts ih =>
    obtain ⟨e, direction⟩ := t
    exact congrArg (writeTerm fill ⟨e, direction⟩ :: ·) ih

/-- The restriction of a select, if it has one. -/
def writeWhere (fill : Expr → Writing Unit) : Option Condition → Writing Unit
  | some c => writeCondition fill c
  | none => pure ()

/-- The groups of a select. -/
def writeGroups (fill : Expr → Writing Unit) : Option (List Expr) → Writing Unit
  | some es => do
    breakClause
    write "group by "
    writeSeparated ", " (writeExprs fill es)
  | none => pure ()

/-- The order of a select. -/
def writeSort (fill : Expr → Writing Unit) : Option (List OrderTerm) → Writing Unit
  | some ts => do
    breakClause
    write "order by "
    writeSeparated ", " (writeOrder fill ts)
  | none => pure ()

/-- A select is written clause by clause. -/
theorem writeSelect_eq (s : Select) : writeSelect fill s =
    passage false (inSelect s.record s.definitions do
      lookReadable s.record s.sources
      write "select "
      writeProjection fill s.record s.fields
      breakClause
      write "from "
      writeSeparated ", " ((s.sources.getD [s.record]).map writeSource)
      writeJoins fill s.joins
      writeWhere fill s.condition
      writeGroups fill s.groupBy
      writeSort fill s.orderBy
      writeLimit s.limit
      writeLock s.forUpdate) := by
  obtain ⟨record, names, sources, joins, condition, groupBy, orderBy, limit, forUpdate, definitions⟩ := s
  cases sources <;> cases condition <;> cases groupBy <;> cases orderBy <;> rfl

/-! ### Clauses, given their expressions -/

/-- An operand, in parentheses if it is compound. -/
theorem Writes.operand {m : Writing Unit} {x : Rendered} (h : Writes f .plain m x)
    (hnested : ∀ ps, x = .ok ps → WellNested ps) (compound : Bool) :
    Writes f .plain (writeOperand compound m) (x >>= fun ps =>
      .ok (if compound then parenthesized ps else ps)) := by
  intro w hs
  refine .passage (fun ps hps => ?_) nofun ?_
  · obtain ⟨qs, hqs, hps⟩ := bind_eq_ok hps
    cases hps
    cases compound with
    | true =>
      have front : WellNested [.word "("] := .word (by decide)
      exact front.append ((hnested qs hqs).append (.word (by decide)))
    | false => exact hnested qs hqs
  · cases compound with
    | true =>
      refine .emit (emits_word _) (.refl w) fun w₁ hw₁ => ?_
      exact .bind hw₁ (h w₁ (hw₁.stands hs)).result fun ps w₂ _ hw₂ => .emitted (emits_word _) hw₂ rfl
    | false => exact (h w hs).result

theorem writeCondition_writes (hfill : Fills fill expand) {c : Condition}
    (he : ∀ e, c = .expr e → WritesExpr fill expand e) :
    Writes f .plain (writeCondition fill c) (conditionPieces expand f c) := by
  intro w hs
  obtain ⟨expT, hlaid⟩ := hfill.laid
  have nested : ∀ ps, conditionPieces expand f c = .ok ps → WellNested ps :=
    (conditionText_matches (p := placeholders) hlaid fun e _ => exprText_matches hlaid f 0 e).nested
  -- what stands behind the keyword
  have restricted : ∀ {m x}, Writes f .plain m x → Ends w ((do breakClause; write "where "; m) w)
      (x >>= fun ps => .ok ([Piece.clauseBreak, .word "where "] ++ ps)) := fun h =>
    .emit emits_clauseBreak (.refl w) fun w₁ hw₁ => .emit (emits_word _) hw₁ fun w₂ hw₂ =>
      .last hw₂ (h w₂ (hw₂.stands hs)).result fun ps _ => rfl
  cases c with
  | expr e => exact .passage nested nofun (restricted (he e rfl f))
  | key k => exact .passage nested nofun (restricted (writeKey_writes hfill k))
  | multiKey k => exact .passage nested nofun (restricted (writeMultiKey_writes hfill k))

theorem writeWhere_writes (hfill : Fills fill expand) {c : Option Condition}
    (he : ∀ e, c = some (.expr e) → WritesExpr fill expand e) :
    Writes f .plain (writeWhere fill c) (wherePieces expand f c) := by
  cases c with
  | none => exact fun w _ => emits_nothing.ends w
  | some c => exact writeCondition_writes hfill fun e hc => he e (congrArg some hc)

theorem writeExprs_writes {separator : String} {es : List Expr}
    (he : ∀ e ∈ es, WritesExpr fill expand e) :
    Writes f .plain (writeSeparated separator (writeExprs fill es)) (exprsPieces expand f es >>= fun pss =>
      .ok (separated separator pss)) := by
  rw [writeExprs_eq, exprsPieces_eq]
  exact Writes.joined separator fun e hmem => he e hmem f

theorem writeGroups_writes {g : Option (List Expr)}
    (he : ∀ es, g = some es → ∀ e ∈ es, WritesExpr fill expand e) :
    Writes f .plain (writeGroups fill g) (groupPieces expand f g) := by
  intro w hs
  cases g with
  | none => exact emits_nothing.ends w
  | some es =>
    refine .emit emits_clauseBreak (.refl w) fun w₁ hw₁ => .emit (emits_word _) hw₁ fun w₂ hw₂ => ?_
    exact .last hw₂ (writeExprs_writes (he es rfl) w₂ (hw₂.stands hs)) fun pss _ => rfl

theorem writeSort_writes {o : Option (List OrderTerm)}
    (he : ∀ ts, o = some ts → ∀ t ∈ ts, WritesExpr fill expand t.expr) :
    Writes f .plain (writeSort fill o) (sortPieces expand f o) := by
  intro w hs
  cases o with
  | none => exact emits_nothing.ends w
  | some ts =>
    have term : ∀ t ∈ ts, Writes f .plain (writeTerm fill t) (termPieces expand f t) := fun t ht w hs =>
      .bind (.refl w) (he ts rfl t ht f w hs).result fun ps w₁ _ hw₁ => .emitted (emits_word _) hw₁ rfl
    have terms : Writes f .plain (writeSeparated ", " (writeOrder fill ts))
        (orderPieces expand f ts >>= fun pss => .ok (separated ", " pss)) := by
      rw [writeOrder_eq, orderPieces_eq]
      exact Writes.joined ", " term
    refine .emit emits_clauseBreak (.refl w) fun w₁ hw₁ => .emit (emits_word _) hw₁ fun w₂ hw₂ => ?_
    exact .last hw₂ (terms w₂ (hw₂.stands hs)) fun pss _ => rfl

theorem writeJoins_writes : ∀ {js : List Join},
    (∀ j ∈ js, WritesExpr fill expand j.condition) →
    Writes f .plain (writeJoins fill js) (joinPieces expand f js)
  | [], _, w, _ => emits_nothing.ends w
  | ⟨record, condition, kind, tableAlias⟩ :: js, he, w, hs => by
    obtain ⟨hj, hjs⟩ := List.forall_mem_cons.1 he
    refine .bind (.refl w) (writeJoined_writes record kind tableAlias w hs) fun table w₁ _ hw₁ => ?_
    refine .bind hw₁ (hj f w₁ (hw₁.stands hs)).result fun on w₂ _ hw₂ => ?_
    exact .last hw₂ (writeJoins_writes hjs w₂ (hw₂.stands hs)).result fun ps _ => rfl

theorem writeSources_writes (record : RecordType) (sources : Option (List RecordType)) :
    Writes f .plain (writeSeparated ", " ((sources.getD [record]).map writeSource))
      (sourcePieces f record sources) :=
  Writes.separated ", " fun r _ => writeSource_writes r

theorem Ends.readable {w₀ w : Writer} {qs : List Piece} {k : Unit → Writing Unit} {x : Rendered} {s : Select}
    (hw : w₀.Continues qs w) (hf : w.frame = f) (hk : Ends w₀ (k () w) x) :
    Ends w₀ ((lookReadable s.record s.sources >>= k) w) (f.readable s >>= fun _ => x) := by
  unfold lookReadable Frame.readable
  cases s.sources.isNone with
  | true =>
    have discarded : (discard (f.registry.tableOf s.record) >>= fun _ => x) =
        f.registry.tableOf s.record >>= fun _ => x := by
      cases f.registry.tableOf s.record <;> rfl
    rw [if_pos rfl, if_pos rfl, bind_assoc, discarded]
    exact .look hw hf fun _ _ => hk
  | false => exact hk

theorem writeSelect_writes (hfill : Fills fill expand) {s : Select}
    (hjoins : ∀ j ∈ s.joins, WritesExpr fill expand j.condition)
    (hcondition : ∀ e, s.condition = some (.expr e) → WritesExpr fill expand e)
    (hgroups : ∀ es, s.groupBy = some es → ∀ e ∈ es, WritesExpr fill expand e)
    (horder : ∀ ts, s.orderBy = some ts → ∀ t ∈ ts, WritesExpr fill expand t.expr) :
    Writes f .plain (writeSelect fill s) (selectPieces expand f s) := by
  intro w hs
  obtain ⟨expT, hlaid⟩ := hfill.laid
  rw [writeSelect_eq]
  refine .passage (selectText_matches hlaid f 0 s).nested nofun (.inSelect ?_)
  rw [selectPieces_eq]
  have hs' : { w with selects := (s.record, s.definitions) :: w.selects }.Stands (f.enter s) .plain := by
    rw [← hs.frame]
    exact ⟨rfl, hs.overrides, hs.aliasing⟩
  generalize { w with selects := (s.record, s.definitions) :: w.selects } = w' at hs'
  rw [show f.readable s = (f.enter s).readable s from rfl]
  refine .readable (.refl w') hs'.frame (.emit (emits_word _) (.refl w') fun w₁ hw₁ => ?_)
  refine .bind hw₁ (writeProjection_writes hfill _ _ w₁ (hw₁.stands hs')).result fun projection w₂ _ hw₂ => ?_
  refine .emit emits_clauseBreak hw₂ fun w₃ hw₃ => .emit (emits_word _) hw₃ fun w₄ hw₄ => ?_
  refine .bind hw₄ (writeSources_writes _ _ w₄ (hw₄.stands hs')).result fun tables w₅ _ hw₅ => ?_
  refine .bind hw₅ (writeJoins_writes hjoins w₅ (hw₅.stands hs')).result fun joined w₆ _ hw₆ => ?_
  refine .bind hw₆ (writeWhere_writes hfill hcondition w₆ (hw₆.stands hs')).result
    fun condition w₇ _ hw₇ => ?_
  refine .bind hw₇ (writeGroups_writes hgroups w₇ (hw₇.stands hs')).result fun groups w₈ _ hw₈ => ?_
  refine .bind hw₈ (writeSort_writes horder w₈ (hw₈.stands hs')).result fun order w₉ _ hw₉ => ?_
  exact .emitted ((emits_limit s.limit).seq (emits_lock s.forUpdate)) hw₉ (by simp)

/-- The cases of the induction. -/
theorem writes_cases (hfill : Fills fill expand) :
    ExprCases (WritesExpr fill expand) fun s =>
      ∀ f, Writes f .plain (writeSelect fill s) (selectPieces expand f s) := by
  obtain ⟨expT, hlaid⟩ := hfill.laid
  -- an expression is begun with both switches off, and ends at the depth it starts at
  have entered : ∀ {e m}, (∀ f, Writes f .plain m (exprPieces expand f e)) →
      ∀ f, Writes f .plain (passage true m) (exprPieces expand f e) := fun {e m} h f w hs =>
    .passage (exprText_matches hlaid f 0 e).nested (fun _ => hs.off) (h f w hs)
  refine ⟨?column, ?literal, ?value, ?call, ?epoch, ?binary, ?junction, ?not, ?isNull, ?inList,
    ?subSelect, ?fullText, ?select⟩
  case column => exact fun c => entered fun f => writeReference_writes hfill c
  case literal => exact fun sql => entered fun f w _ => (emits_verbatim sql).ends w
  case value => exact fun v => entered fun f w _ => (emits_value v).ends w
  case call =>
    intro name args ih
    refine entered fun f w hs => ?_
    refine .emit (emits_verbatim name) (.refl w) fun w₁ hw₁ => .emit (emits_word _) hw₁ fun w₂ hw₂ => ?_
    refine .bind hw₂ (writeExprs_writes ih w₂ (hw₂.stands hs)) fun pss w₃ _ hw₃ => ?_
    exact .emitted (emits_word _) hw₃ rfl
  case epoch =>
    intro e ih
    refine entered fun f w hs => .get ?_
    have hdialect : w.options.dialect = f.dialect := congrArg Frame.dialect hs.frame
    rw [hdialect]
    refine .emit (emits_word _) (.refl w) fun w₁ hw₁ => ?_
    exact .bind hw₁ (ih f w₁ (hw₁.stands hs)).result fun ps w₂ _ hw₂ => .emitted (emits_word _) hw₂ rfl
  case binary =>
    intro op l r ihl ihr
    refine entered fun f w hs => ?_
    have operand : ∀ {e}, WritesExpr fill expand e →
        Writes f .plain (writeOperand e.isInfix (writeExpr fill e)) _ := fun {e} h =>
      (h f).operand (exprText_matches hlaid f 0 e).nested e.isInfix
    refine .bind (.refl w) (operand ihl w hs) fun left w₁ _ hw₁ => .emit (emits_word _) hw₁ fun w₂ hw₂ => ?_
    exact .last hw₂ (operand ihr w₂ (hw₂.stands hs)) fun right _ => rfl
  case junction =>
    intro op operands ih
    refine entered fun f => ?_
    rw [writeExprs_eq, List.map_map]
    show Writes f .plain _ (exprsPieces expand f operands >>= _)
    rw [exprsPieces_eq]
    refine Writes.separated _ fun a ha w hs => .emit (emits_word _) (.refl w) fun w₁ hw₁ => ?_
    exact .bind hw₁ (ih a ha f w₁ (hw₁.stands hs)).result fun ps w₂ _ hw₂ => .emitted (emits_word _) hw₂ rfl
  case not =>
    intro e ih
    refine entered fun f w hs => ?_
    refine .emit (emits_word _) (.refl w) fun w₁ hw₁ => .emit (emits_word _) hw₁ fun w₂ hw₂ => ?_
    exact .bind hw₂ (ih f w₂ (hw₂.stands hs)).result fun ps w₃ _ hw₃ => .emitted (emits_word _) hw₃ rfl
  case isNull =>
    intro c
    refine entered fun f w hs => ?_
    exact .bind (.refl w) (writeReference_writes hfill c w hs).result fun ps w₁ _ hw₁ =>
      .emitted (emits_word _) hw₁ rfl
  case inList =>
    intro c values
    refine entered fun f w hs => ?_
    refine .bind (.refl w) (writeReference_writes hfill c w hs).result fun ps w₁ _ hw₁ => ?_
    exact .emitted ((emits_word _).seq ((emits_values values).seq (emits_word _))) hw₁ (by simp)
  case subSelect =>
    intro s ih
    refine entered fun f w hs => ?_
    refine .emit emits_openSelect (.refl w) fun w₁ hw₁ => ?_
    exact .bind hw₁ (ih f w₁ (hw₁.stands hs)).result fun ps w₂ _ hw₂ => .emitted emits_closeSelect hw₂ rfl
  case fullText => exact fun record index query => entered fun f => writeFullText_writes record index query
  case select =>
    intro s _ hjoins hcondition hgroups horder f
    exact writeSelect_writes hfill hjoins hcondition hgroups horder

/-- Definitions, filled in up to some depth. -/
theorem fills_writeWith : ∀ depth, Fills (writeWith depth) (expandWith depth)
  | 0 => ⟨fun _ _ w _ => .fail (.refl w) _, _, expandsAlike_expandWith 0⟩
  | depth + 1 =>
    ⟨fun f e => (writes_cases (fills_writeWith depth)).expr e f, _, expandsAlike_expandWith (depth + 1)⟩

end Expressions

/-! ### Statements -/

section Statements

variable {f : Frame}

theorem writeSlot_writes (i : Insert) (identity : List String) (field : FieldSchema) :
    Writes f .plain (writeSlot i identity field) (insertSlot i identity field) := by
  intro w _
  unfold writeSlot insertSlot
  split
  · exact (emits_word _).ends w
  · cases i.values.value? field.name with
    | some v => exact (emits_value v).ends w
    | none => exact .fail (.refl w) _

theorem writeInsert_writes (i : Insert) : Writes f .plain (writeInsert i) (insertPieces f i) := by
  intro w hs
  refine .passage (insertText_matches (p := placeholders) i).nested nofun ?_
  refine .look (.refl w) hs.frame fun schema _ => ?_
  cases schema.table with
  | none => exact .fail (.refl w) _
  | some table =>
    have columns := Emits.separated ", " (fun c : FieldSchema => emits_ident c.columnName) schema.storedFields
    have slots := Writes.joined ", " fun field (_ : field ∈ schema.storedFields) =>
      writeSlot_writes (f := f) i (i.identityFields ++ schema.identityFields) field
    refine .emit (emits_word _) (.refl w) fun w₁ hw₁ => .emit (emits_ident _) hw₁ fun w₂ hw₂ => ?_
    refine .emit (emits_word _) hw₂ fun w₃ hw₃ => .emit columns hw₃ fun w₄ hw₄ => ?_
    refine .emit (emits_word _) hw₄ fun w₅ hw₅ => .emit emits_clauseBreak hw₅ fun w₆ hw₆ => ?_
    refine .emit (emits_word _) hw₆ fun w₇ hw₇ => .bind hw₇ (slots w₇ (hw₇.stands hs)) fun pss w₈ _ hw₈ => ?_
    exact .emitted (emits_word _) hw₈ (by simp)

theorem writeAssignment_writes {fill : Expr → Writing Unit} {expand : Frame → Expr → Rendered}
    (hfill : Fills fill expand) (record : RecordType) (schema : RecordSchema) (name : String) (e : Expr) :
    Writes f .plain (writeAssignment fill record schema name e)
      (assignmentPieces expand f record schema name e) := by
  intro w hs
  refine .look (.refl w) hs.frame fun field _ => ?_
  cases field.isComputed with
  | true => exact .fail (.refl w) _
  | false =>
    refine .emit (emits_ident _) (.refl w) fun w₁ hw₁ => .emit (emits_word _) hw₁ fun w₂ hw₂ => ?_
    exact .last hw₂ ((writes_cases hfill).expr e f w₂ (hw₂.stands hs)).result fun ps _ => rfl

theorem writeUpdate_writes (u : Update) : Writes f .plain (writeUpdate u) (updatePieces f u) := by
  intro w hs
  refine .passage (updateText_matches (p := placeholders) u).nested nofun ?_
  obtain ⟨record, assignments, condition⟩ := u
  cases condition with
  | none => exact .fail (.refl w) _
  | some condition =>
    cases assignments with
    | nil => exact .fail (.refl w) _
    | cons first rest =>
      have hfill := fills_writeWith
        (expansionDepth (exprsDefinitionCount ((first :: rest).map (·.2)) + condition.definitionCount))
      refine .look (.refl w) hs.frame fun schema _ => ?_
      cases schema.table with
      | none => exact .fail (.refl w) _
      | some table =>
        refine .look (.refl w) hs.frame fun n _ => ?_
        have assigned := Writes.joined ", " fun a (_ : a ∈ first :: rest) =>
          writeAssignment_writes (f := f) hfill record schema a.1 a.2
        refine .emit (emits_word _) (.refl w) fun w₁ hw₁ => .emit (emits_table _ _) hw₁ fun w₂ hw₂ => ?_
        refine .emit emits_clauseBreak hw₂ fun w₃ hw₃ => .emit (emits_word _) hw₃ fun w₄ hw₄ => ?_
        refine .bind hw₄ (assigned w₄ (hw₄.stands hs)) fun pss w₅ _ hw₅ => ?_
        have restricted := writeCondition_writes (f := f) hfill fun e (_ : condition = .expr e) =>
          (writes_cases hfill).expr e
        exact .last hw₅ (restricted w₅ (hw₅.stands hs)).result fun ps _ => by simp

theorem writeDelete_writes (hf : f.unaliased = none) (d : Delete) :
    Writes f .plain (writeDelete d) (deletePieces f d) := by
  intro w hs
  refine .passage (deleteText_matches (p := placeholders) d).nested nofun ?_
  have hfill := fills_writeWith (expansionDepth d.condition.definitionCount)
  have restricted : ∀ {f}, Writes f .plain (writeCondition _ d.condition) _ := fun {f} =>
    writeCondition_writes (f := f) hfill fun e _ => (writes_cases hfill).expr e
  refine .look (.refl w) hs.frame fun schema _ => ?_
  cases schema.table with
  | none => exact .fail (.refl w) _
  | some table =>
    refine .get ?_
    have hdialect : w.options.dialect = f.dialect := congrArg Frame.dialect hs.frame
    dsimp only
    rw [hdialect]
    cases f.dialect.deleteTakesAlias with
    | true =>
      refine .look (.refl w) hs.frame fun n _ => ?_
      refine .emit (emits_word _) (.refl w) fun w₁ hw₁ => .emit (emits_table _ _) hw₁ fun w₂ hw₂ => ?_
      exact .last hw₂ (restricted w₂ (hw₂.stands hs)).result fun ps _ => rfl
    | false =>
      refine .emit (emits_word _) (.refl w) fun w₁ hw₁ => .emit (emits_ident _) hw₁ fun w₂ hw₂ => ?_
      have hs₂ := hw₂.stands hs
      have hnone : w₂.unaliased = none := (congrArg Frame.unaliased hs₂.frame).trans hf
      have hs' : { w₂ with unaliased := some d.record }.Stands
          { f with unaliased := some d.record } .plain := by
        rw [← hs₂.frame]
        exact ⟨rfl, hs₂.overrides, hs₂.aliasing⟩
      exact .last hw₂ (Ends.withoutAlias hnone (restricted _ hs')).result fun ps _ => rfl

theorem Writer.start_stands (options : Options) (g : Registry) :
    (Writer.start options g).Stands { dialect := options.dialect, registry := g } .plain :=
  ⟨rfl, rfl, rfl⟩

theorem writeStatement_writes (options : Options) (g : Registry) (s : Statement) :
    Ends (.start options g) (writeStatement s (.start options g)) (statementPieces options.dialect g s) := by
  have hs := Writer.start_stands options g
  cases s with
  | select s => exact (writes_cases (fills_writeWith _)).select s _ _ hs
  | insert i => exact writeInsert_writes i _ hs
  | update u => exact writeUpdate_writes u _ hs
  | delete d => exact writeDelete_writes rfl d _ hs

theorem writeFreeExpr_writes (options : Options) (g : Registry) (e : Expr) :
    Ends (.start options g) (writeFreeExpr e (.start options g)) (freeExprPieces options.dialect g e) :=
  (fills_writeWith _).writes _ e _ (Writer.start_stands options g)

end Statements

end RecordSql
