import RecordSql.Proofs.Expression.Induction
import RecordSql.Proofs.Rendering.Twins
import RecordSql.Proofs.Session.History

/-!
# Dialects differ in spelling

A statement is written for two databases in different ways: a delete with or without alias, a full-text
match over the columns of an index or over one of its own, and a function with another name. What can go
wrong on either way is the same, and so are the values that are bound.

- `agree_cases`: the cases of the induction over expressions and selects.
- `expandsAgree_expandWith`: definitions of any depth agree.
- `statement_agrees`, `freeExpr_agrees`: statements and expressions whose records are registered.
- `dialects_agree`: compiling for either dialect.
-/

namespace RecordSql

section Expressions

variable {catalog : Catalog} {g : Registry} {f f' : Frame} {expand : Frame → Expr → Rendered}

/-- What is shown of an expression: it agrees in twin frames once its records are registered. -/
def ExprAgrees (g : Registry) (expand : Frame → Expr → Rendered) (e : Expr) : Prop :=
  ∀ f f', Frame.Twins g f f' → e.records ⊆ g.records →
    Agree (exprPieces expand f e) (exprPieces expand f' e)

/-- What is shown of a select. -/
def SelectAgrees (g : Registry) (expand : Frame → Expr → Rendered) (s : Select) : Prop :=
  ∀ f f', Frame.Twins g f f' → s.records ⊆ g.records →
    Agree (selectPieces expand f s) (selectPieces expand f' s)

/-! ### Clauses -/

theorem exprs_agree (h : Frame.Twins g f f') {es : List Expr} (ih : ∀ e ∈ es, ExprAgrees g expand e)
    (hes : ∀ e ∈ es, e.records ⊆ g.records) :
    AgreeAll (exprsPieces expand f es) (exprsPieces expand f' es) := by
  rw [exprsPieces_eq, exprsPieces_eq]
  exact agreeAll_mapM fun e he => ih e he f f' h (hes e he)

theorem condition_agrees (hg : g.Closed catalog) (h : Frame.Twins g f f')
    (hexp : ExpandsAgree g expand) {c : Condition} (ih : ∀ e, c = .expr e → ExprAgrees g expand e)
    (hc : c.records ⊆ g.records) : Agree (conditionPieces expand f c) (conditionPieces expand f' c) := by
  have written : Agree
      (match c with
        | .expr e => exprPieces expand f e
        | .key k => keyPieces expand f k
        | .multiKey k => multiKeyPieces expand f k)
      (match c with
        | .expr e => exprPieces expand f' e
        | .key k => keyPieces expand f' k
        | .multiKey k => multiKeyPieces expand f' k) := by
    cases c with
    | expr e => exact ih e rfl f f' h hc
    | key k => exact key_agrees hg h hexp (hc (List.mem_singleton_self _))
    | multiKey k => exact multiKey_agrees hg h hexp (hc (List.mem_singleton_self _))
  cases c <;> exact written.bind fun ps qs hpq => .ok hpq

theorem where_agrees (hg : g.Closed catalog) (h : Frame.Twins g f f')
    (hexp : ExpandsAgree g expand) {o : Option Condition}
    (ih : ∀ e, o = some (.expr e) → ExprAgrees g expand e)
    (ho : ∀ c, o = some c → c.records ⊆ g.records) :
    Agree (wherePieces expand f o) (wherePieces expand f' o) := by
  cases o with
  | none => exact .ok rfl
  | some c => exact condition_agrees hg h hexp (fun e he => ih e (congrArg some he)) (ho c rfl)

theorem join_agrees (hg : g.Closed catalog) (h : Frame.Twins g f f') {j : Join}
    (ih : ExprAgrees g expand j.condition) (hj : j.record :: j.condition.records ⊆ g.records) :
    Agree (onePieces expand f j) (onePieces expand f' j) := by
  obtain ⟨hrecord, hcondition⟩ := List.cons_subset.1 hj
  refine (joinTable_agrees hg h hrecord j.tableAlias).bind fun p q hpq => ?_
  refine (ih f f' h hcondition).bind fun ps qs hps => .ok ?_
  simp only [parameters_append, parameters_cons, hpq, hps]

theorem joins_agree (hg : g.Closed catalog) (h : Frame.Twins g f f') {js : List Join}
    (ih : ∀ j ∈ js, ExprAgrees g expand j.condition)
    (hjs : ∀ j ∈ js, j.record :: j.condition.records ⊆ g.records) :
    Agree (joinPieces expand f js) (joinPieces expand f' js) := by
  have items : AgreeAll (js.mapM (onePieces expand f)) (js.mapM (onePieces expand f')) :=
    agreeAll_mapM fun j hj => join_agrees hg h (ih j hj) (hjs j hj)
  rw [joinPieces_eq, joinPieces_eq]
  refine items.map fun pss qss hall => ?_
  rw [parameters_flatten, parameters_flatten, hall]

theorem group_agrees (h : Frame.Twins g f f') {o : Option (List Expr)}
    (ih : ∀ es, o = some es → ∀ e ∈ es, ExprAgrees g expand e)
    (ho : ∀ es, o = some es → ∀ e ∈ es, e.records ⊆ g.records) :
    Agree (groupPieces expand f o) (groupPieces expand f' o) := by
  cases o with
  | none => exact .ok rfl
  | some es =>
    refine (exprs_agree h (ih es rfl) (ho es rfl)).bind fun pss qss hall => .ok ?_
    simp only [parameters_cons, parameters_separated, hall]

theorem sort_agrees (h : Frame.Twins g f f') {o : Option (List OrderTerm)}
    (ih : ∀ ts, o = some ts → ∀ t ∈ ts, ExprAgrees g expand t.expr)
    (ho : ∀ ts, o = some ts → ∀ t ∈ ts, t.expr.records ⊆ g.records) :
    Agree (sortPieces expand f o) (sortPieces expand f' o) := by
  cases o with
  | none => exact .ok rfl
  | some ts =>
    have items : AgreeAll (orderPieces expand f ts) (orderPieces expand f' ts) := by
      rw [orderPieces_eq, orderPieces_eq]
      refine agreeAll_mapM fun t ht => ?_
      refine (ih ts rfl t ht f f' h (ho ts rfl t ht)).bind fun ps qs hpq => .ok ?_
      rw [parameters_append, parameters_append, hpq]
    refine items.bind fun pss qss hall => .ok ?_
    simp only [parameters_cons, parameters_separated, hall]

/-! ### Expressions and selects -/

/-- The cases of the induction: an expression agrees if its parts do, and a select if its clauses do. -/
theorem agree_cases (hg : g.Closed catalog) (hexp : ExpandsAgree g expand) :
    ExprCases (ExprAgrees g expand) (SelectAgrees g expand) := by
  refine ⟨?column, ?literal, ?value, ?call, ?epoch, ?binary, ?junction, ?not, ?isNull, ?inList,
    ?subSelect, ?fullText, ?select⟩
  case column =>
    intro c f f' h hc
    exact reference_agrees hg h hexp .plain hc
  case literal =>
    intro sql f f' h hc
    exact .ok rfl
  case value =>
    intro v f f' h hc
    exact .ok rfl
  case call =>
    intro name args ih f f' h hc
    have hargs : ∀ a ∈ args, a.records ⊆ g.records := fun a ha =>
      List.Subset.trans (Expr.records_operand (e := .call name args) ha) hc
    refine (exprs_agree h ih hargs).bind fun pss qss hall => .ok ?_
    simp only [parameters_cons, parameters_parenthesized, parameters_separated, hall]
  case epoch =>
    -- the functions of the dialects differ in their names
    intro e ih f f' h hc
    refine (ih f f' h hc).bind fun ps qs hpq => .ok ?_
    simp only [parameters_append, parameters_cons, hpq]
    rfl
  case binary =>
    intro op l r ihl ihr f f' h hc
    obtain ⟨hl, hr⟩ := List.append_subset.1 hc
    refine (ihl f f' h hl).bind fun ps qs hps => (ihr f f' h hr).bind fun ps' qs' hps' => .ok ?_
    have operand : ∀ (e : Expr) (ps : List Piece),
        parameters (if e.isInfix then parenthesized ps else ps) = parameters ps := by
      intro e ps
      split
      · exact parameters_parenthesized ps
      · rfl
    simp only [parameters_append, operand, hps, hps']
  case junction =>
    intro op operands ih f f' h hc
    have hoperands : ∀ a ∈ operands, a.records ⊆ g.records := fun a ha =>
      List.Subset.trans (Expr.records_operand (e := .junction op operands) ha) hc
    refine (exprs_agree h ih hoperands).bind fun pss qss hall => .ok ?_
    have grouped : ∀ pss : List (List Piece),
        (pss.map parenthesized).flatMap parameters = pss.flatMap parameters := by
      intro pss
      simp only [List.flatMap_map, parameters_parenthesized]
    rw [parameters_separated, parameters_separated, grouped, grouped, hall]
  case not =>
    intro e ih f f' h hc
    refine (ih f f' h hc).bind fun ps qs hpq => .ok ?_
    simp only [parameters_cons, parameters_parenthesized, hpq]
  case isNull =>
    intro c f f' h hc
    refine (reference_agrees hg h hexp .plain hc).bind fun ps qs hpq => .ok ?_
    rw [parameters_append, parameters_append, hpq]
  case inList =>
    intro c values f f' h hc
    refine (reference_agrees hg h hexp .plain hc).bind fun ps qs hpq => .ok ?_
    simp only [parameters_append, hpq]
  case subSelect =>
    intro s ih f f' h hc
    refine (ih f f' h hc).bind fun ps qs hpq => .ok ?_
    simp only [parameters_append, parameters_cons, hpq]
  case fullText =>
    intro record index query f f' h hc
    exact fullText_agrees hg h (hc (List.mem_singleton_self _)) index query
  case select =>
    intro s hdefinitions hjoins hcondition hgroupBy horderBy f f' h hs
    have inner : Frame.Twins g (f.enter s) (f'.enter s) := h.enter hs
    have hrecord : s.record ∈ g.records := hs s.record_mem_records
    have hreadable : f'.readable s = f.readable s ∧ Informed (f.readable s) := by
      unfold Frame.readable
      rw [h.registry, h.registry']
      refine ⟨rfl, ?_⟩
      split
      · exact (tableOf_informed hrecord).bind fun _ _ => .ok ()
      · exact .ok ()
    rw [selectPieces_eq, selectPieces_eq, hreadable.1]
    refine Accord.same hreadable.2 fun _ _ => ?_
    refine (projection_agrees hg inner hexp hrecord s.fields).bind fun ps qs hprojection => ?_
    refine (source_agrees hg inner
      (List.Subset.trans Select.records_source hs)).bind fun ts us htables => ?_
    refine (joins_agree hg inner hjoins fun j hj => List.Subset.trans (Select.records_joins hj) hs).bind
      fun js ks hjoined => ?_
    refine (where_agrees hg inner hexp hcondition
      fun c hc => List.Subset.trans (Select.records_restriction hc) hs).bind fun cs ds hwhere => ?_
    refine (group_agrees inner hgroupBy
      fun es hes e he => List.Subset.trans (Select.records_group hes he) hs).bind fun gs ws hgroups => ?_
    refine (sort_agrees inner horderBy
      fun os hos t ht => List.Subset.trans (Select.records_order hos ht) hs).bind
      fun os vs horder => .ok ?_
    simp only [parameters_append, parameters_cons, hprojection, htables, hjoined, hwhere, hgroups, horder]

theorem expr_agrees (hg : g.Closed catalog) (hexp : ExpandsAgree g expand) (h : Frame.Twins g f f')
    {e : Expr} (he : e.records ⊆ g.records) : Agree (exprPieces expand f e) (exprPieces expand f' e) :=
  (agree_cases hg hexp).expr e f f' h he

/-- Definitions that are substituted up to some depth agree in twin frames. -/
theorem expandsAgree_expandWith (hg : g.Closed catalog) (n : Nat) : ExpandsAgree g (expandWith n) := by
  induction n with
  | zero => exact fun f f' e _ _ => .error fun r h => nomatch h
  | succ n ih => exact fun f f' e h he => expr_agrees hg ih h he

end Expressions

/-! ### Statements -/

section Statements

variable {catalog : Catalog} {g : Registry}

/-- The frames of two dialects, with or without alias for a record, are twins. -/
theorem twins_dialects (g : Registry) (d d' : Dialect) (r r' : Option RecordType) :
    Frame.Twins g { dialect := d, registry := g, unaliased := r }
      { dialect := d', registry := g, unaliased := r' } :=
  ⟨rfl, rfl, rfl, List.forall_mem_nil _⟩

theorem freeExpr_agrees (hg : g.Closed catalog) (d d' : Dialect) {e : Expr}
    (he : e.records ⊆ g.records) : Agree (freeExprPieces d g e) (freeExprPieces d' g e) :=
  expandsAgree_expandWith hg _ _ _ e (twins_dialects g d d' none none) he

theorem condition_records_agree (hg : g.Closed catalog) (n : Nat) {f f' : Frame}
    (h : Frame.Twins g f f') {c : Condition} (hc : c.records ⊆ g.records) :
    Agree (conditionPieces (expandWith n) f c) (conditionPieces (expandWith n) f' c) := by
  have hexp := expandsAgree_expandWith hg n
  exact condition_agrees hg h hexp (fun e _ => (agree_cases hg hexp).expr e) hc

/-- An insert looks up the schema of its record and the values of its fields. -/
theorem insert_agrees (d d' : Dialect) {i : Insert} (hi : i.record ∈ g.records) :
    Agree (insertPieces { dialect := d, registry := g } i)
      (insertPieces { dialect := d', registry := g } i) := by
  have slots : ∀ (identity : List String) (field : FieldSchema),
      Informed (insertSlot i identity field) := by
    intro identity field
    unfold insertSlot
    split
    · exact .ok _
    · cases i.values.value? field.name with
      | some v => exact .ok _
      | none => exact fun r h => nomatch h
  have same : insertPieces { dialect := d', registry := g } i =
      insertPieces { dialect := d, registry := g } i := rfl
  have informed : Informed (insertPieces { dialect := d, registry := g } i) := by
    refine (schema_informed hi).bind fun schema _ => ?_
    cases schema.table with
    | none => exact fun r h => nomatch h
    | some table => exact (Informed.mapM fun field _ => slots _ field).bind fun _ _ => .ok _
  rw [same]
  exact (Accord.refl informed).mono fun ps qs hpq => congrArg parameters hpq

theorem assignment_agrees (hg : g.Closed catalog) (n : Nat) {f f' : Frame} (h : Frame.Twins g f f')
    (record : RecordType) (schema : RecordSchema) (name : String) {e : Expr}
    (he : e.records ⊆ g.records) :
    Agree (assignmentPieces (expandWith n) f record schema name e)
      (assignmentPieces (expandWith n) f' record schema name e) := by
  unfold assignmentPieces
  refine Accord.same (getField_informed schema name) fun field _ => ?_
  by_cases hcomputed : field.isComputed
  · simp only [hcomputed, if_true]
    exact .error fun r h => nomatch h
  · simp only [hcomputed]
    exact (expr_agrees hg (expandsAgree_expandWith hg n) h he).bind fun ps qs hpq => .ok hpq

theorem assignments_agree (hg : g.Closed catalog) (n : Nat) {f f' : Frame} (h : Frame.Twins g f f')
    (record : RecordType) (schema : RecordSchema) {assignments : List (String × Expr)}
    (ha : ∀ a ∈ assignments, a.2.records ⊆ g.records) :
    AgreeAll
      (assignments.mapM fun a => assignmentPieces (expandWith n) f record schema a.1 a.2)
      (assignments.mapM fun a => assignmentPieces (expandWith n) f' record schema a.1 a.2) :=
  agreeAll_mapM fun a hmem => assignment_agrees hg n h record schema a.1 (ha a hmem)

theorem update_agrees (hg : g.Closed catalog) (d d' : Dialect) {u : Update}
    (hu : (Statement.update u).records ⊆ g.records) :
    Agree (updatePieces { dialect := d, registry := g } u)
      (updatePieces { dialect := d', registry := g } u) := by
  have twins := twins_dialects g d d' none none
  have hrecord : u.record ∈ g.records := hu (by simp [Statement.records])
  have hassigned : ∀ a ∈ u.assignments, a.2.records ⊆ g.records := by
    intro a ha
    exact List.Subset.trans (Update.records_assignment ha) hu
  unfold updatePieces
  cases hcondition : u.condition with
  | none => exact .error (by simp)
  | some condition =>
    have hrestricted : condition.records ⊆ g.records :=
      List.Subset.trans (Update.records_restriction hcondition) hu
    by_cases hempty : u.assignments.isEmpty
    · simp only [hempty, if_true]
      exact .error (by simp)
    · simp only [hempty]
      refine Accord.same (schema_informed hrecord) fun schema hschema => ?_
      cases htable : schema.table with
      | none => exact .error (by simp)
      | some table =>
        obtain ⟨-, n, hn⟩ := hg.names_table hschema (by rw [htable]; rfl)
        simp only [hn, ok_bind]
        refine (assignments_agree hg _ twins u.record schema hassigned).bind fun pss qss hall => ?_
        refine (condition_records_agree hg _ twins hrestricted).bind fun ps qs hpq => .ok ?_
        simp only [parameters_append, parameters_cons, parameters_separated, hall, hpq]

/-- One dialect abbreviates the table of a delete, the other one writes its name. Both are there if the
record has a table. -/
theorem delete_agrees (hg : g.Closed catalog) (d d' : Dialect) {x : Delete}
    (hx : (Statement.delete x).records ⊆ g.records) :
    Agree (deletePieces { dialect := d, registry := g } x)
      (deletePieces { dialect := d', registry := g } x) := by
  obtain ⟨hrecord, hcondition⟩ := List.cons_subset.1 hx
  have written : ∀ (d : Dialect) {schema : RecordSchema} {table : String},
      g.schema x.record = .ok schema → schema.table = some table →
      ∃ head r, parameters head = [] ∧ deletePieces { dialect := d, registry := g } x =
        (conditionPieces (expandWith (expansionDepth x.condition.definitionCount))
          { dialect := d, registry := g, unaliased := r } x.condition).map (head ++ ·) := by
    intro d schema table hschema htable
    obtain ⟨-, n, hn⟩ := hg.names_table hschema (by rw [htable]; rfl)
    unfold deletePieces
    simp only [hschema, ok_bind, htable]
    cases d with
    | mySql => exact ⟨[.word "delete from ", .ident table], some x.record, rfl, rfl⟩
    | postgreSql =>
      simp only [hn]
      exact ⟨[.word "delete from ", .table table (.abbreviation n)], none, rfl, rfl⟩
  obtain ⟨schema, hschema⟩ := schema_of_registered hrecord
  cases htable : schema.table with
  | none =>
    have failed : ∀ d, deletePieces { dialect := d, registry := g } x =
        .error (.invalidSchema x.record.name .deletesComputed) := by
      intro d
      unfold deletePieces
      simp only [hschema, ok_bind, htable]
      rfl
    rw [failed, failed]
    exact .error fun r h => nomatch h
  | some table =>
    obtain ⟨head, r, hhead, hps⟩ := written d hschema htable
    obtain ⟨head', r', hhead', hqs⟩ := written d' hschema htable
    rw [hps, hqs]
    refine (condition_records_agree hg _ (twins_dialects g d d' r r') hcondition).map fun ps qs hpq => ?_
    rw [parameters_append, parameters_append, hhead, hhead', hpq]

/-- A statement whose records are registered agrees in both dialects. -/
theorem statement_agrees (hg : g.Closed catalog) (d d' : Dialect) {s : Statement}
    (hs : s.records ⊆ g.records) : Agree (statementPieces d g s) (statementPieces d' g s) := by
  cases s with
  | select s =>
    have hexp := expandsAgree_expandWith hg (expansionDepth s.definitionCount)
    exact (agree_cases hg hexp).select s _ _ (twins_dialects g d d' none none) hs
  | insert i => exact insert_agrees d d' (hs (List.mem_singleton_self _))
  | update u => exact update_agrees hg d d' hs
  | delete x => exact delete_agrees hg d d' hs

end Statements

/-! ### Compiling for either dialect -/

section Compiling

variable {catalog : Catalog} {σ : Session}

/-- The values that are bound, or the error, of a compiled statement whose records are registered. -/
theorem compiledIn_parameters (options : Options) (s : Statement) (g : Registry) :
    (compiledIn options s g).map Compiled.parameters =
      (checkedPieces options.dialect g s).map parameters := by
  unfold compiledIn
  cases checkedPieces options.dialect g s <;> rfl

theorem expressionIn_parameters (options : Options) (e : Expr) (g : Registry) :
    (expressionIn options e g).map Compiled.parameters =
      (freeExprPieces options.dialect g e).map parameters := by
  unfold expressionIn
  cases freeExprPieces options.dialect g e <;> rfl

/-- A statement binds the same values in both dialects, or fails alike. -/
theorem compile_dialects (hσ : σ.cache.BuiltFrom catalog) (d d' : Dialect) (layout : Layout)
    (s : Statement) :
    ((compile catalog ⟨d, layout⟩ s).runIn σ).1.map Compiled.parameters =
      ((compile catalog ⟨d', layout⟩ s).runIn σ).1.map Compiled.parameters := by
  rw [compile_result, compile_result]
  rcases hbuild : (Registry.build catalog s.records).runIn σ with ⟨_ | g, σ'⟩
  · rfl
  · obtain ⟨hg, hrecords⟩ := build_closed hσ hbuild
    show (compiledIn ⟨d, layout⟩ s g).map _ = (compiledIn ⟨d', layout⟩ s g).map _
    rw [compiledIn_parameters, compiledIn_parameters]
    unfold checkedPieces
    cases verify g s with
    | error e => rfl
    | ok _ => exact (statement_agrees hg d d' hrecords).map_eq

theorem compileExpression_dialects (hσ : σ.cache.BuiltFrom catalog) (d d' : Dialect) (layout : Layout)
    (e : Expr) :
    ((compileExpression catalog ⟨d, layout⟩ e).runIn σ).1.map Compiled.parameters =
      ((compileExpression catalog ⟨d', layout⟩ e).runIn σ).1.map Compiled.parameters := by
  rw [compileExpression_result, compileExpression_result]
  rcases hbuild : (Registry.build catalog e.records).runIn σ with ⟨_ | g, σ'⟩
  · rfl
  · obtain ⟨hg, hrecords⟩ := build_closed hσ hbuild
    show (expressionIn ⟨d, layout⟩ e g).map _ = (expressionIn ⟨d', layout⟩ e g).map _
    rw [expressionIn_parameters, expressionIn_parameters]
    exact (freeExpr_agrees hg d d' hrecords).map_eq

end Compiling

/-- After any operations on one catalog, a statement or an expression compiles for one dialect if and only
if it does for the other one; the values that are bound are the same then, in the same order, and if it
fails the error is the same. -/
theorem dialects_agree (catalog : Catalog) (operations : List Operation) (layout : Layout) :
    (∀ s, ((compile catalog ⟨.mySql, layout⟩ s).runIn
          (Session.ofHistory (operations.map (catalog, ·)))).1.map Compiled.parameters =
        ((compile catalog ⟨.postgreSql, layout⟩ s).runIn
          (Session.ofHistory (operations.map (catalog, ·)))).1.map Compiled.parameters) ∧
    ∀ e, ((compileExpression catalog ⟨.mySql, layout⟩ e).runIn
          (Session.ofHistory (operations.map (catalog, ·)))).1.map Compiled.parameters =
        ((compileExpression catalog ⟨.postgreSql, layout⟩ e).runIn
          (Session.ofHistory (operations.map (catalog, ·)))).1.map Compiled.parameters := by
  have built := ofHistory_map_built catalog operations
  exact ⟨compile_dialects built .mySql .postgreSql layout,
    compileExpression_dialects built .mySql .postgreSql layout⟩

end RecordSql
