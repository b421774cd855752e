import RecordSql.Proofs.Accord
import RecordSql.Proofs.Expression.Selects
import RecordSql.Proofs.Rendering.Simulation.Clauses
import RecordSql.Proofs.Rendering.Simulation.Keys

/-!
# Renderings that never give up on depth

A rendering gives up where definitions are nested deeper than it substitutes them. Whatever else it fails
for, it does not give up by itself: if the definitions that it asks for are substituted, it is done.

- `Settles.bind`, `Settles.mapM`: computations from their steps.
- `schema_settles`, `tableOf_settles`, `pickValues_settles`, …: all that is looked up on the way.
- `Frame.Unwinds`: sites that are left through the definitions of references only, for which two ways to
  substitute concur.
- `reference_concurs`, `condition_concurs`, `expr_concurs`: what is written at them is the same either way.
- `Frame.Settled`, `expr_settles`, `select_settles`: one way that substitutes all of these definitions.
-/

namespace RecordSql

variable {α β ι : Type}

/-! ### Steps of a computation -/

theorem settles_iff {x : Except Error α} : Settles x ↔ FailsOnly (fun e => e ≠ .circularDefinition) x := by
  constructor
  · intro h e he hcircular
    exact h (by rw [he, hcircular])
  · intro h hx
    exact h _ hx rfl

namespace Settles

theorem ok (a : α) : Settles (.ok a : Except Error α) :=
  fun h => nomatch h

theorem error {e : Error} (h : e ≠ .circularDefinition) : Settles (.error e : Except Error α) :=
  fun he => h (Except.error.inj he)

theorem bind {x : Except Error α} {f : α → Except Error β} (hx : Settles x)
    (hf : ∀ a, x = .ok a → Settles (f a)) : Settles (x >>= f) :=
  settles_iff.2 <| (settles_iff.1 hx).bind fun a ha => settles_iff.1 (hf a ha)

theorem map {x : Except Error α} {f : α → β} (hx : Settles x) : Settles (f <$> x) :=
  bind hx fun a _ => ok (f a)

theorem mapM {f : ι → Except Error α} {l : List ι} (h : ∀ i ∈ l, Settles (f i)) : Settles (l.mapM f) :=
  settles_iff.2 <| .mapM fun i hi => settles_iff.1 (h i hi)

end Settles

/-! ### What is looked up -/

section Lookups

variable (g : Registry) (r : RecordType)

theorem schema_settles : Settles (g.schema r) := by
  unfold Registry.schema
  split
  · exact .ok _
  · exact .error nofun

theorem getField_settles (schema : RecordSchema) (name : String) : Settles (schema.getField name) := by
  unfold RecordSchema.getField
  split
  · exact .ok _
  · exact .error nofun

theorem tableOf_settles : Settles (g.tableOf r) := by
  refine (schema_settles g r).bind fun schema _ => ?_
  split
  · exact .ok _
  · exact .error nofun

theorem abbreviation_settles : Settles (g.abbreviation r) := by
  refine (tableOf_settles g r).bind fun t _ => ?_
  split
  · exact .ok _
  · exact .error nofun

theorem tableName_settles : Settles (g.tableName r) := by
  refine (schema_settles g r).bind fun schema _ => ?_
  split
  · exact .ok _
  · exact .error nofun

theorem label_settles (f : Frame) (t : RecordType) : Settles (f.label t) := by
  unfold Frame.label
  split
  · exact (tableName_settles f.registry t).map
  · exact (abbreviation_settles f.registry t).map

theorem tablePiece_settles (f : Frame) (t : RecordType) : Settles (f.tablePiece t) := by
  refine (tableOf_settles f.registry t).bind fun owner _ => ?_
  refine (tableName_settles f.registry owner).bind fun name _ => ?_
  exact (abbreviation_settles f.registry owner).bind fun n _ => .ok _

theorem joinTable_settles (f : Frame) (t : RecordType) (tableAlias : Option String) :
    Settles (joinTable f t tableAlias) := by
  refine (tableOf_settles f.registry t).bind fun owner _ => ?_
  refine (tableName_settles f.registry owner).bind fun name _ => ?_
  cases tableAlias with
  | some a => exact .ok _
  | none => exact (abbreviation_settles f.registry owner).bind fun n _ => .ok _

theorem selectedFields_settles (schema : RecordSchema) (names : List String) :
    Settles (selectedFields schema names) := by
  unfold selectedFields
  split
  · exact .ok _
  · exact .mapM fun name _ => getField_settles schema name

theorem pickValues_settles (record : String) (values : FieldValues) (fields : List String) :
    Settles (pickValues record values fields) := by
  induction fields with
  | nil => exact .ok _
  | cons field fields ih =>
    unfold pickValues
    split
    · exact .error nofun
    · exact ih.bind fun vs _ => .ok _

theorem valuesInOrder_settles (k : Key) (primaryKey : List String) :
    Settles (k.valuesInOrder primaryKey) := by
  unfold Key.valuesInOrder
  split
  · exact .error nofun
  · split
    · exact .error nofun
    · exact pickValues_settles _ _ _

theorem fixedInOrder_settles (k : MultiKey) (primaryKey : List String) :
    Settles (k.fixedInOrder primaryKey) := by
  unfold MultiKey.fixedInOrder
  split
  · exact .error nofun
  · split
    · exact .error nofun
    · exact pickValues_settles _ _ _

theorem indexPieces_settles (f : Frame) (schema : RecordSchema) (t : RecordType) (fields : List String) :
    Settles (indexPieces f schema t fields) := by
  refine .mapM fun name _ => ?_
  refine (label_settles f t).bind fun label _ => ?_
  exact (getField_settles schema name).bind fun field _ => .ok _

theorem fullText_settles (f : Frame) (record : RecordType) (index query : String) :
    Settles (fullTextPieces f record index query) := by
  refine (schema_settles f.registry record).bind fun schema _ => ?_
  split
  · exact .error nofun
  · refine (tableOf_settles f.registry record).bind fun t _ => ?_
    split
    · exact (indexPieces_settles f schema t _).bind fun columns _ => .ok _
    · exact (label_settles f t).bind fun label _ => .ok _

theorem source_settles (f : Frame) (record : RecordType) (sources : Option (List RecordType)) :
    Settles (sourcePieces f record sources) :=
  (Settles.mapM fun t _ => tablePiece_settles f t).bind fun _ _ => .ok _

theorem readable_settles (f : Frame) (s : Select) : Settles (f.readable s) := by
  unfold Frame.readable
  split
  · exact (tableOf_settles f.registry s.record).map
  · exact .ok _

theorem stored_settles (f : Frame) (c : FieldRef) (schema : RecordSchema) (field : FieldSchema) :
    Settles (f.stored c r schema field) := by
  unfold Frame.stored
  split
  · exact .ok _
  · split
    · exact .error nofun
    · split
      · exact .ok _
      · exact (label_settles f _).bind fun label _ => .ok _

theorem resolve_settles (f : Frame) (use : ColumnUse) (c : FieldRef) : Settles (f.resolve use c) := by
  unfold Frame.resolve
  split
  · exact .ok _
  · rename_i record _
    refine (schema_settles f.registry record).bind fun schema _ => ?_
    refine (getField_settles schema c.field).bind fun field _ => ?_
    split
    · exact .ok _
    · exact stored_settles record f c schema field

end Lookups

/-! ### Two ways to substitute -/

/-- Two computations that are the same, and that fail for errors of some kind only. -/
def Concur (kind : Error → Prop) (x y : Except Error α) : Prop :=
  x = y ∧ FailsOnly kind x

namespace Concur

variable {kind : Error → Prop}

theorem ok (a : α) : Concur kind (.ok a) (.ok a) :=
  ⟨rfl, .ok a⟩

/-- What does not give up on the depth of definitions concurs with itself, if only that is left out. -/
theorem refl (hkind : ∀ e, e ≠ .circularDefinition → kind e) {x : Except Error α} (hx : Settles x) :
    Concur kind x x :=
  ⟨rfl, fun e he => hkind e (settles_iff.1 hx e he)⟩

theorem bind {x y : Except Error α} {f g : α → Except Error β} (hxy : Concur kind x y)
    (hfg : ∀ a, x = .ok a → Concur kind (f a) (g a)) : Concur kind (x >>= f) (y >>= g) := by
  obtain ⟨rfl, hx⟩ := hxy
  refine ⟨?same, hx.bind fun a ha => (hfg a ha).2⟩
  case same =>
    cases hx : x with
    | error e => rfl
    | ok a => exact (hfg a hx).1

theorem map {x y : Except Error α} (f : α → β) (hxy : Concur kind x y) : Concur kind (f <$> x) (f <$> y) :=
  bind hxy fun a _ => ok (f a)

theorem mapM {f g : ι → Except Error α} {l : List ι} (h : ∀ i ∈ l, Concur kind (f i) (g i)) :
    Concur kind (l.mapM f) (l.mapM g) := by
  induction l with
  | nil => exact ok []
  | cons i l ih =>
    obtain ⟨hfirst, hrest⟩ := List.forall_mem_cons.1 h
    rw [List.mapM_cons, List.mapM_cons]
    exact bind hfirst fun a _ => bind (ih hrest) fun as _ => ok (a :: as)

end Concur

/-! ### Sites -/

/-- Sites that lead to each other, except for the definitions of references, for which two ways to
substitute concur. Of all errors, only that of too many definitions may be none of the kind. -/
structure Frame.Unwinds (f : Frame) (kind : Error → Prop) (expand expand' : Frame → Expr → Rendered)
    (R : Site → Prop) : Prop where
  kinds : ∀ e, e ≠ .circularDefinition → kind e
  leads : ∀ {p q}, R p → f.Leads p q → (∀ use c, p.item ≠ .reference use c) → R q
  substituted : ∀ {around use c d}, R ⟨around, .reference use c⟩ →
    (f.within around).applied? use c = some d →
    Concur kind (expand (f.within around) d.expr) (expand' (f.within around) d.expr)

/-- The definitions of references are all substituted. -/
abbrev Frame.Settled (f : Frame) (expand : Frame → Expr → Rendered) (R : Site → Prop) : Prop :=
  f.Unwinds (fun e => e ≠ .circularDefinition) expand expand R

namespace Frame.Unwinds

variable {f : Frame} {kind : Error → Prop} {expand expand' : Frame → Expr → Rendered} {R : Site → Prop}
  (h : f.Unwinds kind expand expand' R) {around : List Select}

include h

/-- A common first step that does not depend on definitions. -/
theorem first {x : Except Error α} {k k' : α → Except Error β} (hx : Settles x)
    (hk : ∀ a, x = .ok a → Concur kind (k a) (k' a)) : Concur kind (x >>= k) (x >>= k') :=
  (Concur.refl h.kinds hx).bind hk

theorem reference_concurs {use : ColumnUse} {c : FieldRef} (hc : R ⟨around, .reference use c⟩) :
    Concur kind (referencePieces expand (f.within around) use c)
      (referencePieces expand' (f.within around) use c) := by
  rw [referencePieces_eq, referencePieces_eq]
  refine h.first (resolve_settles _ use c) fun r hr => ?_
  cases r with
  | name n => exact .ok _
  | literal sql => exact .ok _
  | column label n => exact .ok _
  | definition d => exact (h.substituted hc (resolve_definition hr)).bind fun ps _ => .ok _

/-! #### Keys -/

theorem components_concur {record : RecordType} {components : List (String × Value)}
    (hc : ∀ p ∈ components, R ⟨around, .reference .key (.of record p.1)⟩) :
    Concur kind (componentsPieces expand (f.within around) record components)
      (componentsPieces expand' (f.within around) record components) :=
  .mapM fun p hp => (h.reference_concurs (hc p hp)).bind fun _ _ => .ok _

theorem key_concurs {k : Key} (hk : R ⟨around, .condition (.key k)⟩) :
    Concur kind (keyPieces expand (f.within around) k) (keyPieces expand' (f.within around) k) := by
  refine h.first (schema_settles _ k.record) fun schema hschema => ?_
  refine h.first (valuesInOrder_settles k schema.primaryKey) fun values _ => ?_
  refine (h.components_concur fun p hp => ?_).bind fun pss _ => .ok _
  have hname : p.1 ∈ f.registry.keyFields k.record := by
    rw [within_registry] at hschema
    rw [Registry.keyFields, hschema]
    exact (List.of_mem_zip hp).1
  refine h.leads hk (.key hname) fun use c heq => ?_
  cases heq

theorem multiKey_concurs {k : MultiKey} (hk : R ⟨around, .condition (.multiKey k)⟩) :
    Concur kind (multiKeyPieces expand (f.within around) k)
      (multiKeyPieces expand' (f.within around) k) := by
  refine h.first (schema_settles _ k.record) fun schema hschema => ?_
  refine h.first (fixedInOrder_settles k schema.primaryKey) fun values hvalues => ?_
  have hkey : ∀ name ∈ schema.primaryKey, R ⟨around, .reference .key (.of k.record name)⟩ := by
    intro name hname
    rw [within_registry] at hschema
    refine h.leads hk (.multiKey ?_) nofun
    rwa [Registry.keyFields, hschema]
  refine (h.components_concur fun p hp => ?_).bind fun fixed _ => ?_
  · exact hkey p.1 (List.mem_filter.1 (List.of_mem_zip hp).1).1
  · have hvarying : k.field ∈ schema.primaryKey := (Simulation.fixedInOrder_ok hvalues).1
    exact (h.reference_concurs (hkey k.field hvarying)).bind fun _ _ => .ok _

/-! #### Clauses -/

theorem condition_concurs {c : Condition} (hc : R ⟨around, .condition c⟩)
    (he : ∀ e, c = .expr e →
      Concur kind (exprPieces expand (f.within around) e) (exprPieces expand' (f.within around) e)) :
    Concur kind (conditionPieces expand (f.within around) c)
      (conditionPieces expand' (f.within around) c) := by
  cases c with
  | expr e => exact (he e rfl).bind fun _ _ => .ok _
  | key k => exact (h.key_concurs hc).bind fun _ _ => .ok _
  | multiKey k => exact (h.multiKey_concurs hc).bind fun _ _ => .ok _

theorem projection_concurs {s : Select} (hs : R ⟨s :: around, .select s⟩) :
    Concur kind (projectionPieces expand (f.within (s :: around)) s.record s.fields)
      (projectionPieces expand' (f.within (s :: around)) s.record s.fields) := by
  refine h.first (schema_settles _ s.record) fun schema hschema => ?_
  refine h.first (selectedFields_settles schema s.fields) fun fields hfields => ?_
  refine (Concur.mapM fun field hfield => ?_).bind fun _ _ => .ok _
  rw [within_registry] at hschema
  have hname := Simulation.mem_projected hschema hfields (List.mem_filter.1 hfield).1
  exact h.reference_concurs (h.leads hs (.projection hname) nofun)

omit h in
theorem exprs_concur {es : List Expr} (he : ∀ e ∈ es,
      Concur kind (exprPieces expand (f.within around) e) (exprPieces expand' (f.within around) e)) :
    Concur kind (exprsPieces expand (f.within around) es) (exprsPieces expand' (f.within around) es) := by
  rw [exprsPieces_eq, exprsPieces_eq]
  exact .mapM he

/-- The clauses of a select are written alike if the expressions in them are. -/
theorem select_concurs_of_clauses {s : Select} (hs : R ⟨s :: around, .select s⟩)
    (hclause : ∀ e ∈ s.clauses, Concur kind (exprPieces expand (f.within (s :: around)) e)
      (exprPieces expand' (f.within (s :: around)) e))
    (hcondition : ∀ e, s.condition = some (.expr e) →
      Concur kind (exprPieces expand (f.within (s :: around)) e)
        (exprPieces expand' (f.within (s :: around)) e)) :
    Concur kind (selectPieces expand (f.within around) s) (selectPieces expand' (f.within around) s) := by
  have joins : Concur kind (joinPieces expand (f.within (s :: around)) s.joins)
      (joinPieces expand' (f.within (s :: around)) s.joins) := by
    rw [joinPieces_eq, joinPieces_eq]
    refine (Concur.mapM fun j hj => ?_).map _
    refine h.first (joinTable_settles _ j.record j.tableAlias) fun table _ => ?_
    exact (hclause _ (Select.join_mem_clauses hj)).bind fun _ _ => .ok _
  have restriction : Concur kind (wherePieces expand (f.within (s :: around)) s.condition)
      (wherePieces expand' (f.within (s :: around)) s.condition) := by
    cases hc : s.condition with
    | none => exact .ok _
    | some c =>
      refine h.condition_concurs (h.leads hs (.restriction hc) nofun) fun e he => ?_
      exact hcondition e (by rw [hc, he])
  have groups : Concur kind (groupPieces expand (f.within (s :: around)) s.groupBy)
      (groupPieces expand' (f.within (s :: around)) s.groupBy) := by
    cases hg : s.groupBy with
    | none => exact .ok _
    | some es =>
      exact (exprs_concur fun e he => hclause e (Select.group_mem_clauses hg he)).bind fun _ _ => .ok _
  have order : Concur kind (sortPieces expand (f.within (s :: around)) s.orderBy)
      (sortPieces expand' (f.within (s :: around)) s.orderBy) := by
    cases ho : s.orderBy with
    | none => exact .ok _
    | some ts =>
      show Concur kind (orderPieces expand (f.within (s :: around)) ts >>= fun _ => _)
        (orderPieces expand' (f.within (s :: around)) ts >>= fun _ => _)
      rw [orderPieces_eq, orderPieces_eq]
      refine (Concur.mapM fun t ht => ?_).bind fun _ _ => .ok _
      exact (hclause _ (Select.order_mem_clauses ho ht)).bind fun _ _ => .ok _
  rw [selectPieces_eq, selectPieces_eq]
  refine h.first (readable_settles _ s) fun _ _ => ?_
  refine (h.projection_concurs hs).bind fun _ _ => ?_
  refine h.first (source_settles _ s.record s.sources) fun _ _ => ?_
  refine joins.bind fun _ _ => ?_
  refine restriction.bind fun _ _ => ?_
  refine groups.bind fun _ _ => ?_
  exact order.bind fun _ _ => .ok _

/-! #### Expressions and selects -/

theorem concur_cases :
    ExprCases
      (fun e => ∀ around, R ⟨around, .expr e⟩ →
        Concur kind (exprPieces expand (f.within around) e) (exprPieces expand' (f.within around) e))
      (fun s => ∀ around, R ⟨s :: around, .select s⟩ →
        Concur kind (selectPieces expand (f.within around) s)
          (selectPieces expand' (f.within around) s)) := by
  refine .ofOperands ?expr ?select
  case expr =>
    intro e ih hsub around he
    have operand : ∀ a ∈ e.operands,
        Concur kind (exprPieces expand (f.within around) a) (exprPieces expand' (f.within around) a) := by
      intro a ha
      exact ih a ha around (h.leads he (.operand ha) nofun)
    have reference : ∀ c, e.reference? = some c →
        Concur kind (referencePieces expand (f.within around) .plain c)
          (referencePieces expand' (f.within around) .plain c) := by
      intro c hc
      exact h.reference_concurs (h.leads he (.reference hc) nofun)
    cases e with
    | column c => exact reference c rfl
    | literal sql => exact .ok _
    | value v => exact .ok _
    | call name args => exact (exprs_concur operand).bind fun _ _ => .ok _
    | epoch e => exact (operand e (List.mem_singleton_self e)).bind fun _ _ => .ok _
    | binary op l r =>
      refine (operand l List.mem_cons_self).bind fun _ _ => ?_
      exact (operand r (List.mem_cons_of_mem l List.mem_cons_self)).bind fun _ _ => .ok _
    | junction op operands => exact (exprs_concur operand).bind fun _ _ => .ok _
    | not e => exact (operand e (List.mem_singleton_self e)).bind fun _ _ => .ok _
    | isNull c => exact (reference c rfl).bind fun _ _ => .ok _
    | inList c values => exact (reference c rfl).bind fun _ _ => .ok _
    | «exists» s => exact (hsub s rfl around (h.leads he .subSelect nofun)).bind fun _ _ => .ok _
    | fullText record index query => exact .refl h.kinds (fullText_settles _ record index query)
  case select =>
    intro s _ hclauses hcondition around hs
    refine h.select_concurs_of_clauses hs (fun e he => ?_) fun e he => ?_
    · exact hclauses e he _ (h.leads hs (.clause he) nofun)
    · exact hcondition e he _ (h.leads (h.leads hs (.restriction he) nofun) .condition nofun)

theorem expr_concurs {e : Expr} (he : R ⟨around, .expr e⟩) :
    Concur kind (exprPieces expand (f.within around) e) (exprPieces expand' (f.within around) e) :=
  h.concur_cases.expr e around he

end Frame.Unwinds

namespace Frame.Settled

variable {f : Frame} {expand : Frame → Expr → Rendered} {R : Site → Prop} (h : f.Settled expand R)
  {around : List Select}

include h

theorem expr_settles {e : Expr} (he : R ⟨around, .expr e⟩) :
    Settles (exprPieces expand (f.within around) e) :=
  settles_iff.2 (h.expr_concurs he).2

theorem select_settles {s : Select} (hs : R ⟨s :: around, .select s⟩) :
    Settles (selectPieces expand (f.within around) s) :=
  settles_iff.2 (h.concur_cases.select s around hs).2

/-- A restriction that stands in no select. -/
theorem restriction_settles {c : Condition} (hc : R ⟨[], .condition c⟩) :
    Settles (conditionPieces expand f c) := by
  refine settles_iff.2 (h.condition_concurs hc fun e he => ?_).2
  subst he
  exact h.expr_concurs (h.leads hc .condition nofun)

end Frame.Settled

/-! ### Statements -/

/-- The number of definitions in a statement. -/
def Statement.definitionCount : Statement → Nat
  | .select s => s.definitionCount
  | .insert _ => 0
  | .update u => exprsDefinitionCount (u.assignments.map (·.2)) + conditionDefinitionCount u.condition
  | .delete d => d.condition.definitionCount

section Statements

variable {R : Site → Prop}

theorem insert_settles (f : Frame) (i : Insert) : Settles (insertPieces f i) := by
  refine (schema_settles f.registry i.record).bind fun schema _ => ?_
  split
  · exact .error nofun
  · refine (Settles.mapM fun field _ => ?_).bind fun _ _ => .ok _
    unfold insertSlot
    split
    · exact .ok _
    · split
      · exact .ok _
      · exact .error nofun

/-- A statement is written if its definitions are substituted. -/
theorem statement_settles {dialect : Dialect} {g : Registry} {s : Statement}
    (h : (s.frame dialect g).Settled (expandWith (expansionDepth s.definitionCount)) R)
    (hs : R ⟨[], .statement s⟩) : Settles (statementPieces dialect g s) := by
  cases s with
  | select s =>
    have hselect : R ⟨[s], .select s⟩ := h.leads hs .select nofun
    have hsettles := h.select_settles hselect
    exact hsettles
  | insert i => exact insert_settles _ i
  | update u =>
    show Settles (updatePieces { dialect := dialect, registry := g } u)
    unfold updatePieces
    cases hc : u.condition with
    | none => exact .error nofun
    | some c =>
      have hcount : exprsDefinitionCount (u.assignments.map (·.2)) + c.definitionCount =
          (Statement.update u).definitionCount := by
        rw [Statement.definitionCount, hc]
        rfl
      dsimp only
      rw [hcount]
      split
      · exact .error nofun
      · refine (schema_settles g u.record).bind fun schema _ => ?_
        split
        · exact .error nofun
        · refine (abbreviation_settles g u.record).bind fun n _ => ?_
          refine (Settles.mapM fun a ha => ?_).bind fun _ _ => ?_
          · refine (getField_settles schema a.1).bind fun field _ => ?_
            dsimp only
            split
            · exact .error nofun
            · have he : R ⟨[], .expr a.2⟩ := h.leads hs (.assignment ha) nofun
              have hsettles := h.expr_settles he
              exact hsettles.bind fun _ _ => .ok _
          · exact (h.restriction_settles (h.leads hs (.update hc) nofun)).bind fun _ _ => .ok _
  | delete d =>
    have hwhere := h.restriction_settles (h.leads hs .delete nofun)
    show Settles (deletePieces { dialect := dialect, registry := g } d)
    refine (schema_settles g d.record).bind fun schema _ => ?_
    split
    · exact .error nofun
    · dsimp only
      split
      · rename_i halias
        rw [Statement.frame_delete_aliased halias] at hwhere
        refine (abbreviation_settles g d.record).bind fun n _ => ?_
        exact hwhere.bind fun _ _ => .ok _
      · rename_i halias
        rw [Statement.frame_delete_unaliased (Bool.eq_false_iff.2 halias)] at hwhere
        exact hwhere.bind fun _ _ => .ok _

end Statements

end RecordSql
