import RecordSql.Proofs.Expression.Likeness

/-!
# Replacing columns

The columns of an expression, wherever they stand in it, can be replaced by expressions. What else the
expression says of fields, in comparisons with null and with lists, in keys, in projections and in the
definitions of sub-selects, stays.

- `Expr.replace`: an expression with its columns replaced.
- `Occurrence`, `Expr.occurrences`: all places of an expression that name fields.
- `replace_of_fixed`, `replace_replace`: replacements that change nothing, and one after another.
- `like_replace`: what is replaced is like the original.
-/

namespace RecordSql

mutual

/-- An expression with each column replaced. -/
def Expr.replace (σ : FieldRef → Expr) : Expr → Expr
  | .column c => σ c
  | .literal sql => .literal sql
  | .value v => .value v
  | .call name args => .call name (exprsReplace σ args)
  | .epoch e => .epoch (e.replace σ)
  | .binary op l r => .binary op (l.replace σ) (r.replace σ)
  | .junction op operands => .junction op (exprsReplace σ operands)
  | .not e => .not (e.replace σ)
  | .isNull c => .isNull c
  | .inList c values => .inList c values
  | .exists s => .exists (s.replace σ)
  | .fullText record index query => .fullText record index query
termination_by structural x => x

/-- Several expressions. -/
def exprsReplace (σ : FieldRef → Expr) : List Expr → List Expr
  | [] => []
  | e :: es => e.replace σ :: exprsReplace σ es
termination_by structural x => x

/-- A condition. -/
def Condition.replace (σ : FieldRef → Expr) : Condition → Condition
  | .expr e => .expr (e.replace σ)
  | .key k => .key k
  | .multiKey k => .multiKey k
termination_by structural x => x

/-- The conditions of joins. -/
def joinsReplace (σ : FieldRef → Expr) : List Join → List Join
  | [] => []
  | ⟨record, condition, kind, tableAlias⟩ :: js =>
    ⟨record, condition.replace σ, kind, tableAlias⟩ :: joinsReplace σ js
termination_by structural x => x

/-- The terms of an order. -/
def orderReplace (σ : FieldRef → Expr) : List OrderTerm → List OrderTerm
  | [] => []
  | ⟨e, direction⟩ :: ts => ⟨e.replace σ, direction⟩ :: orderReplace σ ts
termination_by structural x => x

/-- The expressions of definitions. -/
def definitionsReplace (σ : FieldRef → Expr) : List Definition → List Definition
  | [] => []
  | ⟨field, e, kind⟩ :: ds => ⟨field, e.replace σ, kind⟩ :: definitionsReplace σ ds
termination_by structural x => x

/-- A restriction, if there is one. -/
def whereReplace (σ : FieldRef → Expr) : Option Condition → Option Condition
  | some c => some (c.replace σ)
  | none => none
termination_by structural x => x

/-- Groups, if there are any. -/
def groupsReplace (σ : FieldRef → Expr) : Option (List Expr) → Option (List Expr)
  | some es => some (exprsReplace σ es)
  | none => none
termination_by structural x => x

/-- An order, if there is one. -/
def ordersReplace (σ : FieldRef → Expr) : Option (List OrderTerm) → Option (List OrderTerm)
  | some ts => some (orderReplace σ ts)
  | none => none
termination_by structural x => x

/-- A select with the columns of all its clauses and of its definitions replaced. -/
def Select.replace (σ : FieldRef → Expr) : Select → Select
  | ⟨record, fields, sources, joins, condition, groupBy, orderBy, limit, forUpdate, definitions⟩ =>
    ⟨record, fields, sources, joinsReplace σ joins, whereReplace σ condition, groupsReplace σ groupBy,
      ordersReplace σ orderBy, limit, forUpdate, definitionsReplace σ definitions⟩
termination_by structural x => x

end

/-! ### Occurrences -/

/-- A place that names fields. -/
inductive Occurrence
  /-- A column that stands as an expression. -/
  | column (c : FieldRef)
  /-- A column that is compared with null or with a list of values. -/
  | reference (c : FieldRef)
  /-- A key of a record. -/
  | key (record : RecordType)
  /-- The projection of a sub-select. -/
  | projection (record : RecordType) (fields : List String)
  /-- A definition of a sub-select. -/
  | definition (record : RecordType) (field : String)
  deriving DecidableEq

mutual

/-- The places of an expression that name fields. -/
def Expr.occurrences : Expr → List Occurrence
  | .column c => [.column c]
  | .literal _ | .value _ | .fullText .. => []
  | .call _ args => exprsOccurrences args
  | .epoch e | .not e => e.occurrences
  | .binary _ l r => l.occurrences ++ r.occurrences
  | .junction _ operands => exprsOccurrences operands
  | .isNull c | .inList c _ => [.reference c]
  | .exists s => s.occurrences
termination_by structural x => x

/-- The places of several expressions. -/
def exprsOccurrences : List Expr → List Occurrence
  | [] => []
  | e :: es => e.occurrences ++ exprsOccurrences es
termination_by structural x => x

/-- The places of a condition. -/
def Condition.occurrences : Condition → List Occurrence
  | .expr e => e.occurrences
  | .key k => [.key k.record]
  | .multiKey k => [.key k.record]
termination_by structural x => x

/-- The places of join conditions. -/
def joinsOccurrences : List Join → List Occurrence
  | [] => []
  | ⟨_, condition, _, _⟩ :: js => condition.occurrences ++ joinsOccurrences js
termination_by structural x => x

/-- The places of the terms of an order. -/
def orderOccurrences : List OrderTerm → List Occurrence
  | [] => []
  | ⟨e, _⟩ :: ts => e.occurrences ++ orderOccurrences ts
termination_by structural x => x

/-- The places of the definitions of a record. -/
def definitionsOccurrences (record : RecordType) : List Definition → List Occurrence
  | [] => []
  | ⟨field, e, _⟩ :: ds =>
    .definition record field :: e.occurrences ++ definitionsOccurrences record ds
termination_by structural x => x

/-- The places of a restriction. -/
def whereOccurrences : Option Condition → List Occurrence
  | some c => c.occurrences
  | none => []
termination_by structural x => x

/-- The places of groups. -/
def groupsOccurrences : Option (List Expr) → List Occurrence
  | some es => exprsOccurrences es
  | none => []
termination_by structural x => x

/-- The places of an order. -/
def ordersOccurrences : Option (List OrderTerm) → List Occurrence
  | some ts => orderOccurrences ts
  | none => []
termination_by structural x => x

/-- The places of a select. -/
def Select.occurrences : Select → List Occurrence
  | ⟨record, fields, _, joins, condition, groupBy, orderBy, _, _, definitions⟩ =>
    .projection record fields :: (definitionsOccurrences record definitions ++
      (joinsOccurrences joins ++ (whereOccurrences condition ++ (groupsOccurrences groupBy ++
        ordersOccurrences orderBy))))
termination_by structural x => x

end

/-! ### Lists and clauses -/

section Lists

variable {σ : FieldRef → Expr}

theorem exprsReplace_eq (es : List Expr) : exprsReplace σ es = es.map (Expr.replace σ) := by
  induction es with
  | nil => rfl
  | cons e es ih => exact congrArg (e.replace σ :: ·) ih

/-- A join with the columns of its condition replaced. -/
def Join.replace (σ : FieldRef → Expr) (j : Join) : Join :=
  { j with condition := j.condition.replace σ }

/-- A term with its columns replaced. -/
def OrderTerm.replace (σ : FieldRef → Expr) (t : OrderTerm) : OrderTerm :=
  { t with expr := t.expr.replace σ }

/-- A definition with the columns of its expression replaced. -/
def Definition.replace (σ : FieldRef → Expr) (d : Definition) : Definition :=
  { d with expr := d.expr.replace σ }

theorem joinsReplace_eq (js : List Join) : joinsReplace σ js = js.map (Join.replace σ) := by
  induction js with
  | nil => rfl
  | cons j js ih =>
    cases j
    exact congrArg (_ :: ·) ih

theorem orderReplace_eq (ts : List OrderTerm) : orderReplace σ ts = ts.map (OrderTerm.replace σ) := by
  induction ts with
  | nil => rfl
  | cons t ts ih =>
    cases t
    exact congrArg (_ :: ·) ih

theorem definitionsReplace_eq (ds : List Definition) :
    definitionsReplace σ ds = ds.map (Definition.replace σ) := by
  induction ds with
  | nil => rfl
  | cons d ds ih =>
    cases d
    exact congrArg (_ :: ·) ih

/-- A select with its columns replaced, clause by clause. -/
theorem Select.replace_eq (s : Select) :
    s.replace σ =
      { s with
        joins := s.joins.map (Join.replace σ)
        condition := s.condition.map (Condition.replace σ)
        groupBy := s.groupBy.map (List.map (Expr.replace σ))
        orderBy := s.orderBy.map (List.map (OrderTerm.replace σ))
        definitions := s.definitions.map (Definition.replace σ) } := by
  obtain ⟨record, fields, sources, joins, condition, groupBy, orderBy, limit, forUpdate, definitions⟩ := s
  rw [← joinsReplace_eq, ← definitionsReplace_eq]
  cases condition <;> cases groupBy <;> cases orderBy <;>
    simp only [Option.map_none, Option.map_some, ← exprsReplace_eq, ← orderReplace_eq] <;> rfl

theorem exprsOccurrences_eq (es : List Expr) : exprsOccurrences es = es.flatMap Expr.occurrences := by
  induction es with
  | nil => rfl
  | cons e es ih => exact congrArg (e.occurrences ++ ·) ih

theorem joinsOccurrences_eq (js : List Join) :
    joinsOccurrences js = js.flatMap fun j => j.condition.occurrences := by
  induction js with
  | nil => rfl
  | cons j js ih =>
    cases j
    exact congrArg (_ ++ ·) ih

theorem orderOccurrences_eq (ts : List OrderTerm) :
    orderOccurrences ts = ts.flatMap fun t => t.expr.occurrences := by
  induction ts with
  | nil => rfl
  | cons t ts ih =>
    cases t
    exact congrArg (_ ++ ·) ih

/-- The places of a definition of a record. -/
def Definition.occurrences (record : RecordType) (d : Definition) : List Occurrence :=
  .definition record d.field :: d.expr.occurrences

theorem definitionsOccurrences_eq (record : RecordType) (ds : List Definition) :
    definitionsOccurrences record ds = ds.flatMap (Definition.occurrences record) := by
  induction ds with
  | nil => rfl
  | cons d ds ih =>
    cases d
    exact congrArg (_ ++ ·) ih

/-- The places of a select, clause by clause. -/
theorem Select.occurrences_eq (s : Select) :
    s.occurrences = .projection s.record s.fields ::
      (s.definitions.flatMap (Definition.occurrences s.record) ++
        (s.joins.flatMap (fun j => j.condition.occurrences) ++
          (s.condition.toList.flatMap Condition.occurrences ++
            (s.groupBy.toList.flatMap (List.flatMap Expr.occurrences) ++
              s.orderBy.toList.flatMap (List.flatMap fun t => t.expr.occurrences))))) := by
  obtain ⟨record, fields, sources, joins, condition, groupBy, orderBy, limit, forUpdate, definitions⟩ := s
  rw [← joinsOccurrences_eq, ← definitionsOccurrences_eq]
  cases condition <;> cases groupBy <;> cases orderBy <;>
    simp only [Option.toList_none, Option.toList_some, List.flatMap_nil, List.flatMap_singleton,
      ← exprsOccurrences_eq, ← orderOccurrences_eq] <;> rfl

end Lists

/-! ### One replacement after another -/

section Replacements

variable {σ ρ : FieldRef → Expr}

/-- A condition stays if its expression does. -/
theorem Condition.replace_of_fixed {c : Condition} (h : ∀ e, c = .expr e → e.replace σ = e) :
    c.replace σ = c := by
  cases c with
  | expr e => exact congrArg Condition.expr (h e rfl)
  | key k => rfl
  | multiKey k => rfl

theorem Condition.replace_replace {c : Condition}
    (h : ∀ e, c = .expr e → (e.replace σ).replace ρ = e.replace fun a => (σ a).replace ρ) :
    (c.replace σ).replace ρ = c.replace fun a => (σ a).replace ρ := by
  cases c with
  | expr e => exact congrArg Condition.expr (h e rfl)
  | key k => rfl
  | multiKey k => rfl

/-- A list whose items all stay. -/
theorem map_of_fixed {α : Type} {f : α → α} {l : List α} (h : ∀ a ∈ l, f a = a) : l.map f = l :=
  (List.map_congr_left h).trans (List.map_id l)

theorem replace_of_fixed_cases (σ : FieldRef → Expr) :
    ExprCases (fun e => (∀ c, .column c ∈ e.occurrences → σ c = .column c) → e.replace σ = e)
      (fun s => (∀ c, .column c ∈ s.occurrences → σ c = .column c) → s.replace σ = s) := by
  have all : ∀ {es : List Expr},
      (∀ e ∈ es, (∀ c, .column c ∈ e.occurrences → σ c = .column c) → e.replace σ = e) →
      (∀ c, .column c ∈ exprsOccurrences es → σ c = .column c) → es.map (Expr.replace σ) = es := by
    intro es ih h
    rw [exprsOccurrences_eq] at h
    exact map_of_fixed fun e he => ih e he fun c hc => h c (List.mem_flatMap_of_mem he hc)
  refine ⟨?column, ?literal, ?value, ?call, ?epoch, ?binary, ?junction, ?not, ?isNull, ?inList,
    ?subSelect, ?fullText, ?select⟩
  case column => exact fun c h => h c (List.mem_singleton_self _)
  case literal => exact fun _ _ => rfl
  case value => exact fun _ _ => rfl
  case call =>
    intro name args ih h
    exact congrArg (Expr.call name) ((exprsReplace_eq args).trans (all ih h))
  case epoch => exact fun e ih h => congrArg Expr.epoch (ih h)
  case binary =>
    intro op l r ihl ihr h
    refine congrArg₂ (Expr.binary op) (ihl fun c hc => ?_) (ihr fun c hc => ?_)
    · exact h c (List.mem_append_left _ hc)
    · exact h c (List.mem_append_right _ hc)
  case junction =>
    intro op operands ih h
    exact congrArg (Expr.junction op) ((exprsReplace_eq operands).trans (all ih h))
  case not => exact fun e ih h => congrArg Expr.not (ih h)
  case isNull => exact fun _ _ => rfl
  case inList => exact fun _ _ _ => rfl
  case subSelect => exact fun s ih h => congrArg Expr.exists (ih h)
  case fullText => exact fun _ _ _ _ => rfl
  case select =>
    intro s hdefinitions hjoins hcondition hgroupBy horderBy h
    simp only [Select.occurrences_eq, List.mem_cons, List.mem_append, List.mem_flatMap,
      Option.mem_toList, reduceCtorEq, false_or] at h
    have joins : s.joins.map (Join.replace σ) = s.joins := map_of_fixed fun j hj => by
      rw [Join.replace, hjoins j hj fun c hc => h c (.inr (.inl ⟨j, hj, hc⟩))]
      cases j
      rfl
    have definitions : s.definitions.map (Definition.replace σ) = s.definitions :=
      map_of_fixed fun d hd => by
        have he := hdefinitions d hd fun c hc => h c (.inl ⟨d, hd, List.mem_cons_of_mem _ hc⟩)
        rw [Definition.replace, he]
        cases d
        rfl
    have condition : s.condition.map (Condition.replace σ) = s.condition := by
      cases hs : s.condition with
      | none => rfl
      | some k =>
        refine congrArg some (Condition.replace_of_fixed fun e he => ?_)
        rw [he] at hs
        exact hcondition e hs fun c hc => h c (.inr (.inr (.inl ⟨_, hs, hc⟩)))
    have groupBy : s.groupBy.map (List.map (Expr.replace σ)) = s.groupBy := by
      cases hs : s.groupBy with
      | none => rfl
      | some es =>
        refine congrArg some (map_of_fixed fun e he => hgroupBy es hs e he fun c hc => ?_)
        exact h c (.inr (.inr (.inr (.inl ⟨es, hs, e, he, hc⟩))))
    have orderBy : s.orderBy.map (List.map (OrderTerm.replace σ)) = s.orderBy := by
      cases hs : s.orderBy with
      | none => rfl
      | some ts =>
        refine congrArg some (map_of_fixed fun t ht => ?_)
        have he := horderBy ts hs t ht fun c hc => h c (.inr (.inr (.inr (.inr ⟨ts, hs, t, ht, hc⟩))))
        rw [OrderTerm.replace, he]
        cases t
        rfl
    rw [Select.replace_eq, joins, definitions, condition, groupBy, orderBy]
    cases s
    rfl

/-- An expression stays if all of its columns do. -/
theorem replace_of_fixed {e : Expr} (h : ∀ c, .column c ∈ e.occurrences → σ c = .column c) :
    e.replace σ = e :=
  (replace_of_fixed_cases σ).expr e h

theorem replace_replace_cases (σ ρ : FieldRef → Expr) :
    ExprCases (fun e => (e.replace σ).replace ρ = e.replace fun c => (σ c).replace ρ)
      (fun s => (s.replace σ).replace ρ = s.replace fun c => (σ c).replace ρ) := by
  have all : ∀ {es : List Expr},
      (∀ e ∈ es, (e.replace σ).replace ρ = e.replace fun c => (σ c).replace ρ) →
      exprsReplace ρ (exprsReplace σ es) = exprsReplace (fun c => (σ c).replace ρ) es := by
    intro es ih
    rw [exprsReplace_eq, exprsReplace_eq, exprsReplace_eq, List.map_map]
    exact List.map_congr_left ih
  refine ⟨fun _ => rfl, fun _ => rfl, fun _ => rfl, fun name args ih => congrArg (Expr.call name) (all ih),
    fun e ih => congrArg Expr.epoch ih, fun op l r ihl ihr => congrArg₂ (Expr.binary op) ihl ihr,
    fun op operands ih => congrArg (Expr.junction op) (all ih), fun e ih => congrArg Expr.not ih,
    fun _ => rfl, fun _ _ => rfl, fun s ih => congrArg Expr.exists ih, fun _ _ _ => rfl, ?select⟩
  intro s hdefinitions hjoins hcondition hgroupBy horderBy
  have joins : (s.joins.map (Join.replace σ)).map (Join.replace ρ) =
      s.joins.map (Join.replace fun c => (σ c).replace ρ) := by
    rw [List.map_map]
    exact List.map_congr_left fun j hj => congrArg (fun e => { j with condition := e }) (hjoins j hj)
  have definitions : (s.definitions.map (Definition.replace σ)).map (Definition.replace ρ) =
      s.definitions.map (Definition.replace fun c => (σ c).replace ρ) := by
    rw [List.map_map]
    exact List.map_congr_left fun d hd => congrArg (fun e => { d with expr := e }) (hdefinitions d hd)
  have condition : (s.condition.map (Condition.replace σ)).map (Condition.replace ρ) =
      s.condition.map (Condition.replace fun c => (σ c).replace ρ) := by
    cases hs : s.condition with
    | none => rfl
    | some k =>
      exact congrArg some (Condition.replace_replace fun e he => hcondition e (hs.trans (congrArg some he)))
  have groupBy : (s.groupBy.map (List.map (Expr.replace σ))).map (List.map (Expr.replace ρ)) =
      s.groupBy.map (List.map (Expr.replace fun c => (σ c).replace ρ)) := by
    cases hs : s.groupBy with
    | none => rfl
    | some es =>
      refine congrArg some ?_
      rw [List.map_map]
      exact List.map_congr_left (hgroupBy es hs)
  have orderBy : (s.orderBy.map (List.map (OrderTerm.replace σ))).map (List.map (OrderTerm.replace ρ)) =
      s.orderBy.map (List.map (OrderTerm.replace fun c => (σ c).replace ρ)) := by
    cases hs : s.orderBy with
    | none => rfl
    | some ts =>
      refine congrArg some ?_
      rw [List.map_map]
      exact List.map_congr_left fun t ht =>
        congrArg (fun e => { t with expr := e }) (horderBy ts hs t ht)
  rw [Select.replace_eq, Select.replace_eq, Select.replace_eq, joins, definitions, condition, groupBy,
    orderBy]

/-- Two replacements, one after the other, are one. -/
theorem replace_replace (e : Expr) :
    (e.replace σ).replace ρ = e.replace fun c => (σ c).replace ρ :=
  (replace_replace_cases σ ρ).expr e

/-- What becomes of a place when columns are replaced. -/
def Occurrence.replaced (σ : FieldRef → Expr) : Occurrence → List Occurrence
  | .column c => (σ c).occurrences
  | o => [o]

theorem occurrences_replace_cases (σ : FieldRef → Expr) :
    ExprCases (fun e => (e.replace σ).occurrences = e.occurrences.flatMap (Occurrence.replaced σ))
      (fun s => (s.replace σ).occurrences = s.occurrences.flatMap (Occurrence.replaced σ)) := by
  have all : ∀ {es : List Expr},
      (∀ e ∈ es, (e.replace σ).occurrences = e.occurrences.flatMap (Occurrence.replaced σ)) →
      exprsOccurrences (exprsReplace σ es) =
        (exprsOccurrences es).flatMap (Occurrence.replaced σ) := by
    intro es ih
    rw [exprsReplace_eq, exprsOccurrences_eq, exprsOccurrences_eq, List.flatMap_map, List.flatMap_assoc]
    exact List.flatMap_congr ih
  have one : ∀ o : Occurrence, (∀ c, o ≠ .column c) → [o] = [o].flatMap (Occurrence.replaced σ) := by
    intro o h
    cases o with
    | column c => exact absurd rfl (h c)
    | _ => rfl
  refine ⟨fun c => (List.flatMap_singleton _ _).symm, fun _ => rfl, fun _ => rfl, fun _ _ ih => all ih,
    fun _ ih => ih, fun _ l r ihl ihr => ?binary, fun _ _ ih => all ih, fun _ ih => ih,
    fun c => one (.reference c) nofun, fun c _ => one (.reference c) nofun, fun _ ih => ih,
    fun _ _ _ => rfl, ?select⟩
  case binary =>
    show (l.replace σ).occurrences ++ (r.replace σ).occurrences = (l.occurrences ++ r.occurrences).flatMap _
    rw [List.flatMap_append, ihl, ihr]
  case select =>
    intro s hdefinitions hjoins hcondition hgroupBy horderBy
    have definitions : (s.definitions.map (Definition.replace σ)).flatMap (Definition.occurrences s.record) =
        (s.definitions.flatMap (Definition.occurrences s.record)).flatMap (Occurrence.replaced σ) := by
      rw [List.flatMap_map, List.flatMap_assoc]
      exact List.flatMap_congr fun d hd => congrArg (_ :: ·) (hdefinitions d hd)
    have joins : (s.joins.map (Join.replace σ)).flatMap (fun j => j.condition.occurrences) =
        (s.joins.flatMap fun j => j.condition.occurrences).flatMap (Occurrence.replaced σ) := by
      rw [List.flatMap_map, List.flatMap_assoc]
      exact List.flatMap_congr hjoins
    have condition : (s.condition.map (Condition.replace σ)).toList.flatMap Condition.occurrences =
        (s.condition.toList.flatMap Condition.occurrences).flatMap (Occurrence.replaced σ) := by
      cases hs : s.condition with
      | none => rfl
      | some k =>
        simp only [Option.map_some, Option.toList_some, List.flatMap_singleton]
        cases k with
        | expr e => exact hcondition e hs
        | key k => rfl
        | multiKey k => rfl
    have groupBy : (s.groupBy.map (List.map (Expr.replace σ))).toList.flatMap (List.flatMap Expr.occurrences) =
        (s.groupBy.toList.flatMap (List.flatMap Expr.occurrences)).flatMap (Occurrence.replaced σ) := by
      cases hs : s.groupBy with
      | none => rfl
      | some es =>
        simp only [Option.map_some, Option.toList_some, List.flatMap_singleton]
        rw [List.flatMap_map, List.flatMap_assoc]
        exact List.flatMap_congr (hgroupBy es hs)
    have orderBy : (s.orderBy.map (List.map (OrderTerm.replace σ))).toList.flatMap
          (List.flatMap fun t => t.expr.occurrences) =
        (s.orderBy.toList.flatMap (List.flatMap fun t => t.expr.occurrences)).flatMap
          (Occurrence.replaced σ) := by
      cases hs : s.orderBy with
      | none => rfl
      | some ts =>
        simp only [Option.map_some, Option.toList_some, List.flatMap_singleton]
        rw [List.flatMap_map, List.flatMap_assoc]
        exact List.flatMap_congr (horderBy ts hs)
    rw [Select.replace_eq, Select.occurrences_eq, Select.occurrences_eq, definitions, joins, condition,
      groupBy, orderBy, List.flatMap_cons, List.flatMap_append, List.flatMap_append,
      List.flatMap_append, List.flatMap_append]
    rfl

/-- The places of an expression whose columns are replaced: those of the expressions that come in, and
what is not a column. -/
theorem mem_occurrences_replace {e : Expr} {o : Occurrence} :
    o ∈ (e.replace σ).occurrences ↔ (o ∈ e.occurrences ∧ ∀ c, o ≠ .column c) ∨
      ∃ c, .column c ∈ e.occurrences ∧ o ∈ (σ c).occurrences := by
  rw [(occurrences_replace_cases σ).expr e, List.mem_flatMap]
  constructor
  · rintro ⟨p, hp, ho⟩
    cases p with
    | column c => exact .inr ⟨c, hp, ho⟩
    | _ =>
      rw [show o = _ from List.mem_singleton.1 ho]
      exact .inl ⟨hp, nofun⟩
  · rintro (⟨ho, h⟩ | ⟨c, hc, ho⟩)
    · refine ⟨o, ho, ?_⟩
      cases o with
      | column c => exact absurd rfl (h c)
      | _ => exact List.mem_singleton_self _
    · exact ⟨.column c, hc, ho⟩

/-! ### Likeness -/

/-- What is said of columns and of other mentions of fields, where columns are replaced. -/
def Likeness.Permits (L : Likeness) (σ : FieldRef → Expr) : Occurrence → Prop
  | .column c => L.column c (σ c)
  | .reference c => L.reference c
  | .key r => L.key r
  | .projection r fields => L.projection r fields
  | .definition r field => L.defines r field

section Likeness

variable {L : Likeness} (hv : ∀ v, L.value v v)

include hv

theorem fields_refl (vs : FieldValues) : L.Fields vs vs :=
  List.forall₂_same.2 fun p _ => ⟨rfl, hv p.2, rfl⟩

theorem limits_refl (l : Option Limit) : L.Limits l l := by
  cases l with
  | none => rfl
  | some l => exact ⟨l, rfl, hv _, hv _⟩

theorem like_replace_cases (σ : FieldRef → Expr) :
    ExprCases (fun e => (∀ o ∈ e.occurrences, L.Permits σ o) → e.Like L (e.replace σ))
      (fun s => (∀ o ∈ s.occurrences, L.Permits σ o) → s.Like L (s.replace σ)) := by
  have values : ∀ vs : List Value, List.Forall₂ L.value vs vs := fun vs =>
    List.forall₂_same.2 fun v _ => hv v
  have all : ∀ {es : List Expr},
      (∀ e ∈ es, (∀ o ∈ e.occurrences, L.Permits σ o) → e.Like L (e.replace σ)) →
      (∀ o ∈ exprsOccurrences es, L.Permits σ o) → exprsLike L es (exprsReplace σ es) := by
    intro es ih h
    rw [exprsOccurrences_eq] at h
    rw [exprsLike_iff, exprsReplace_eq, List.forall₂_map_right_iff]
    exact List.forall₂_same.2 fun e he => ih e he fun o ho => h o (List.mem_flatMap_of_mem he ho)
  refine ⟨?column, ?literal, ?value, ?call, ?epoch, ?binary, ?junction, ?not, ?isNull, ?inList,
    ?subSelect, ?fullText, ?select⟩
  case column => exact fun c h => h _ (List.mem_singleton_self _)
  case literal => exact fun _ _ => rfl
  case value => exact fun v _ => ⟨v, rfl, hv v⟩
  case call => exact fun name args ih h => ⟨_, rfl, all ih h⟩
  case epoch => exact fun e ih h => ⟨_, rfl, ih h⟩
  case binary =>
    intro op l r ihl ihr h
    refine ⟨_, _, rfl, ihl fun o ho => ?_, ihr fun o ho => ?_⟩
    · exact h o (List.mem_append_left _ ho)
    · exact h o (List.mem_append_right _ ho)
  case junction => exact fun op operands ih h => ⟨_, rfl, all ih h⟩
  case not => exact fun e ih h => ⟨_, rfl, ih h⟩
  case isNull => exact fun c h => ⟨rfl, h _ (List.mem_singleton_self _)⟩
  case inList => exact fun c vs h => ⟨vs, rfl, h _ (List.mem_singleton_self _), values vs⟩
  case subSelect => exact fun s ih h => ⟨_, rfl, ih h⟩
  case fullText => exact fun _ _ query _ => ⟨query, rfl, hv _⟩
  case select =>
    intro s hdefinitions hjoins hcondition hgroupBy horderBy h
    rw [Select.occurrences_eq] at h
    rw [Select.like_iff, Select.replace_eq]
    simp only [List.forall_mem_cons, List.forall_mem_append, List.forall_mem_flatMap,
      Option.mem_toList] at h
    obtain ⟨hp, hds, hjs, hc, hg, ho⟩ := h
    refine ⟨rfl, rfl, rfl, rfl, hp, ?joins, ?condition, ?groupBy, ?orderBy, limits_refl hv _, ?definitions⟩
    case joins =>
      rw [List.forall₂_map_right_iff]
      exact List.forall₂_same.2 fun j hj => ⟨rfl, rfl, rfl, hjoins j hj (hjs j hj)⟩
    case condition =>
      cases hs : s.condition with
      | none => rfl
      | some k =>
        refine ⟨_, rfl, ?_⟩
        have hk := hc k hs
        cases k with
        | expr e => exact ⟨_, rfl, hcondition e hs hk⟩
        | key k =>
          have hkey : L.key k.record := hk _ (List.mem_singleton_self _)
          exact ⟨k, rfl, rfl, fields_refl hv _, hkey⟩
        | multiKey k =>
          have hkey : L.key k.record := hk _ (List.mem_singleton_self _)
          exact ⟨k, rfl, rfl, rfl, fields_refl hv _, values _, hkey⟩
    case groupBy =>
      cases hs : s.groupBy with
      | none => rfl
      | some es =>
        refine ⟨_, rfl, ?_⟩
        rw [List.forall₂_map_right_iff]
        exact List.forall₂_same.2 fun e he => hgroupBy es hs e he (hg es hs e he)
    case orderBy =>
      cases hs : s.orderBy with
      | none => rfl
      | some ts =>
        refine ⟨_, rfl, ?_⟩
        rw [List.forall₂_map_right_iff]
        exact List.forall₂_same.2 fun t ht => ⟨rfl, horderBy ts hs t ht (ho ts hs t ht)⟩
    case definitions =>
      rw [List.forall₂_map_right_iff]
      refine List.forall₂_same.2 fun d hd => ?_
      obtain ⟨hfield, he⟩ := List.forall_mem_cons.1 (hds d hd)
      exact ⟨rfl, rfl, hdefinitions d hd he, hfield⟩

/-- An expression with its columns replaced is like the original if what comes in may stand for what was
there, and if all else that it says of fields is permitted. -/
theorem like_replace {e : Expr} (h : ∀ o ∈ e.occurrences, L.Permits σ o) : e.Like L (e.replace σ) :=
  (like_replace_cases hv σ).expr e h

end Likeness

end Replacements

end RecordSql
