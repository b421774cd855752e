import RecordSql.Expression

/-!
# Induction over expressions and selects

Expressions and selects contain each other, through lists and optional clauses. `ExprCases` lists what
an induction over both has to show: a property of a node may be derived from that of its parts, and the
parts of a select are the expressions of its clauses and of its definitions.

- `ExprCases`: one case for each kind of expression, and one for selects.
- `ExprCases.expr`, `ExprCases.select`: the properties hold of all expressions and selects.
-/

namespace RecordSql

/-- The cases of an induction over expressions, for which `P` is shown, and selects, for which `Q` is. -/
structure ExprCases (P : Expr → Prop) (Q : Select → Prop) : Prop where
  column : ∀ c, P (.column c)
  literal : ∀ sql, P (.literal sql)
  value : ∀ v, P (.value v)
  call : ∀ name args, (∀ a ∈ args, P a) → P (.call name args)
  epoch : ∀ e, P e → P (.epoch e)
  binary : ∀ op l r, P l → P r → P (.binary op l r)
  junction : ∀ op operands, (∀ a ∈ operands, P a) → P (.junction op operands)
  not : ∀ e, P e → P (.not e)
  isNull : ∀ c, P (.isNull c)
  inList : ∀ c values, P (.inList c values)
  subSelect : ∀ s, Q s → P (.exists s)
  fullText : ∀ record index query, P (.fullText record index query)
  ofParts : ∀ s : Select, (∀ d ∈ s.definitions, P d.expr) → (∀ j ∈ s.joins, P j.condition) →
    (∀ e, s.condition = some (.expr e) → P e) → (∀ es, s.groupBy = some es → ∀ e ∈ es, P e) →
    (∀ ts, s.orderBy = some ts → ∀ t ∈ ts, P t.expr) → Q s

namespace ExprCases

variable {P : Expr → Prop} {Q : Select → Prop}

mutual

/-- The property of expressions holds of all of them. -/
theorem expr (h : ExprCases P Q) : ∀ e : Expr, P e
  | .column c => h.column c
  | .literal sql => h.literal sql
  | .value v => h.value v
  | .call name args => h.call name args (exprs h args)
  | .epoch e => h.epoch e (expr h e)
  | .binary op l r => h.binary op l r (expr h l) (expr h r)
  | .junction op operands => h.junction op operands (exprs h operands)
  | .not e => h.not e (expr h e)
  | .isNull c => h.isNull c
  | .inList c values => h.inList c values
  | .exists s => h.subSelect s (select h s)
  | .fullText record index query => h.fullText record index query

theorem exprs (h : ExprCases P Q) : ∀ es : List Expr, ∀ e ∈ es, P e
  | [] => List.forall_mem_nil _
  | e :: es => List.forall_mem_cons.2 ⟨expr h e, exprs h es⟩

theorem condition (h : ExprCases P Q) : ∀ c : Option Condition, ∀ e, c = some (.expr e) → P e
  | some (.expr e), _, rfl => expr h e

theorem joins (h : ExprCases P Q) : ∀ js : List Join, ∀ j ∈ js, P j.condition
  | [] => List.forall_mem_nil _
  | ⟨_, e, _, _⟩ :: js => List.forall_mem_cons.2 ⟨expr h e, joins h js⟩

theorem terms (h : ExprCases P Q) : ∀ ts : List OrderTerm, ∀ t ∈ ts, P t.expr
  | [] => List.forall_mem_nil _
  | ⟨e, _⟩ :: ts => List.forall_mem_cons.2 ⟨expr h e, terms h ts⟩

theorem definitions (h : ExprCases P Q) : ∀ ds : List Definition, ∀ d ∈ ds, P d.expr
  | [] => List.forall_mem_nil _
  | ⟨_, e, _⟩ :: ds => List.forall_mem_cons.2 ⟨expr h e, definitions h ds⟩

theorem groupBy (h : ExprCases P Q) : ∀ g : Option (List Expr), ∀ es, g = some es → ∀ e ∈ es, P e
  | some es, _, rfl => exprs h es

theorem orderBy (h : ExprCases P Q) :
    ∀ o : Option (List OrderTerm), ∀ ts, o = some ts → ∀ t ∈ ts, P t.expr
  | some ts, _, rfl => terms h ts

/-- The property of selects holds of all of them. -/
theorem select (h : ExprCases P Q) : ∀ s : Select, Q s
  | ⟨record, fields, sources, js, c, g, o, limit, forUpdate, ds⟩ =>
    h.ofParts ⟨record, fields, sources, js, c, g, o, limit, forUpdate, ds⟩ (definitions h ds) (joins h js)
      (condition h c) (groupBy h g) (orderBy h o)

end

end ExprCases

end RecordSql
