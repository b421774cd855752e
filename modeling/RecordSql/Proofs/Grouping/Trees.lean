import RecordSql.Proofs.Expression.Induction
import RecordSql.Proofs.Grouping.Reading
import RecordSql.Proofs.Rendering.Parts

/-!
# Expressions and what is read of them

An expression says one thing, and its text another one where an operand binds less than the operator that
it stands beside: parentheses are written around binary operators and junctions alone.

- `Expr.tree?`: what an expression says, for the expressions that operators are written with.
- `Expr.operand`, `Expr.flat?`: what the reading of its text makes of it.
- `Expr.Grouped`: no operand binds less than its operator.
- `read_iff_grouped`: both are the same for grouped expressions, and for no others.
-/

namespace RecordSql

open Grouping

/-! ### What an expression says -/

/-- A reference that stands for a name or for a column of a table. -/
def Frame.column? (f : Frame) (c : FieldRef) : Option Term :=
  match f.resolve .plain c with
  | .ok (.name n) => some (.column none n)
  | .ok (.column label n) => some (.column (some label.name) n)
  | _ => none

mutual

/-- What an expression says that is built from columns, values, operators, junctions of at least two
operands, negations and comparisons with null and with lists. -/
def Expr.tree? (f : Frame) : Expr → Option Term
  | .column c => f.column? c
  | .value v => some (.value v)
  | .binary op l r => (l.tree? f).bind fun a => (r.tree? f).map fun b => .binary op a b
  | .junction op operands =>
    (exprsTrees f operands).bind fun ts => if 2 ≤ ts.length then some (.junction op ts) else none
  | .not e => (e.tree? f).map .not
  | .isNull c => (f.column? c).map .isNull
  | .inList c values => (f.column? c).map fun t => .among t values
  | .literal _ | .call .. | .epoch _ | .exists _ | .fullText .. => none
termination_by structural x => x

/-- What several expressions say. -/
def exprsTrees (f : Frame) : List Expr → Option (List Term)
  | [] => some []
  | e :: es => (e.tree? f).bind fun t => (exprsTrees f es).map (t :: ·)
termination_by structural x => x

end

/-! ### Grouping -/

/-- An expression that may stand in front of an operator: negations bind less than all of them, comparisons
with null and with lists as much as other comparisons. -/
def Expr.StandsBefore (op : Operator) : Expr → Prop
  | .not _ => False
  | .isNull _ | .inList .. => level op = .comparison
  | _ => True

/-- An expression that may stand behind an operator. -/
def Expr.StandsBehind : Expr → Prop
  | .not _ | .isNull _ | .inList .. => False
  | _ => True

mutual

/-- No operand of a binary operator binds less than the operator. -/
def Expr.Grouped : Expr → Prop
  | .binary op l r => (l.Grouped ∧ r.Grouped) ∧ l.StandsBefore op ∧ r.StandsBehind
  | .junction _ operands => exprsGrouped operands
  | .not e => e.Grouped
  | _ => True
termination_by structural x => x

/-- All of several expressions are grouped. -/
def exprsGrouped : List Expr → Prop
  | [] => True
  | e :: es => e.Grouped ∧ exprsGrouped es
termination_by structural x => x

end

/-! ### What is read -/

/-- An expression as an operand, given what is read where it begins. -/
def Expr.operand : Expr → Term → Operand
  | .not _, t => .negated t
  | .isNull _, t => .isNull t
  | .inList _ values, t => .among t values
  | _, t => .plain t

mutual

/-- What is read of the text of an expression, but for the negation or the comparison that makes it an
operand of its kind. -/
def Expr.core? (f : Frame) : Expr → Option Term
  | .column c | .isNull c | .inList c _ => f.column? c
  | .value v => some (.value v)
  | .binary op l r => (l.core? f).bind fun a => (r.core? f).bind fun b =>
    Operand.between op (l.operand a) (r.operand b)
  | .junction op operands => (exprsRead f operands).map (.junction op)
  | .not e => (e.core? f).map fun t => (e.operand t).term
  | .literal _ | .call .. | .epoch _ | .exists _ | .fullText .. => none
termination_by structural x => x

/-- What is read of the texts of several expressions. -/
def exprsRead (f : Frame) : List Expr → Option (List Term)
  | [] => some []
  | e :: es => (e.core? f).bind fun t => (exprsRead f es).map ((e.operand t).term :: ·)
termination_by structural x => x

end

/-- What is read of the text of an expression. -/
def Expr.read (f : Frame) (e : Expr) : Option Term :=
  (e.core? f).map fun t => (e.operand t).term

/-- The elements of the text of an expression, operands between parentheses read. -/
def Expr.flat? (f : Frame) : Expr → Option (List Element)
  | .binary op l r => (l.core? f).bind fun a => (r.core? f).map fun b =>
    (l.operand a).elements ++ .operator op :: (r.operand b).elements
  | .junction op operands => (exprsRead f operands).map (chained op)
  | e => (e.core? f).map fun t => (e.operand t).elements

section Reading

variable {f : Frame}

/-- A list is read if its items are, one by one. -/
theorem mapM_some_iff {α β : Type} {g : α → Option β} {xs : List α} {ys : List β} :
    xs.mapM g = some ys ↔ List.Forall₂ (fun x y => g x = some y) xs ys := by
  induction xs generalizing ys with
  | nil =>
    rw [List.mapM_nil, List.forall₂_nil_left_iff]
    exact Option.some_inj.trans eq_comm
  | cons x xs ih =>
    rw [List.mapM_cons, List.forall₂_cons_left_iff]
    constructor
    · intro h
      obtain ⟨y, hy, h⟩ := Option.bind_eq_some_iff.1 h
      obtain ⟨rest, hrest, h⟩ := Option.bind_eq_some_iff.1 h
      cases h
      exact ⟨y, rest, hy, ih.1 hrest, rfl⟩
    · rintro ⟨y, rest, hy, hrest, rfl⟩
      rw [hy, ih.2 hrest]
      rfl

theorem exprsRead_eq (es : List Expr) : exprsRead f es = es.mapM (Expr.read f) := by
  induction es with
  | nil => rfl
  | cons e es ih =>
    rw [List.mapM_cons, ← ih]
    show (e.core? f).bind _ = ((e.core? f).map _).bind _
    cases e.core? f with
    | none => rfl
    | some t => cases exprsRead f es <;> rfl

theorem exprsTrees_eq (es : List Expr) : exprsTrees f es = es.mapM (Expr.tree? f) := by
  induction es with
  | nil => rfl
  | cons e es ih =>
    rw [List.mapM_cons, ← ih]
    show (e.tree? f).bind _ = (e.tree? f).bind _
    cases e.tree? f with
    | none => rfl
    | some t => cases exprsTrees f es <;> rfl

/-- An expression of which the beginning is read alone says what its operand does. -/
theorem isInfix_operand {e : Expr} (h : e.isInfix = true) (t : Term) : e.operand t = .plain t := by
  cases e with
  | binary _ _ _ => rfl
  | junction _ _ => rfl
  | _ => cases h

theorem beforeOperator_iff (op : Operator) (e : Expr) (t : Term) :
    (e.operand t).BeforeOperator op ↔ e.StandsBefore op := by
  cases e <;> exact Iff.rfl

theorem afterOperator_iff (e : Expr) (t : Term) :
    (e.operand t).AfterOperator ↔ e.StandsBehind := by
  cases e <;> exact Iff.rfl

/-- Operands say what was read of them. -/
theorem read_binary {op : Operator} {l r : Expr} :
    (Expr.binary op l r).read f = (l.core? f).bind fun a => (r.core? f).bind fun b =>
      Operand.between op (l.operand a) (r.operand b) :=
  Option.map_id'

theorem exprsGrouped_iff {es : List Expr} : exprsGrouped es ↔ ∀ e ∈ es, e.Grouped := by
  induction es with
  | nil => exact iff_of_true trivial (List.forall_mem_nil _)
  | cons e es ih =>
    rw [List.forall_mem_cons, ← ih]
    exact Iff.rfl

/-- Several expressions are read as what they say if each of them is. -/
theorem exprsRead_iff {es : List Expr} {ts : List Term}
    (ih : ∀ e ∈ es, ∀ t, e.tree? f = some t → (e.read f = some t ↔ e.Grouped))
    (h : exprsTrees f es = some ts) : exprsRead f es = some ts ↔ exprsGrouped es := by
  rw [exprsTrees_eq, mapM_some_iff] at h
  rw [exprsRead_eq, exprsGrouped_iff, mapM_some_iff]
  induction h with
  | nil => simp
  | @cons e t es ts ht _ rest =>
    rw [List.forall₂_cons, List.forall_mem_cons, ih e List.mem_cons_self t ht]
    exact and_congr_right' (rest fun e' he => ih e' (List.mem_cons_of_mem e he))

/-- A binary operator is read as one of what its operands say if it may stand between them. -/
theorem read_binary_iff {op : Operator} {l r : Expr} {a b : Term}
    (hl : l.read f = some a ↔ l.Grouped) (hr : r.read f = some b ↔ r.Grouped) :
    (Expr.binary op l r).read f = some (.binary op a b) ↔ (Expr.binary op l r).Grouped := by
  show _ ↔ (l.Grouped ∧ r.Grouped) ∧ l.StandsBefore op ∧ r.StandsBehind
  rw [← hl, ← hr, read_binary, Expr.read, Expr.read]
  cases l.core? f with
  | none => exact iff_of_false nofun fun h => nomatch h.1.1
  | some x =>
    cases r.core? f with
    | none => exact iff_of_false nofun fun h => nomatch h.1.2
    | some y =>
      show Operand.between op (l.operand x) (r.operand y) = _ ↔
        (some (l.operand x).term = _ ∧ some (r.operand y).term = _) ∧ _
      rw [← beforeOperator_iff op l x, ← afterOperator_iff r y]
      by_cases h : (l.operand x).BeforeOperator op ∧ (r.operand y).AfterOperator
      · rw [between_operands h.1 h.2]
        simp [h]
      · refine iff_of_false (fun heq => ?_) fun hall => h hall.2
        have hnot := between_misplaced h
        rw [heq] at hnot
        cases hnot

/-- The text of an expression is read as what the expression says exactly if it is grouped. -/
theorem read_iff_grouped {e : Expr} {t : Term} (h : e.tree? f = some t) :
    e.read f = some t ↔ e.Grouped := by
  have cases : ExprCases (fun e => ∀ t, e.tree? f = some t → (e.read f = some t ↔ e.Grouped))
      (fun _ => True) := by
    refine ⟨?column, nofun, ?value, nofun, nofun, ?binary, ?junction, ?not, ?isNull, ?inList, nofun,
      nofun, fun _ _ _ _ _ _ => trivial⟩
    case column =>
      intro c t h
      refine iff_of_true ?_ trivial
      rw [Expr.read, show (Expr.column c).core? f = some t from h]
      rfl
    case value =>
      rintro v t h
      cases h
      exact iff_of_true rfl trivial
    case binary =>
      intro op l r ihl ihr t h
      obtain ⟨a, ha, h⟩ := Option.bind_eq_some_iff.1 h
      obtain ⟨b, hb, rfl⟩ := Option.map_eq_some_iff.1 h
      exact read_binary_iff (ihl a ha) (ihr b hb)
    case junction =>
      intro op operands ih t h
      obtain ⟨ts, hts, h⟩ := Option.bind_eq_some_iff.1 h
      obtain ⟨-, heq⟩ := Option.ite_none_right_eq_some.1 h
      cases heq
      have all := exprsRead_iff ih hts
      show Option.map _ ((exprsRead f operands).map _) = _ ↔ exprsGrouped operands
      rw [← all, Option.map_map]
      cases exprsRead f operands with
      | none => exact iff_of_false (by simp) (by simp)
      | some us => simp [Expr.operand, Operand.term]
    case not =>
      intro e ih t h
      obtain ⟨u, hu, rfl⟩ := Option.map_eq_some_iff.1 h
      have inner := ih u hu
      show Option.map _ ((e.core? f).map _) = _ ↔ e.Grouped
      rw [← inner, Expr.read, Option.map_map]
      cases e.core? f with
      | none => exact iff_of_false (by simp) (by simp)
      | some x => simp [Expr.operand, Operand.term]
    case isNull =>
      intro c t h
      refine iff_of_true ?_ trivial
      obtain ⟨u, hu, rfl⟩ := Option.map_eq_some_iff.1 h
      rw [Expr.read, show (Expr.isNull c).core? f = some u from hu]
      rfl
    case inList =>
      intro c values t h
      refine iff_of_true ?_ trivial
      obtain ⟨u, hu, rfl⟩ := Option.map_eq_some_iff.1 h
      rw [Expr.read, show (Expr.inList c values).core? f = some u from hu]
      rfl
  exact cases.expr e t h

theorem exprsRead_length {es : List Expr} {ts : List Term} (h : exprsRead f es = some ts) :
    ts.length = es.length := by
  rw [exprsRead_eq, mapM_some_iff] at h
  exact h.length_eq.symm

theorem exprsTrees_length {es : List Expr} {ts : List Term} (h : exprsTrees f es = some ts) :
    ts.length = es.length := by
  rw [exprsTrees_eq, mapM_some_iff] at h
  exact h.length_eq.symm

/-- The elements of a text are put together to what is read of it. -/
theorem reduce_flat {e : Expr} {t : Term} (h : e.tree? f = some t) :
    (e.flat? f).bind reduce = e.read f := by
  have operand : ∀ o : Option Term, (o.map fun t => (e.operand t).elements).bind reduce =
      o.map fun t => (e.operand t).term := by
    intro o
    cases o with
    | none => rfl
    | some t =>
      rw [Option.map_some, Option.bind_some, reduce_elements]
      rfl
  cases e with
  | binary op l r =>
    rw [read_binary]
    show (Option.bind _ _).bind reduce = _
    cases l.core? f with
    | none => rfl
    | some a =>
      cases r.core? f with
      | none => rfl
      | some b =>
        rw [Option.bind_some, Option.map_some, Option.bind_some, reduce_between]
        rfl
  | junction op operands =>
    obtain ⟨ts, hts, h⟩ := Option.bind_eq_some_iff.1 h
    have htwo := (Option.ite_none_right_eq_some.1 h).1
    show ((exprsRead f operands).map (chained op)).bind reduce = ((exprsRead f operands).map _).map _
    cases hus : exprsRead f operands with
    | none => rfl
    | some us =>
      have hmany : 2 ≤ us.length := by rwa [exprsRead_length hus, ← exprsTrees_length hts]
      rw [Option.map_some, Option.bind_some, reduce_chained op hmany]
      rfl
  | column c => exact operand _
  | value v => exact operand (some (.value v))
  | not e => exact operand _
  | isNull c => exact operand _
  | inList c values => exact operand _
  | _ => cases h

end Reading

end RecordSql
