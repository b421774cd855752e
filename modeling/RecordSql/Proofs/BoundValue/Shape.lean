import RecordSql.Proofs.Expression.Likeness
import RecordSql.Statement

/-!
# The shape of a statement

Two statements have the same shape if they differ in bound values only. The values of a statement are
listed in the order of its tree, so that a place in the list is a place in the tree.

- `Statement.values`: the values of a statement in the order of its tree.
- `Statement.Like`, `Statement.SameShape`: alike statements, and statements that differ in values only.
- `Statement.SameShape.like`: values that are related place by place make statements alike.
-/

namespace RecordSql

/-! ### Values in their places -/

/-- The values of a limit as they are bound. -/
def limitValues : Option Limit → List Value
  | none => []
  | some l => [boundedValue l.count, boundedValue l.offset]

mutual

/-- The values of an expression. -/
def Expr.values : Expr → List Value
  | .column _ | .literal _ | .isNull _ => []
  | .value v => [v]
  | .call _ args => exprsValues args
  | .epoch e | .not e => e.values
  | .binary _ l r => l.values ++ r.values
  | .junction _ operands => exprsValues operands
  | .inList _ values => values
  | .exists s => s.values
  | .fullText _ _ query => [.string query]
termination_by structural x => x

/-- The values of several expressions. -/
def exprsValues : List Expr → List Value
  | [] => []
  | e :: es => e.values ++ exprsValues es
termination_by structural x => x

/-- The values of a condition. -/
def Condition.values : Condition → List Value
  | .expr e => e.values
  | .key k => k.values.map (·.2)
  | .multiKey k => k.fixed.map (·.2) ++ k.values
termination_by structural x => x

/-- The values of join conditions. -/
def joinsValues : List Join → List Value
  | [] => []
  | ⟨_, condition, _, _⟩ :: js => condition.values ++ joinsValues js
termination_by structural x => x

/-- The values of the terms of an order. -/
def orderValues : List OrderTerm → List Value
  | [] => []
  | ⟨e, _⟩ :: ts => e.values ++ orderValues ts
termination_by structural x => x

/-- The values of definitions. -/
def definitionsValues : List Definition → List Value
  | [] => []
  | ⟨_, e, _⟩ :: ds => e.values ++ definitionsValues ds
termination_by structural x => x

/-- The values of a restriction. -/
def whereValues : Option Condition → List Value
  | some c => c.values
  | none => []
termination_by structural x => x

/-- The values of groups. -/
def groupsValues : Option (List Expr) → List Value
  | some es => exprsValues es
  | none => []
termination_by structural x => x

/-- The values of an order. -/
def ordersValues : Option (List OrderTerm) → List Value
  | some ts => orderValues ts
  | none => []
termination_by structural x => x

/-- The values of a select, clause by clause. -/
def Select.values : Select → List Value
  | ⟨_, _, _, joins, condition, groupBy, orderBy, limit, _, definitions⟩ =>
    definitionsValues definitions ++ (joinsValues joins ++ (whereValues condition ++
      (groupsValues groupBy ++ (ordersValues orderBy ++ limitValues limit))))
termination_by structural x => x

end

/-- The values of a statement in the order of its tree. -/
def Statement.values : Statement → List Value
  | .select s => s.values
  | .insert i => i.values.map (·.2)
  | .update u => u.assignments.flatMap (fun a => a.2.values) ++ whereValues u.condition
  | .delete d => d.condition.values

/-! ### Alike statements -/

/-- Alike statements. -/
def Statement.Like (L : Likeness) : Statement → Statement → Prop
  | .select s, t => ∃ s', t = .select s' ∧ s.Like L s'
  | .insert i, t => ∃ values, t = .insert { i with values := values } ∧
      FieldValues.Related L.value i.values values
  | .update u, t => ∃ assignments condition,
      t = .update { u with assignments := assignments, condition := condition } ∧
      List.Forall₂ (fun a a' => a'.1 = a.1 ∧ a.2.Like L a'.2) u.assignments assignments ∧
      optionLike (Condition.Like L) u.condition condition
  | .delete d, t => ∃ c, t = .delete { d with condition := c } ∧ d.condition.Like L c

/-- The same columns, and values that are related. -/
def Likeness.ofValues (rel : Value → Value → Prop) : Likeness where
  value := rel
  column c e := e = .column c

/-- Statements that differ in bound values only: lists of values have the same length, and the values of
a key are null at the same places. -/
def Statement.SameShape : Statement → Statement → Prop :=
  Statement.Like (.ofValues fun _ _ => True)

/-! ### Related values in the same places -/

section Related

variable {rel : Value → Value → Prop}

/-- If `xs` and `ys` are as long as each other, and related place by place, something holds. -/
def Placewise (holds : (Value → Value → Prop) → Prop) (xs ys : List Value) : Prop :=
  xs.length = ys.length ∧ ∀ rel, List.Forall₂ rel xs ys → holds rel

namespace Placewise

variable {a b c : (Value → Value → Prop) → Prop} {xs ys xs' ys' : List Value}

theorem mono (h : Placewise a xs ys) (hab : ∀ rel, a rel → b rel) : Placewise b xs ys :=
  ⟨h.1, fun rel hr => hab rel (h.2 rel hr)⟩

theorem nil (h : ∀ rel, a rel) : Placewise a [] [] :=
  ⟨rfl, fun rel _ => h rel⟩

theorem append (h : Placewise a xs ys) (h' : Placewise b xs' ys')
    (hc : ∀ rel, a rel → b rel → c rel) : Placewise c (xs ++ xs') (ys ++ ys') := by
  refine ⟨by rw [List.length_append, List.length_append, h.1, h'.1], fun rel hr => ?_⟩
  have front := List.forall₂_take xs.length hr
  have back := List.forall₂_drop xs.length hr
  rw [List.take_left, h.1, List.take_left] at front
  rw [List.drop_left, h.1, List.drop_left] at back
  exact hc rel (h.2 rel front) (h'.2 rel back)

end Placewise

theorem placewise_values {values values' : List Value}
    (h : List.Forall₂ (fun _ _ => True) values values') :
    Placewise (fun rel => List.Forall₂ rel values values') values values' :=
  ⟨h.length_eq, fun _ hr => hr⟩

theorem placewise_fields {vs vs' : FieldValues} {keeps : Value → Value → Prop}
    (h : FieldValues.Related (fun v v' => True ∧ keeps v v') vs vs') :
    Placewise (fun rel => FieldValues.Related (fun v v' => rel v v' ∧ keeps v v') vs vs')
      (vs.map (·.2)) (vs'.map (·.2)) := by
  induction h with
  | nil => exact .nil fun _ => .nil
  | @cons p p' vs vs' hp _ ih =>
    have first : Placewise (fun rel => rel p.2 p'.2) [p.2] [p'.2] :=
      ⟨rfl, fun rel hr => (List.forall₂_cons.1 hr).1⟩
    exact first.append ih fun rel hv hvs => .cons ⟨hp.1, hv, hp.2.2⟩ hvs

end Related

/-- The relation of values that says nothing. -/
abbrev anyValues : Likeness :=
  .ofValues fun _ _ => True

/-- Expressions of the same shape are alike if their values are related place by place. -/
def PlacedExpr (e : Expr) : Prop :=
  ∀ e', e.Like anyValues e' → Placewise (fun rel => e.Like (.ofValues rel) e') e.values e'.values

/-- Selects of the same shape are alike if their values are related place by place. -/
def PlacedSelect (s : Select) : Prop :=
  ∀ s', s.Like anyValues s' → Placewise (fun rel => s.Like (.ofValues rel) s') s.values s'.values

section Clauses

theorem placewise_exprs : ∀ {es es' : List Expr}, (∀ e ∈ es, PlacedExpr e) →
    exprsLike anyValues es es' →
    Placewise (fun rel => exprsLike (.ofValues rel) es es') (exprsValues es) (exprsValues es')
  | [], _, _, rfl => .nil fun _ => rfl
  | e :: es, _, ih, ⟨x, xs, rfl, hx, hxs⟩ => by
    have rest := placewise_exprs (fun a ha => ih a (List.mem_cons_of_mem e ha)) hxs
    exact (ih e List.mem_cons_self x hx).append rest fun rel h h' => ⟨x, xs, rfl, h, h'⟩

theorem placewise_joins : ∀ {js js' : List Join}, (∀ j ∈ js, PlacedExpr j.condition) →
    joinsLike anyValues js js' →
    Placewise (fun rel => joinsLike (.ofValues rel) js js') (joinsValues js) (joinsValues js')
  | [], _, _, rfl => .nil fun _ => rfl
  | ⟨record, e, kind, tableAlias⟩ :: js, _, ih, ⟨x, xs, rfl, hx, hxs⟩ => by
    have rest := placewise_joins (fun j hj => ih j (List.mem_cons_of_mem _ hj)) hxs
    exact (ih _ List.mem_cons_self x hx).append rest fun rel h h' => ⟨x, xs, rfl, h, h'⟩

theorem placewise_order : ∀ {ts ts' : List OrderTerm}, (∀ t ∈ ts, PlacedExpr t.expr) →
    orderLike anyValues ts ts' →
    Placewise (fun rel => orderLike (.ofValues rel) ts ts') (orderValues ts) (orderValues ts')
  | [], _, _, rfl => .nil fun _ => rfl
  | ⟨e, direction⟩ :: ts, _, ih, ⟨x, xs, rfl, hx, hxs⟩ => by
    have rest := placewise_order (fun t ht => ih t (List.mem_cons_of_mem _ ht)) hxs
    exact (ih _ List.mem_cons_self x hx).append rest fun rel h h' => ⟨x, xs, rfl, h, h'⟩

theorem placewise_definitions {record : RecordType} : ∀ {ds ds' : List Definition},
    (∀ d ∈ ds, PlacedExpr d.expr) → definitionsLike anyValues record ds ds' →
    Placewise (fun rel => definitionsLike (.ofValues rel) record ds ds') (definitionsValues ds)
      (definitionsValues ds')
  | [], _, _, rfl => .nil fun _ => rfl
  | ⟨field, e, kind⟩ :: ds, _, ih, ⟨x, xs, rfl, hx, _, hxs⟩ => by
    have rest := placewise_definitions (fun d hd => ih d (List.mem_cons_of_mem _ hd)) hxs
    exact (ih _ List.mem_cons_self x hx).append rest fun rel h h' => ⟨x, xs, rfl, h, trivial, h'⟩

theorem placewise_key {k k' : Key} (h : k.Like anyValues k') :
    Placewise (fun rel => k.Like (.ofValues rel) k') (k.values.map (·.2)) (k'.values.map (·.2)) :=
  (placewise_fields h.2.1).mono fun _ hv => ⟨h.1, hv, trivial⟩

theorem placewise_multiKey {k k' : MultiKey} (h : k.Like anyValues k') :
    Placewise (fun rel => k.Like (.ofValues rel) k') (k.fixed.map (·.2) ++ k.values)
      (k'.fixed.map (·.2) ++ k'.values) :=
  (placewise_fields h.2.2.1).append (placewise_values h.2.2.2.1) fun _ hf hv =>
    ⟨h.1, h.2.1, hf, hv, trivial⟩

theorem placewise_condition : ∀ {c c' : Condition}, (∀ e, c = .expr e → PlacedExpr e) →
    c.Like anyValues c' → Placewise (fun rel => c.Like (.ofValues rel) c') c.values c'.values
  | .expr e, _, ih, ⟨x, rfl, hx⟩ => (ih e rfl x hx).mono fun _ h => ⟨x, rfl, h⟩
  | .key _, _, _, ⟨k', rfl, hk⟩ => (placewise_key hk).mono fun _ h => ⟨k', rfl, h⟩
  | .multiKey _, _, _, ⟨k', rfl, hk⟩ => (placewise_multiKey hk).mono fun _ h => ⟨k', rfl, h⟩

theorem placewise_where : ∀ {o o' : Option Condition}, (∀ e, o = some (.expr e) → PlacedExpr e) →
    whereLike anyValues o o' →
    Placewise (fun rel => whereLike (.ofValues rel) o o') (whereValues o) (whereValues o')
  | none, _, _, rfl => .nil fun _ => rfl
  | some _, _, ih, ⟨x, rfl, hx⟩ =>
    (placewise_condition (fun e he => ih e (congrArg some he)) hx).mono fun _ h => ⟨x, rfl, h⟩

theorem placewise_groups : ∀ {o o' : Option (List Expr)}, (∀ es, o = some es → ∀ e ∈ es, PlacedExpr e) →
    groupsLike anyValues o o' →
    Placewise (fun rel => groupsLike (.ofValues rel) o o') (groupsValues o) (groupsValues o')
  | none, _, _, rfl => .nil fun _ => rfl
  | some es, _, ih, ⟨xs, rfl, hxs⟩ =>
    (placewise_exprs (ih es rfl) hxs).mono fun _ h => ⟨xs, rfl, h⟩

theorem placewise_orders : ∀ {o o' : Option (List OrderTerm)},
    (∀ ts, o = some ts → ∀ t ∈ ts, PlacedExpr t.expr) → ordersLike anyValues o o' →
    Placewise (fun rel => ordersLike (.ofValues rel) o o') (ordersValues o) (ordersValues o')
  | none, _, _, rfl => .nil fun _ => rfl
  | some ts, _, ih, ⟨xs, rfl, hxs⟩ =>
    (placewise_order (ih ts rfl) hxs).mono fun _ h => ⟨xs, rfl, h⟩

theorem placewise_limit : ∀ {l l' : Option Limit}, anyValues.Limits l l' →
    Placewise (fun rel => (Likeness.ofValues rel).Limits l l') (limitValues l) (limitValues l')
  | none, _, rfl => .nil fun _ => rfl
  | some _, _, ⟨m, rfl, _, _⟩ => by
    refine ⟨rfl, fun rel hr => ?_⟩
    obtain ⟨hcount, hrest⟩ := List.forall₂_cons.1 hr
    exact ⟨m, rfl, hcount, (List.forall₂_cons.1 hrest).1⟩

end Clauses

/-- The cases of the induction: the values of a node are those of its parts, in their order. -/
theorem placed_cases : ExprCases PlacedExpr PlacedSelect := by
  refine ⟨?column, ?literal, ?value, ?call, ?epoch, ?binary, ?junction, ?not, ?isNull, ?inList,
    ?subSelect, ?fullText, ?select⟩
  case column =>
    rintro c _ rfl
    exact .nil fun _ => rfl
  case literal =>
    rintro sql _ rfl
    exact .nil fun _ => rfl
  case value =>
    rintro v _ ⟨v', rfl, _⟩
    exact ⟨rfl, fun rel hr => ⟨v', rfl, (List.forall₂_cons.1 hr).1⟩⟩
  case call =>
    rintro name args ih _ ⟨args', rfl, h⟩
    exact (placewise_exprs ih h).mono fun _ hl => ⟨args', rfl, hl⟩
  case epoch =>
    rintro e ih _ ⟨x, rfl, h⟩
    exact (ih x h).mono fun _ hl => ⟨x, rfl, hl⟩
  case binary =>
    rintro op l r ihl ihr _ ⟨l', r', rfl, hl, hr⟩
    exact (ihl l' hl).append (ihr r' hr) fun _ hl' hr' => ⟨l', r', rfl, hl', hr'⟩
  case junction =>
    rintro op operands ih _ ⟨operands', rfl, h⟩
    exact (placewise_exprs ih h).mono fun _ hl => ⟨operands', rfl, hl⟩
  case not =>
    rintro e ih _ ⟨x, rfl, h⟩
    exact (ih x h).mono fun _ hl => ⟨x, rfl, hl⟩
  case isNull =>
    rintro c _ ⟨rfl, _⟩
    exact .nil fun _ => ⟨rfl, trivial⟩
  case inList =>
    rintro c values _ ⟨values', rfl, _, h⟩
    exact (placewise_values h).mono fun _ hl => ⟨values', rfl, trivial, hl⟩
  case subSelect =>
    rintro s ih _ ⟨s', rfl, h⟩
    exact (ih s' h).mono fun _ hl => ⟨s', rfl, hl⟩
  case fullText =>
    rintro record index query _ ⟨query', rfl, _⟩
    exact ⟨rfl, fun rel hr => ⟨query', rfl, (List.forall₂_cons.1 hr).1⟩⟩
  case select =>
    rintro ⟨record, fields, sources, joins, condition, groupBy, orderBy, limit, forUpdate, definitions⟩
      hdefinitions hjoins hcondition hgroupBy horderBy
      ⟨_, _, _, joins', condition', groupBy', orderBy', limit', _, definitions'⟩
      ⟨rfl, rfl, rfl, rfl, _, hj, hw, hg, ho, hl, hd⟩
    have tail := (placewise_orders horderBy ho).append (placewise_limit hl) fun _ h h' => And.intro h h'
    have groups := (placewise_groups hgroupBy hg).append tail fun _ h h' => And.intro h h'
    have restricted := (placewise_where hcondition hw).append groups fun _ h h' => And.intro h h'
    have joined := (placewise_joins hjoins hj).append restricted fun _ h h' => And.intro h h'
    refine (placewise_definitions hdefinitions hd).append joined fun _ h h' => ?_
    obtain ⟨hj', hw', hg', ho', hl'⟩ := h'
    exact ⟨rfl, rfl, rfl, rfl, trivial, hj', hw', hg', ho', hl', h⟩

theorem Expr.placed (e : Expr) : PlacedExpr e :=
  placed_cases.expr e

theorem placewise_assignments : ∀ {as as' : List (String × Expr)},
    List.Forall₂ (fun a a' => a'.1 = a.1 ∧ a.2.Like anyValues a'.2) as as' →
    Placewise (fun rel => List.Forall₂ (fun a a' => a'.1 = a.1 ∧ a.2.Like (.ofValues rel) a'.2) as as')
      (as.flatMap fun a => a.2.values) (as'.flatMap fun a => a.2.values)
  | [], [], .nil => .nil fun _ => .nil
  | a :: as, a' :: as', .cons h hs => by
    rw [List.flatMap_cons, List.flatMap_cons]
    exact (a.2.placed a'.2 h.2).append (placewise_assignments hs) fun _ ha has => .cons ⟨h.1, ha⟩ has

/-- Statements of the same shape are alike if their values are related place by place. -/
theorem Statement.SameShape.like {s t : Statement} (h : s.SameShape t) :
    Placewise (fun rel => s.Like (.ofValues rel) t) s.values t.values := by
  cases s with
  | select s =>
    obtain ⟨s', rfl, hs⟩ := h
    exact (placed_cases.select s s' hs).mono fun _ hl => ⟨s', rfl, hl⟩
  | insert i =>
    obtain ⟨values, rfl, hv⟩ := h
    have fields : Placewise (fun rel => FieldValues.Related rel i.values values)
        (i.values.map (·.2)) (values.map (·.2)) := by
      have anything : FieldValues.Related (fun _ _ => True ∧ True) i.values values :=
        hv.imp fun p q hpq => ⟨hpq.1, trivial, trivial⟩
      exact (placewise_fields anything).mono fun rel hr => hr.imp fun p q hpq => ⟨hpq.1, hpq.2.1⟩
    exact fields.mono fun _ hl => ⟨values, rfl, hl⟩
  | update u =>
    obtain ⟨assignments, condition, rfl, ha, hc⟩ := h
    have restricted := placewise_where (fun e _ => e.placed) (whereLike_iff.2 hc)
    exact (placewise_assignments ha).append restricted fun _ h h' =>
      ⟨assignments, condition, rfl, h, whereLike_iff.1 h'⟩
  | delete d =>
    obtain ⟨c, rfl, hc⟩ := h
    exact (placewise_condition (fun e _ => e.placed) hc).mono fun _ hl => ⟨c, rfl, hl⟩

end RecordSql
