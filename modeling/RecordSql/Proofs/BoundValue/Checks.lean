import RecordSql.Proofs.Binding.Opening
import RecordSql.Proofs.BoundValue.Shape
import RecordSql.Proofs.Expression.Records
import RecordSql.Proofs.Outcome
import RecordSql.Statement.Binding

/-!
# Checks do not look at bound values

What is done before a statement is written depends on its shape alone: which records it refers to, how
many definitions it has, and whether its references are bound.

- `Checked`: expressions for which all of this is the same.
- `Statement.SameShape.records_eq`, `Statement.SameShape.verify_eq`: statements of the same shape.
-/

namespace RecordSql

/-! ### Definitions of a select -/

/-- The number of definitions in groups. -/
def groupsDefinitionCount : Option (List Expr) → Nat
  | some es => exprsDefinitionCount es
  | none => 0

/-- The number of definitions in an order. -/
def ordersDefinitionCount : Option (List OrderTerm) → Nat
  | some ts => orderDefinitionCount ts
  | none => 0

theorem Select.definitionCount_eq (s : Select) :
    s.definitionCount = definitionsCount s.definitions + joinsDefinitionCount s.joins +
      conditionDefinitionCount s.condition + groupsDefinitionCount s.groupBy +
      ordersDefinitionCount s.orderBy := by
  obtain ⟨record, names, sources, joins, condition, groupBy, orderBy, limit, forUpdate, definitions⟩ := s
  cases condition <;> cases groupBy <;> cases orderBy <;> rfl

/-! ### Expressions of the same shape -/

/-- What is done before writing is the same for both expressions. -/
structure Checked (e e' : Expr) : Prop where
  records : e'.records = e.records
  count : e'.definitionCount = e.definitionCount
  check : ∀ g scopes place, verifyExpr g scopes place e' = verifyExpr g scopes place e

/-- What is done before writing is the same for both selects. -/
structure CheckedSelect (s s' : Select) : Prop where
  records : s'.records = s.records
  count : s'.definitionCount = s.definitionCount
  check : ∀ g outer, verifySelect g outer s' = verifySelect g outer s

section Clauses

/-- Several expressions one by one. -/
structure CheckedAll (es es' : List Expr) : Prop where
  records : exprsRecords es' = exprsRecords es
  count : exprsDefinitionCount es' = exprsDefinitionCount es
  check : ∀ g scopes place, verifyExprs g scopes place es' = verifyExprs g scopes place es

/-- A condition, if there is one. -/
structure CheckedWhere (o o' : Option Condition) : Prop where
  records : whereRecords o' = whereRecords o
  count : conditionDefinitionCount o' = conditionDefinitionCount o
  check : ∀ g scopes target, verifyWhere g scopes target o' = verifyWhere g scopes target o

theorem checkedAll : ∀ {es es' : List Expr}, (∀ e ∈ es, ∀ e', e.Like anyValues e' → Checked e e') →
    exprsLike anyValues es es' → CheckedAll es es'
  | [], _, _, rfl => ⟨rfl, rfl, fun _ _ _ => rfl⟩
  | e :: es, _, ih, ⟨x, xs, rfl, hx, hxs⟩ => by
    have first := ih e List.mem_cons_self x hx
    have rest := checkedAll (fun a ha => ih a (List.mem_cons_of_mem e ha)) hxs
    refine ⟨?_, ?_, fun g scopes place => ?_⟩
    · exact congrArg₂ (· ++ ·) first.records rest.records
    · exact congrArg₂ (· + ·) first.count rest.count
    · show (verifyExpr g scopes place x >>= fun _ => _) = (verifyExpr g scopes place e >>= fun _ => _)
      rw [first.check, rest.check]

theorem checkedCondition {c c' : Condition}
    (ih : ∀ e, c = .expr e → ∀ e', e.Like anyValues e' → Checked e e') (h : c.Like anyValues c') :
    c'.records = c.records ∧ c'.definitionCount = c.definitionCount ∧
      ∀ g scopes place, verifyCondition g scopes place c' = verifyCondition g scopes place c := by
  cases c with
  | expr e =>
    obtain ⟨x, rfl, hx⟩ := h
    have checked := ih e rfl x hx
    exact ⟨checked.records, checked.count, checked.check⟩
  | key k =>
    obtain ⟨k', rfl, hrecord, _⟩ := h
    refine ⟨congrArg (fun r => [r]) hrecord, rfl, fun g scopes place => ?_⟩
    exact congrArg (verifyRecord scopes place) hrecord
  | multiKey k =>
    obtain ⟨k', rfl, hrecord, _⟩ := h
    refine ⟨congrArg (fun r => [r]) hrecord, rfl, fun g scopes place => ?_⟩
    exact congrArg (verifyRecord scopes place) hrecord

theorem checkedWhere {o o' : Option Condition}
    (ih : ∀ e, o = some (.expr e) → ∀ e', e.Like anyValues e' → Checked e e')
    (h : whereLike anyValues o o') : CheckedWhere o o' := by
  cases o with
  | none =>
    rw [show o' = none from h]
    exact ⟨rfl, rfl, fun _ _ _ => rfl⟩
  | some c =>
    obtain ⟨c', rfl, hc⟩ := h
    obtain ⟨hrecords, hcount, hcheck⟩ := checkedCondition (fun e he => ih e (congrArg some he)) hc
    exact ⟨hrecords, hcount, fun g scopes target => hcheck g scopes (.condition target)⟩

/-- Joins one by one. -/
structure CheckedJoins (js js' : List Join) : Prop where
  records : joinsRecords js' = joinsRecords js
  count : joinsDefinitionCount js' = joinsDefinitionCount js
  check : ∀ g scopes target, verifyJoins g scopes target js' = verifyJoins g scopes target js
  bind : ∀ g outer target scope, js'.foldlM (bindJoin g outer target) scope =
    js.foldlM (bindJoin g outer target) scope

theorem checkedJoins : ∀ {js js' : List Join},
    (∀ j ∈ js, ∀ e', j.condition.Like anyValues e' → Checked j.condition e') →
    joinsLike anyValues js js' → CheckedJoins js js'
  | [], _, _, rfl => ⟨rfl, rfl, fun _ _ _ => rfl, fun _ _ _ _ => rfl⟩
  | ⟨record, e, kind, tableAlias⟩ :: js, _, ih, ⟨x, xs, rfl, hx, hxs⟩ => by
    have first := ih _ List.mem_cons_self x hx
    have rest := checkedJoins (fun j hj => ih j (List.mem_cons_of_mem _ hj)) hxs
    refine ⟨?_, ?_, fun g scopes target => ?_, fun g outer target scope => ?_⟩
    · show record :: x.records ++ joinsRecords xs = record :: e.records ++ joinsRecords js
      rw [first.records, rest.records]
    · exact congrArg₂ (· + ·) first.count rest.count
    · show (verifyExpr g scopes _ x >>= fun _ => _) = (verifyExpr g scopes _ e >>= fun _ => _)
      rw [first.check, rest.check]
    · rw [List.foldlM_cons, List.foldlM_cons]
      exact congrArg _ (funext fun scope => rest.bind g outer target scope)

theorem CheckedJoins.openScope_eq {js js' : List Join} (h : CheckedJoins js js') (g : Registry)
    (outer : Scopes) (record : RecordType) (sources : Option (List RecordType)) :
    openScope g outer record sources js' = openScope g outer record sources js := by
  unfold openScope
  simp only [h.bind]

/-- Terms of an order one by one. -/
structure CheckedOrder (ts ts' : List OrderTerm) : Prop where
  records : orderRecords ts' = orderRecords ts
  count : orderDefinitionCount ts' = orderDefinitionCount ts
  check : ∀ g scopes place, verifyOrder g scopes place ts' = verifyOrder g scopes place ts

theorem checkedOrder : ∀ {ts ts' : List OrderTerm},
    (∀ t ∈ ts, ∀ e', t.expr.Like anyValues e' → Checked t.expr e') →
    orderLike anyValues ts ts' → CheckedOrder ts ts'
  | [], _, _, rfl => ⟨rfl, rfl, fun _ _ _ => rfl⟩
  | ⟨e, direction⟩ :: ts, _, ih, ⟨x, xs, rfl, hx, hxs⟩ => by
    have first := ih _ List.mem_cons_self x hx
    have rest := checkedOrder (fun t ht => ih t (List.mem_cons_of_mem _ ht)) hxs
    refine ⟨?_, ?_, fun g scopes place => ?_⟩
    · exact congrArg₂ (· ++ ·) first.records rest.records
    · exact congrArg₂ (· + ·) first.count rest.count
    · show (verifyExpr g scopes place x >>= fun _ => _) = (verifyExpr g scopes place e >>= fun _ => _)
      rw [first.check, rest.check]

/-- Groups, if there are any. -/
structure CheckedGroups (o o' : Option (List Expr)) : Prop where
  records : groupsRecords o' = groupsRecords o
  count : groupsDefinitionCount o' = groupsDefinitionCount o
  check : ∀ g scopes target, verifyGroups g scopes target o' = verifyGroups g scopes target o

theorem checkedGroups {o o' : Option (List Expr)}
    (ih : ∀ es, o = some es → ∀ e ∈ es, ∀ e', e.Like anyValues e' → Checked e e')
    (h : groupsLike anyValues o o') : CheckedGroups o o' := by
  cases o with
  | none =>
    rw [show o' = none from h]
    exact ⟨rfl, rfl, fun _ _ _ => rfl⟩
  | some es =>
    obtain ⟨xs, rfl, hxs⟩ := h
    have all := checkedAll (ih es rfl) hxs
    exact ⟨all.records, all.count, fun g scopes target => all.check g scopes (.groupBy target)⟩

/-- An order, if there is one. -/
structure CheckedOrders (o o' : Option (List OrderTerm)) : Prop where
  records : ordersRecords o' = ordersRecords o
  count : ordersDefinitionCount o' = ordersDefinitionCount o
  check : ∀ g scopes target, verifyOrders g scopes target o' = verifyOrders g scopes target o

theorem checkedOrders {o o' : Option (List OrderTerm)}
    (ih : ∀ ts, o = some ts → ∀ t ∈ ts, ∀ e', t.expr.Like anyValues e' → Checked t.expr e')
    (h : ordersLike anyValues o o') : CheckedOrders o o' := by
  cases o with
  | none =>
    rw [show o' = none from h]
    exact ⟨rfl, rfl, fun _ _ _ => rfl⟩
  | some ts =>
    obtain ⟨xs, rfl, hxs⟩ := h
    have all := checkedOrder (ih ts rfl) hxs
    exact ⟨all.records, all.count, fun g scopes target => all.check g scopes (.orderBy target)⟩

/-- Definitions one by one. -/
structure CheckedDefinitions (ds ds' : List Definition) : Prop where
  records : definitionsRecords ds' = definitionsRecords ds
  count : definitionsCount ds' = definitionsCount ds
  check : ∀ g scopes target, verifyDefined g scopes target ds' = verifyDefined g scopes target ds
  fit : ∀ g record, verifyDefinitions g record ds' = verifyDefinitions g record ds

theorem checkedDefinitions {record : RecordType} : ∀ {ds ds' : List Definition},
    (∀ d ∈ ds, ∀ e', d.expr.Like anyValues e' → Checked d.expr e') →
    definitionsLike anyValues record ds ds' → CheckedDefinitions ds ds'
  | [], _, _, rfl => ⟨rfl, rfl, fun _ _ _ => rfl, fun _ _ => rfl⟩
  | ⟨field, e, kind⟩ :: ds, _, ih, ⟨x, xs, rfl, hx, _, hxs⟩ => by
    have first := ih _ List.mem_cons_self x hx
    have rest := checkedDefinitions (fun d hd => ih d (List.mem_cons_of_mem _ hd)) hxs
    refine ⟨?_, ?_, fun g scopes target => ?_, fun g r => ?_⟩
    · exact congrArg₂ (· ++ ·) first.records rest.records
    · show 1 + x.definitionCount + definitionsCount xs = 1 + e.definitionCount + definitionsCount ds
      rw [first.count, rest.count]
    · show (verifyExpr g scopes _ x >>= fun _ => _) = (verifyExpr g scopes _ e >>= fun _ => _)
      rw [first.check, rest.check]
    · have hrest := rest.fit g r
      unfold verifyDefinitions at hrest ⊢
      cases hs : g.schema r with
      | error _ => rfl
      | ok schema =>
        rw [hs] at hrest
        show (verifyDefinition schema r field kind >>= fun _ => xs.forM _) =
          (verifyDefinition schema r field kind >>= fun _ => ds.forM _)
        rw [show (xs.forM fun d => verifyDefinition schema r d.field d.kind) = ds.forM _ from hrest]

end Clauses

/-- The cases of the induction: no check looks at a value. -/
theorem checked_cases : ExprCases (fun e => ∀ e', e.Like anyValues e' → Checked e e')
    (fun s => ∀ s', s.Like anyValues s' → CheckedSelect s s') := by
  refine ⟨?column, ?literal, ?value, ?call, ?epoch, ?binary, ?junction, ?not, ?isNull, ?inList,
    ?subSelect, ?fullText, ?select⟩
  case column =>
    rintro c _ rfl
    exact ⟨rfl, rfl, fun _ _ _ => rfl⟩
  case literal =>
    rintro sql _ rfl
    exact ⟨rfl, rfl, fun _ _ _ => rfl⟩
  case value =>
    rintro v _ ⟨v', rfl, _⟩
    exact ⟨rfl, rfl, fun _ _ _ => rfl⟩
  case call =>
    rintro name args ih _ ⟨args', rfl, h⟩
    have all := checkedAll ih h
    exact ⟨all.records, all.count, all.check⟩
  case epoch =>
    rintro e ih _ ⟨x, rfl, h⟩
    have part := ih x h
    exact ⟨part.records, part.count, part.check⟩
  case binary =>
    rintro op l r ihl ihr _ ⟨l', r', rfl, hl, hr⟩
    have left := ihl l' hl
    have right := ihr r' hr
    refine ⟨congrArg₂ (· ++ ·) left.records right.records, congrArg₂ (· + ·) left.count right.count,
      fun g scopes place => ?_⟩
    show (verifyExpr g scopes place l' >>= fun _ => _) = (verifyExpr g scopes place l >>= fun _ => _)
    rw [left.check, right.check]
  case junction =>
    rintro op operands ih _ ⟨operands', rfl, h⟩
    have all := checkedAll ih h
    exact ⟨all.records, all.count, all.check⟩
  case not =>
    rintro e ih _ ⟨x, rfl, h⟩
    have part := ih x h
    exact ⟨part.records, part.count, part.check⟩
  case isNull =>
    rintro c _ ⟨rfl, _⟩
    exact ⟨rfl, rfl, fun _ _ _ => rfl⟩
  case inList =>
    rintro c values _ ⟨values', rfl, _⟩
    exact ⟨rfl, rfl, fun _ _ _ => rfl⟩
  case subSelect =>
    rintro s ih _ ⟨s', rfl, h⟩
    have part := ih s' h
    exact ⟨part.records, part.count, fun g scopes _ => part.check g scopes⟩
  case fullText =>
    rintro record index query _ ⟨query', rfl, _⟩
    exact ⟨rfl, rfl, fun _ _ _ => rfl⟩
  case select =>
    rintro ⟨record, fields, sources, joins, condition, groupBy, orderBy, limit, forUpdate, definitions⟩
      hdefinitions hjoins hcondition hgroupBy horderBy
      ⟨_, _, _, joins', condition', groupBy', orderBy', limit', _, definitions'⟩
      ⟨rfl, rfl, rfl, rfl, _, hj, hw, hg, ho, _, hd⟩
    have definitions := checkedDefinitions hdefinitions hd
    have joins := checkedJoins hjoins hj
    have restriction := checkedWhere hcondition hw
    have groups := checkedGroups hgroupBy hg
    have order := checkedOrders horderBy ho
    refine ⟨?_, ?_, fun g outer => ?_⟩
    · rw [Select.records_eq, Select.records_eq]
      dsimp only
      rw [definitions.records, joins.records, restriction.records, groups.records, order.records]
    · rw [Select.definitionCount_eq, Select.definitionCount_eq]
      dsimp only
      rw [definitions.count, joins.count, restriction.count, groups.count, order.count]
    · rw [verifySelect_eq, verifySelect_eq]
      dsimp only
      rw [joins.openScope_eq]
      simp only [definitions.fit, definitions.check, joins.check, restriction.check, groups.check,
        order.check]

theorem Expr.Like.checked {e e' : Expr} (h : e.Like anyValues e') : Checked e e' :=
  checked_cases.expr e e' h

theorem Select.Like.checked {s s' : Select} (h : s.Like anyValues s') : CheckedSelect s s' :=
  checked_cases.select s s' h

/-- Assignments one by one. -/
structure CheckedAssignments (as as' : List (String × Expr)) : Prop where
  records : as'.flatMap (fun a => a.2.records) = as.flatMap fun a => a.2.records
  count : exprsDefinitionCount (as'.map (·.2)) = exprsDefinitionCount (as.map (·.2))
  check : ∀ g scopes target,
    verifyAssignments g scopes target as' = verifyAssignments g scopes target as

theorem checkedAssignments : ∀ {as as' : List (String × Expr)},
    List.Forall₂ (fun a a' => a'.1 = a.1 ∧ a.2.Like anyValues a'.2) as as' → CheckedAssignments as as'
  | [], [], .nil => ⟨rfl, rfl, fun _ _ _ => rfl⟩
  | a :: as, a' :: as', .cons h hs => by
    have first := h.2.checked
    have rest := checkedAssignments hs
    refine ⟨?_, congrArg₂ (· + ·) first.count rest.count, fun g scopes target => ?_⟩
    · rw [List.flatMap_cons, List.flatMap_cons, first.records, rest.records]
    · show (verifyExpr g scopes _ a'.2 >>= fun _ => verifyAssignments g scopes target as') =
        (verifyExpr g scopes _ a.2 >>= fun _ => verifyAssignments g scopes target as)
      rw [rest.check, h.1, first.check]

/-! ### Statements of the same shape -/

namespace Statement.SameShape

variable {s t : Statement}

theorem kind_eq (h : s.SameShape t) : t.kind = s.kind := by
  cases s with
  | select s => obtain ⟨_, rfl, _⟩ := h; rfl
  | insert i => obtain ⟨_, rfl, _⟩ := h; rfl
  | update u => obtain ⟨_, _, rfl, _⟩ := h; rfl
  | delete d => obtain ⟨_, rfl, _⟩ := h; rfl

theorem record_eq (h : s.SameShape t) : t.record = s.record := by
  cases s with
  | select s =>
    obtain ⟨s', rfl, hs⟩ := h
    exact (Select.like_iff.1 hs).record
  | insert i => obtain ⟨_, rfl, _⟩ := h; rfl
  | update u => obtain ⟨_, _, rfl, _⟩ := h; rfl
  | delete d => obtain ⟨_, rfl, _⟩ := h; rfl

theorem records_eq (h : s.SameShape t) : t.records = s.records := by
  cases s with
  | select s =>
    obtain ⟨s', rfl, hs⟩ := h
    exact hs.checked.records
  | insert i => obtain ⟨_, rfl, _⟩ := h; rfl
  | update u =>
    obtain ⟨assignments, condition, rfl, ha, hc⟩ := h
    have restriction := checkedWhere (fun e _ e' he => he.checked) (whereLike_iff.2 hc)
    show u.record :: assignments.flatMap (fun a => a.2.records) ++ whereRecords condition =
      u.record :: u.assignments.flatMap (fun a => a.2.records) ++ whereRecords u.condition
    rw [(checkedAssignments ha).records, restriction.records]
  | delete d =>
    obtain ⟨c, rfl, hc⟩ := h
    have checked := checkedCondition (fun e _ e' he => he.checked) hc
    exact congrArg (d.record :: ·) checked.1

theorem verify_eq (h : s.SameShape t) (g : Registry) : verify g t = verify g s := by
  cases s with
  | select s =>
    obtain ⟨s', rfl, hs⟩ := h
    exact hs.checked.check g []
  | insert i => obtain ⟨_, rfl, _⟩ := h; rfl
  | update u =>
    obtain ⟨assignments, condition, rfl, ha, hc⟩ := h
    have restriction := checkedWhere (fun e _ e' he => he.checked) (whereLike_iff.2 hc)
    show (ownScope g u.record >>= fun scope =>
        verifyAssignments g [scope] (.update u.record) assignments >>= fun _ =>
          verifyWhere g [scope] (.update u.record) condition) =
      (ownScope g u.record >>= fun scope =>
        verifyAssignments g [scope] (.update u.record) u.assignments >>= fun _ =>
          verifyWhere g [scope] (.update u.record) u.condition)
    simp only [(checkedAssignments ha).check, restriction.check]
  | delete d =>
    obtain ⟨c, rfl, hc⟩ := h
    have checked := checkedCondition (fun e _ e' he => he.checked) hc
    show (ownScope g d.record >>= fun scope => verifyCondition g [scope] _ c) =
      (ownScope g d.record >>= fun scope => verifyCondition g [scope] _ d.condition)
    simp only [checked.2.2]

end Statement.SameShape

end RecordSql
