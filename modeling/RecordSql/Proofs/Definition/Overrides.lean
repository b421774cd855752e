import Mathlib.Data.List.Nodup
import RecordSql.Proofs.Definition.Consulted
import RecordSql.Proofs.Expression.Selects

/-!
# Overrides

An override stands for its field in the projection of its select and in keys. Expressions refer to fields in
neither of these ways, unless they contain a sub-select, so that it makes no difference to them whether an
override is in force.

- `Frame.Direct`: expressions that contain no sub-select, not even by way of definitions.
- `Frame.Direct.plain`: all that they look up is referred to by expressions.
- `applied?_overridden`: an override takes no part in what such references stand for.
- `expandWith_overridden`: expressions come to the same with an override and without it.
-/

namespace RecordSql

/-! ### Expressions without sub-selects -/

/-- No sub-select is written for an expression: there is none in it, and none in the definitions that it
leads to. -/
structure Frame.Direct (f : Frame) (e : Expr) : Prop where
  own : e.selects = []
  definitions : ∀ use c d, f.Consults e use c → f.applied? use c = some d → d.expr.selects = []

/-- In an expression without sub-selects, fields are named by its references. -/
theorem occurrences_plain {g : Registry} {use : ColumnUse} {c : FieldRef} :
    ∀ e : Expr, e.selects = [] → ∀ o ∈ e.occurrences, o.Names g use c → use = .plain := by
  refine (ExprCases.ofOperands (Q := fun _ => True) (fun e hoperands _ => ?_) fun _ _ _ _ => trivial).expr
  intro hnone o ho hnames
  have operand : ∀ a ∈ e.operands, o ∈ a.occurrences → use = .plain := by
    intro a ha ho
    exact hoperands a ha (List.subset_nil.1 (hnone ▸ Expr.selects_operand ha)) o ho hnames
  cases e with
  | column | isNull | inList =>
    cases List.mem_singleton.1 ho
    cases hnames
    rfl
  | literal | value | fullText => cases ho
  | call _ es | junction _ es =>
    have hall : o ∈ exprsOccurrences es := ho
    rw [exprsOccurrences_eq] at hall
    obtain ⟨a, ha, ho⟩ := List.mem_flatMap.1 hall
    exact operand a ha ho
  | epoch | not => exact operand _ (List.mem_singleton_self _) ho
  | binary op l r =>
    obtain ho | ho := List.mem_append.1 ho
    · exact operand l List.mem_cons_self ho
    · exact operand r (List.mem_cons_of_mem _ (List.mem_singleton_self _)) ho
  | «exists» s => cases hnone

/-- All that an expression without sub-selects looks up is referred to by expressions. -/
theorem Frame.Direct.plain {f : Frame} {e : Expr} (h : f.Direct e) {use : ColumnUse} {c : FieldRef}
    (hc : f.Consults e use c) : use = .plain := by
  cases hc with
  | mention ho hnames => exact occurrences_plain e h.own _ ho hnames
  | definition hc hd ho hnames => exact occurrences_plain _ (h.definitions _ _ _ hc hd) _ ho hnames

/-! ### One override more or less -/

/-- The second frame is the first one but for an override in one of the selects around. -/
inductive Frame.DropsOverride (f : Frame) : Frame → Prop
  | of {inner outer r front back d} : f.selects = inner ++ (r, front ++ d :: back) :: outer →
      d.kind = .override →
      DropsOverride f { f with selects := inner ++ (r, front ++ back) :: outer }

section Lookup

variable {inner outer : List (RecordType × List Definition)} {front back : List Definition} {d : Definition}
  {r : RecordType}

/-- What a select defines of a field. -/
def definedBy (record : RecordType) (field : String) (s : RecordType × List Definition) : Option Definition :=
  if s.1 = record then s.2.find? fun d => d.field = field else none

/-- Selects on other records define nothing of a record. -/
theorem definedBy_others {field : String} {selects : List (RecordType × List Definition)}
    (h : r ∉ selects.map (·.1)) : selects.findSome? (definedBy r field) = none := by
  rw [List.findSome?_eq_none_iff]
  intro s hs
  refine if_neg fun hr => h ?_
  rw [← hr]
  exact List.mem_map_of_mem hs

/-- Where no other select is on a record, its definitions are those of the one that is. -/
theorem definedBy_only {field : String} (hinner : r ∉ inner.map (·.1)) (houter : r ∉ outer.map (·.1))
    (ds : List Definition) :
    (inner ++ (r, ds) :: outer).findSome? (definedBy r field) = ds.find? fun d => d.field = field := by
  rw [List.findSome?_append, definedBy_others hinner, Option.none_or, List.findSome?_cons,
    definedBy_others houter, definedBy, if_pos rfl]
  cases ds.find? fun d => d.field = field <;> rfl

/-- An override is not what references of expressions stand for, and nothing else defines its field in its
select. -/
theorem find_overridden (field : String) (hkind : d.kind = .override)
    (hone : ((front ++ d :: back).map (·.field)).Nodup) :
    ((front ++ d :: back).find? fun d => d.field = field).filter (Definition.applies .plain) =
      ((front ++ back).find? fun d => d.field = field).filter (Definition.applies .plain) := by
  rw [List.find?_append, List.find?_append]
  by_cases hfield : d.field = field
  · rw [List.map_append, List.map_cons, List.nodup_middle, List.nodup_cons, List.mem_append, not_or,
      hfield] at hone
    have nothing : ∀ ds : List Definition, field ∉ ds.map (·.field) →
        (ds.find? fun d => d.field = field) = none := by
      intro ds hds
      rw [List.find?_eq_none]
      intro d' hd'
      rw [decide_eq_true_iff]
      exact fun h => hds (h ▸ List.mem_map_of_mem hd')
    rw [nothing front hone.1.1, nothing back hone.1.2, List.find?_cons_of_pos (by simpa using hfield)]
    simp [Definition.applies, hkind]
  · rw [List.find?_cons_of_neg (by simpa using hfield)]

/-- References of expressions stand for the same with an override around them and without it. -/
theorem applied?_overridden {f f' : Frame} (h : f.DropsOverride f')
    (hone : ∀ s ∈ f.selects, (s.2.map (·.field)).Nodup) (hrecords : (f.selects.map (·.1)).Nodup)
    (c : FieldRef) : f'.applied? .plain c = f.applied? .plain c := by
  obtain ⟨hselects, hkind⟩ := h
  rename_i inner outer r front back d
  unfold Frame.applied?
  cases hr : c.record with
  | none => rfl
  | some record =>
    rw [hselects] at hone hrecords
    rw [List.map_append, List.map_cons, List.nodup_middle, List.nodup_cons, List.mem_append, not_or] at hrecords
    show ((inner ++ (r, front ++ back) :: outer).findSome? (definedBy record c.field)).filter _ =
      (f.selects.findSome? (definedBy record c.field)).filter _
    rw [hselects]
    by_cases hrecord : r = record
    · subst hrecord
      rw [definedBy_only hrecords.1.1 hrecords.1.2, definedBy_only hrecords.1.1 hrecords.1.2]
      exact (find_overridden c.field hkind (hone _ (List.mem_append_right inner List.mem_cons_self))).symm
    · rw [List.findSome?_append, List.findSome?_append, List.findSome?_cons, List.findSome?_cons, definedBy,
        definedBy, if_neg hrecord, if_neg hrecord]

/-- An expression without sub-selects comes to the same with an override in force and without it, to
whatever depth definitions are substituted, if the selects around are on different records and define no
field twice. -/
theorem expandWith_overridden {f f' : Frame} {e : Expr} (h : f.DropsOverride f')
    (hone : ∀ s ∈ f.selects, (s.2.map (·.field)).Nodup) (hrecords : (f.selects.map (·.1)).Nodup)
    (he : f.Direct e) (n : Nat) : expandWith n f' e = expandWith n f e := by
  have hagrees : f.Agrees f' e := by
    refine ⟨?_, fun use c hc => ?_⟩
    · cases h
      rfl
    · rw [he.plain hc]
      exact applied?_overridden h hone hrecords c
  exact hagrees.expandWith_eq n

end Lookup

end RecordSql
