import Mathlib.Data.List.Forall2
import RecordSql.Proofs.Rendering.Parts

/-!
# Definitions in two frames

Where the selects around two places define the same fields in the same order, a reference finds
definitions in both places or in neither.

- `Lookup`: two references, both without definition or both with related ones.
- `SameFields`: selects on the same records with related definitions of the same fields.
- `lookup_applied`: references in frames whose selects define the same fields.
-/

namespace RecordSql

/-- Two references to a field are both kept, or both replaced by related definitions. -/
inductive Lookup (related : Definition → Definition → Prop) :
    Option Definition → Option Definition → Prop
  | none : Lookup related none none
  | some {d d'} : related d d' → Lookup related (some d) (some d')

theorem Lookup.mono {r r' : Definition → Definition → Prop} {o o' : Option Definition}
    (h : Lookup r o o') (hr : ∀ d d', o = .some d → r d d' → r' d d') : Lookup r' o o' := by
  cases h with
  | none => exact .none
  | some h => exact .some (hr _ _ rfl h)

/-- Definitions of the same field, of the same kind, that are related. -/
def SameField (related : Definition → Definition → Prop) (d d' : Definition) : Prop :=
  d'.field = d.field ∧ d'.kind = d.kind ∧ related d d'

/-- Selects on the same records with related definitions of the same fields. -/
def SameFields (related : RecordType → Definition → Definition → Prop) :
    List (RecordType × List Definition) → List (RecordType × List Definition) → Prop :=
  List.Forall₂ fun s s' => s'.1 = s.1 ∧ List.Forall₂ (SameField (related s.1)) s.2 s'.2

section Lookups

variable {related : Definition → Definition → Prop}

theorem lookup_find (field : String) : ∀ {ds ds' : List Definition},
    List.Forall₂ (SameField related) ds ds' →
      Lookup (SameField related) (ds.find? fun d => d.field = field) (ds'.find? fun d => d.field = field)
  | [], [], .nil => .none
  | d :: ds, d' :: ds', .cons h hs => by
    rw [List.find?_cons, List.find?_cons, h.1]
    cases decide (d.field = field) with
    | true => exact .some h
    | false => exact lookup_find field hs

theorem lookup_selects {related : RecordType → Definition → Definition → Prop} (record : RecordType)
    (field : String) : ∀ {selects selects' : List (RecordType × List Definition)},
    SameFields related selects selects' →
      Lookup (SameField (related record))
        (selects.findSome? fun s => if s.1 = record then s.2.find? fun d => d.field = field else none)
        (selects'.findSome? fun s => if s.1 = record then s.2.find? fun d => d.field = field else none)
  | [], [], .nil => .none
  | s :: selects, s' :: selects', .cons h hs => by
    rw [List.findSome?_cons, List.findSome?_cons, h.1]
    by_cases hr : s.1 = record
    · rw [if_pos hr, if_pos hr]
      subst hr
      have first := lookup_find field h.2
      generalize s.2.find? _ = o at first ⊢
      generalize s'.2.find? _ = o' at first ⊢
      cases first with
      | none => exact lookup_selects _ field hs
      | some hd => exact .some hd
    · rw [if_neg hr, if_neg hr]
      exact lookup_selects _ field hs

theorem lookup_filter {use : ColumnUse} {o o' : Option Definition} (h : Lookup (SameField related) o o') :
    Lookup related (o.filter (Definition.applies use)) (o'.filter (Definition.applies use)) := by
  cases h with
  | none => exact .none
  | @some d d' h =>
    have happlies : d'.applies use = d.applies use := by
      unfold Definition.applies
      rw [h.2.1]
    rw [Option.filter_some, Option.filter_some, happlies]
    split
    · exact .some h.2.2
    · exact .none

/-- References where the selects around define the same fields. -/
theorem lookup_applied {related : RecordType → Definition → Definition → Prop} {f f' : Frame}
    (h : SameFields related f.selects f'.selects) (use : ColumnUse) (c : FieldRef) :
    Lookup (fun d d' => ∃ r, related r d d') (f.applied? use c) (f'.applied? use c) := by
  unfold Frame.applied?
  cases c.record with
  | none => exact .none
  | some record => exact (lookup_filter (lookup_selects record c.field h)).mono fun d d' _ hd => ⟨record, hd⟩

end Lookups

end RecordSql
