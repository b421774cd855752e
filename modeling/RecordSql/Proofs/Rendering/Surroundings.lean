import Mathlib.Data.List.Forall2
import RecordSql.Statement.Pieces

/-!
# Tables around a piece

A column is qualified by the label of a table, and the label means the table that the select around it,
or one further out, has declared by it. Which tables these are can be read off the pieces alone.

- `declaredLabels`: the labels that a select declares for itself.
- `withSurroundings`: each piece with the labels declared around it.
- `Surrounded`: pieces put together of parts that declare some labels and fit their surroundings.
- `Surrounded.mem`: each piece of such parts fits the surroundings it is found in.
-/

namespace RecordSql

/-- The labels declared by each of the selects around a place, the innermost first. -/
abbrev Surroundings := List (List TableLabel)

/-- The labels that are declared by a select from here to its end, but by no sub-select; `depth` counts
the sub-selects that are open. -/
def declaredLabels (depth : Nat) : List Piece → List TableLabel
  | [] => []
  | p :: ps =>
    match p, depth with
    | .closeSelect, 0 => []
    | .table _ label, 0 => label :: declaredLabels 0 ps
    | _, _ => declaredLabels (p.depthAfter depth) ps

/-- Each piece of a text with what is declared around it. -/
def withSurroundings (around : Surroundings) : List Piece → List (Piece × Surroundings)
  | [] => []
  | .openSelect :: ps => withSurroundings (declaredLabels 0 ps :: around) ps
  | .closeSelect :: ps => withSurroundings around.tail ps
  | p :: ps => (p, around) :: withSurroundings around ps

/-- Whether a piece declares nothing and leaves the surroundings as they are. -/
def Piece.isInner : Piece → Bool
  | .table .. | .openSelect | .closeSelect => false
  | _ => true

theorem declaredLabels_inner {p : Piece} (hp : p.isInner) (depth : Nat) (ps : List Piece) :
    declaredLabels depth (p :: ps) = declaredLabels depth ps := by
  cases p <;> cases depth <;> first | rfl | exact absurd hp Bool.false_ne_true

theorem withSurroundings_inner {p : Piece} (hp : p.isInner) (around : Surroundings)
    (ps : List Piece) :
    withSurroundings around (p :: ps) = (p, around) :: withSurroundings around ps := by
  cases p <;> first | rfl | exact absurd hp Bool.false_ne_true

/-- Pieces that declare some labels and fit what is declared around each of them. -/
inductive Surrounded (fits : Surroundings → Piece → Prop) :
    Surroundings → List TableLabel → List Piece → Prop
  | nil {around} : Surrounded fits around [] []
  | inner {around p} : p.isInner → fits around p → Surrounded fits around [] [p]
  | table {around name label} : fits around (.table name label) →
      Surrounded fits around [label] [.table name label]
  | append {around labels labels' ps qs} : Surrounded fits around labels ps →
      Surrounded fits around labels' qs → Surrounded fits around (labels ++ labels') (ps ++ qs)
  | select {around labels ps} : Surrounded fits (labels :: around) labels ps →
      Surrounded fits around [] (.openSelect :: ps ++ [Piece.closeSelect])

namespace Surrounded

variable {fits : Surroundings → Piece → Prop} {around : Surroundings} {labels : List TableLabel}
  {ps qs : List Piece}

/-! ### Reading the pieces -/

/-- Parts inside of a sub-select declare nothing for the select around it. -/
theorem declaredLabels_deeper (h : Surrounded fits around labels ps) :
    ∀ depth rest, declaredLabels (depth + 1) (ps ++ rest) = declaredLabels (depth + 1) rest := by
  induction h with
  | nil => exact fun _ _ => rfl
  | inner hp _ => exact fun depth rest => declaredLabels_inner hp (depth + 1) rest
  | table _ => exact fun _ _ => rfl
  | append _ _ ihp ihq =>
    intro depth rest
    rw [List.append_assoc, ihp, ihq]
  | @select _ _ ps _ ih =>
    intro depth rest
    show RecordSql.declaredLabels (depth + 1 + 1) (ps ++ [Piece.closeSelect] ++ rest) = _
    rw [List.append_assoc, ih]
    rfl

/-- Parts declare their labels. -/
theorem declaredLabels_append (h : Surrounded fits around labels ps) :
    ∀ rest, declaredLabels 0 (ps ++ rest) = labels ++ declaredLabels 0 rest := by
  induction h with
  | nil => exact fun _ => rfl
  | inner hp _ => exact fun rest => declaredLabels_inner hp 0 rest
  | table _ => exact fun _ => rfl
  | append _ _ ihp ihq =>
    intro rest
    rw [List.append_assoc, ihp, ihq, List.append_assoc]
  | @select _ _ ps hps _ =>
    intro rest
    show RecordSql.declaredLabels 1 (ps ++ [Piece.closeSelect] ++ rest) = _
    rw [List.append_assoc, hps.declaredLabels_deeper]
    rfl

/-- Parts fit what is declared around them, and what follows has the surroundings they started in. -/
theorem withSurroundings_append (h : Surrounded fits around labels ps) :
    ∀ rest, ∃ qs, (∀ q ∈ qs, fits q.2 q.1) ∧
      withSurroundings around (ps ++ rest) = qs ++ withSurroundings around rest := by
  induction h with
  | nil => exact fun rest => ⟨[], List.forall_mem_nil _, rfl⟩
  | @inner around p hp hfits =>
    intro rest
    refine ⟨[(p, around)], ?_, withSurroundings_inner hp around rest⟩
    exact List.forall_mem_singleton.2 hfits
  | @table around name label hfits =>
    intro rest
    refine ⟨[(.table name label, around)], ?_, rfl⟩
    exact List.forall_mem_singleton.2 hfits
  | append _ _ ihp ihq =>
    intro rest
    obtain ⟨qs', hqs', hq⟩ := ihq rest
    obtain ⟨ps', hps', hp⟩ := ihp (_ ++ rest)
    refine ⟨ps' ++ qs', List.forall_mem_append.2 ⟨hps', hqs'⟩, ?_⟩
    rw [List.append_assoc, hp, hq, List.append_assoc]
  | @select around labels ps hps ih =>
    intro rest
    obtain ⟨qs, hqs, hq⟩ := ih (.closeSelect :: rest)
    refine ⟨qs, hqs, ?_⟩
    have hlabels : declaredLabels 0 (ps ++ .closeSelect :: rest) = labels := by
      rw [hps.declaredLabels_append]
      exact List.append_nil labels
    show withSurroundings (declaredLabels 0 (ps ++ [Piece.closeSelect] ++ rest) :: around)
      (ps ++ [Piece.closeSelect] ++ rest) = _
    rw [List.append_assoc, List.singleton_append, hlabels, hq]
    rfl

/-- Each piece fits what is declared around it. -/
theorem mem (h : Surrounded fits around labels ps) :
    ∀ q ∈ withSurroundings around ps, fits q.2 q.1 := by
  obtain ⟨qs, hqs, hq⟩ := h.withSurroundings_append []
  rw [List.append_nil] at hq
  rw [hq]
  exact List.forall_mem_append.2 ⟨hqs, List.forall_mem_nil _⟩

theorem declaredLabels_eq (h : Surrounded fits around labels ps) : declaredLabels 0 ps = labels := by
  have hnil := h.declaredLabels_append []
  rw [List.append_nil] at hnil
  rw [hnil]
  exact List.append_nil labels

/-! ### Putting pieces together -/

/-- Pieces that declare nothing. -/
theorem inners (hps : ∀ p ∈ ps, p.isInner ∧ fits around p) : Surrounded fits around [] ps := by
  induction ps with
  | nil => exact .nil
  | cons p ps ih =>
    obtain ⟨⟨hinner, hfits⟩, hps⟩ := List.forall_mem_cons.1 hps
    exact append (inner hinner hfits) (ih hps)

/-- Parts that declare nothing, one after the other. -/
theorem both (hp : Surrounded fits around [] ps) (hq : Surrounded fits around [] qs) :
    Surrounded fits around [] (ps ++ qs) :=
  append hp hq

/-- Items between separators. -/
theorem separated {separator : String} (hs : fits around (.word separator)) {ι : Type}
    {declare : ι → List TableLabel} : ∀ {l : List ι} {pss : List (List Piece)},
    List.Forall₂ (fun i ps => Surrounded fits around (declare i) ps) l pss →
      Surrounded fits around (l.flatMap declare) (RecordSql.separated separator pss)
  | [], [], .nil => nil
  | [i], [ps], .cons h .nil => by
    rw [List.flatMap_singleton]
    exact h
  | i :: j :: l, ps :: qs :: pss, .cons h (.cons h' hr) => by
    rw [List.flatMap_cons]
    exact append h (append (inner rfl hs) (separated hs (.cons h' hr)))

end Surrounded

end RecordSql
