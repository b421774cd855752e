import Mathlib.Data.List.Basic
import RecordSql.Piece

/-!
# Nested pieces

The pieces of a rendering follow a grammar: keywords hold no placeholder, and sub-selects open and close
in pairs. Text is laid out part by part then, since every part ends at the depth it starts at.

- `WellNested`: the grammar of pieces.
- `TextOf`: a text and the well nested pieces that it lays out; such texts can be joined.
- `layoutWith_append`: the parts of a text.
-/

namespace RecordSql

/-- Pieces whose text does not change the depth and is no keyword. -/
def Piece.isPlain : Piece → Bool
  | .word _ | .openSelect | .closeSelect => false
  | _ => true

/-- Sequences of pieces in which keywords hold no placeholder and sub-selects open and close in pairs. -/
inductive WellNested : List Piece → Prop
  | nil : WellNested []
  | word {s : String} : '?' ∉ s.toList → WellNested [.word s]
  | plain {p : Piece} : p.isPlain → WellNested [p]
  | append {ps qs : List Piece} : WellNested ps → WellNested qs → WellNested (ps ++ qs)
  | select {ps : List Piece} : WellNested ps → WellNested (.openSelect :: ps ++ [Piece.closeSelect])

theorem parameters_append (ps qs : List Piece) :
    parameters (ps ++ qs) = parameters ps ++ parameters qs :=
  List.filterMap_append

/-! ### Depth -/

/-- The depth after some pieces. -/
def depthAfterAll (depth : Nat) (ps : List Piece) : Nat :=
  ps.foldl Piece.depthAfter depth

theorem depthAfterAll_append (depth : Nat) (ps qs : List Piece) :
    depthAfterAll depth (ps ++ qs) = depthAfterAll (depthAfterAll depth ps) qs :=
  List.foldl_append

/-- Well nested pieces end at the depth they start at. -/
theorem WellNested.depthAfterAll_eq {ps : List Piece} (h : WellNested ps) :
    ∀ depth, depthAfterAll depth ps = depth := by
  induction h with
  | nil => intro depth; rfl
  | word _ => intro depth; rfl
  | @plain p hp => intro depth; cases p <;> first | rfl | exact absurd hp (by decide)
  | append _ _ ihp ihq =>
    intro depth
    rw [depthAfterAll_append, ihp, ihq]
  | @select ps _ ih =>
    intro depth
    rw [depthAfterAll_append]
    show depthAfterAll (depthAfterAll (depth + 1) ps) [.closeSelect] = depth
    rw [ih]
    rfl

section Layout

variable {print : Value → String} {dialect : Dialect} {l : Layout}

/-- The text of two parts, the second one starting at the depth where the first one ends. -/
theorem layoutWith_append (ps qs : List Piece) :
    ∀ depth, layoutWith print dialect l depth (ps ++ qs) =
      layoutWith print dialect l depth ps ++
        layoutWith print dialect l (depthAfterAll depth ps) qs := by
  induction ps with
  | nil => intro depth; simp [layoutWith, depthAfterAll]
  | cons p ps ih =>
    intro depth
    show p.text print dialect l depth ++ layoutWith print dialect l (p.depthAfter depth) (ps ++ qs) = _
    rw [ih, ← String.append_assoc]
    rfl

/-- In one line, pieces have the same text at any depth. -/
theorem layoutWith_compact (ps : List Piece) : ∀ depth depth',
    layoutWith print dialect .compact depth ps = layoutWith print dialect .compact depth' ps := by
  induction ps with
  | nil => exact fun _ _ => rfl
  | cons p ps ih =>
    intro depth depth'
    have htext : p.text print dialect .compact depth = p.text print dialect .compact depth' := by
      cases p <;> rfl
    rw [layoutWith, layoutWith, htext, ih _ (p.depthAfter depth')]

/-- A text, and well nested pieces that it is the layout of. -/
def TextOf (print : Value → String) (dialect : Dialect) (l : Layout) (depth : Nat) (t : String)
    (ps : List Piece) : Prop :=
  t = layoutWith print dialect l depth ps ∧ WellNested ps

namespace TextOf

variable {depth : Nat} {t u : String} {ps qs : List Piece}

theorem nil : TextOf print dialect l depth "" [] :=
  ⟨rfl, .nil⟩

theorem word {s : String} (hs : '?' ∉ s.toList) : TextOf print dialect l depth s [.word s] :=
  ⟨by simp [layoutWith, Piece.text], .word hs⟩

theorem plain {p : Piece} (hp : p.isPlain) :
    TextOf print dialect l depth (p.text print dialect l depth) [p] :=
  ⟨by simp [layoutWith], .plain hp⟩

theorem append (ht : TextOf print dialect l depth t ps) (hu : TextOf print dialect l depth u qs) :
    TextOf print dialect l depth (t ++ u) (ps ++ qs) := by
  refine ⟨?_, ht.2.append hu.2⟩
  rw [layoutWith_append, ht.2.depthAfterAll_eq, ht.1, hu.1]

/-- A piece in front. -/
theorem cons {p : Piece} (hp : TextOf print dialect l depth t [p])
    (hu : TextOf print dialect l depth u qs) : TextOf print dialect l depth (t ++ u) (p :: qs) :=
  append hp hu

/-- A sub-select is laid out one level deeper. -/
theorem select (ht : TextOf print dialect l (depth + 1) t ps) :
    TextOf print dialect l depth
      ("exists (" ++ l.selectBreak (depth + 1) ++ t ++ (l.selectBreak depth ++ ")"))
      (.openSelect :: ps ++ [Piece.closeSelect]) := by
  refine ⟨?_, ht.2.select⟩
  show _ = "exists (" ++ l.selectBreak (depth + 1) ++
    layoutWith print dialect l (depth + 1) (ps ++ [Piece.closeSelect])
  rw [layoutWith_append, ht.2.depthAfterAll_eq, ← ht.1]
  simp [layoutWith, Piece.text, String.append_assoc]

theorem ite {c : Prop} [Decidable c] (ht : c → TextOf print dialect l depth t ps)
    (hu : ¬c → TextOf print dialect l depth u qs) :
    TextOf print dialect l depth (if c then t else u) (if c then ps else qs) := by
  split
  · exact ht ‹c›
  · exact hu ‹¬c›

/-- Texts joined by a separator. -/
theorem separated {separator : String} (hs : '?' ∉ separator.toList) :
    ∀ {ts : List String} {pss : List (List Piece)},
      List.Forall₂ (TextOf print dialect l depth) ts pss →
      TextOf print dialect l depth (separator.intercalate ts) (RecordSql.separated separator pss)
  | _, _, .nil => nil
  | [_], [_], .cons h .nil => by simpa [RecordSql.separated] using h
  | _ :: _ :: _, _ :: _ :: _, .cons h (.cons h' hr) => by
    rw [String.intercalate_cons_cons, String.append_assoc]
    exact append h (cons (word hs) (separated hs (.cons h' hr)))

end TextOf

end Layout

end RecordSql
