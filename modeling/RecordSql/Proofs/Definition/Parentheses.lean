import RecordSql.Proofs.Rendering.Nesting
import RecordSql.Statement.Pieces

/-!
# More parentheses

Two renderings may differ in parentheses alone: the second one has pairs of them around some of its parts
where the first one has none. Parameters and depths are the same then, and the texts differ by two
characters for each pair.

- `Wraps n`: the second pieces are the first ones with `n` more pairs of parentheses.
- `Wraps.text_eq_iff`: the texts are the same if no pair is added.
-/

namespace RecordSql

/-- The second pieces are the first ones with some more pairs of parentheses. -/
inductive Wraps : Nat → List Piece → List Piece → Prop
  | refl (ps : List Piece) : Wraps 0 ps ps
  | append {a b : Nat} {ps ps' qs qs' : List Piece} :
    Wraps a ps qs → Wraps b ps' qs' → Wraps (a + b) (ps ++ ps') (qs ++ qs')
  | parens {a : Nat} {ps qs : List Piece} : Wraps a ps qs → Wraps (a + 1) ps (parenthesized qs)

theorem parameters_parenthesized (ps : List Piece) : parameters (parenthesized ps) = parameters ps := by
  show parameters (ps ++ [Piece.word ")"]) = parameters ps
  rw [parameters_append]
  exact List.append_nil _

theorem depthAfterAll_parenthesized (depth : Nat) (ps : List Piece) :
    depthAfterAll depth (parenthesized ps) = depthAfterAll depth ps := by
  show depthAfterAll depth (ps ++ [Piece.word ")"]) = depthAfterAll depth ps
  rw [depthAfterAll_append]
  rfl

/-- The text of pieces between parentheses. -/
theorem layoutWith_parenthesized (print : Value → String) (dialect : Dialect) (l : Layout) (depth : Nat)
    (ps : List Piece) :
    layoutWith print dialect l depth (parenthesized ps) =
      "(" ++ layoutWith print dialect l depth ps ++ ")" := by
  show "(" ++ layoutWith print dialect l depth (ps ++ [Piece.word ")"]) = _
  rw [layoutWith_append, String.append_assoc]
  simp [layoutWith, Piece.text]

namespace Wraps

variable {n : Nat} {ps qs : List Piece}

/-- Parentheses around both. -/
theorem parenthesized (h : Wraps n ps qs) :
    Wraps n (RecordSql.parenthesized ps) (RecordSql.parenthesized qs) := by
  have hw := ((refl [.word "("]).append h).append (refl [.word ")"])
  rwa [Nat.zero_add, Nat.add_zero] at hw

theorem eq_of_zero (h : Wraps n ps qs) (hn : n = 0) : ps = qs := by
  induction h with
  | refl ps => rfl
  | append _ _ ihp ihq => rw [ihp (by omega), ihq (by omega)]
  | parens _ _ => cases hn

theorem parameters_eq (h : Wraps n ps qs) : parameters qs = parameters ps := by
  induction h with
  | refl ps => rfl
  | append _ _ ihp ihq => rw [parameters_append, parameters_append, ihp, ihq]
  | parens _ ih => rw [parameters_parenthesized, ih]

theorem depthAfterAll_eq (h : Wraps n ps qs) :
    ∀ depth, depthAfterAll depth qs = depthAfterAll depth ps := by
  induction h with
  | refl ps => exact fun _ => rfl
  | append _ _ ihp ihq =>
    intro depth
    rw [depthAfterAll_append, depthAfterAll_append, ihp, ihq]
  | parens _ ih =>
    intro depth
    rw [depthAfterAll_parenthesized, ih]

variable {print : Value → String} {dialect : Dialect} {l : Layout}

/-- Each pair of parentheses is two characters. -/
theorem length_eq (h : Wraps n ps qs) : ∀ depth,
    (layoutWith print dialect l depth qs).length =
      (layoutWith print dialect l depth ps).length + 2 * n := by
  induction h with
  | refl ps => exact fun _ => rfl
  | append hp _ ihp ihq =>
    intro depth
    rw [layoutWith_append, layoutWith_append, String.length_append, String.length_append, ihp,
      hp.depthAfterAll_eq, ihq]
    omega
  | parens _ ih =>
    intro depth
    rw [layoutWith_parenthesized, String.length_append, String.length_append, ih]
    show 1 + _ + 1 = _
    omega

/-- The texts are the same if no pair of parentheses is added, and only then. -/
theorem text_eq_iff (h : Wraps n ps qs) (depth : Nat) :
    layoutWith print dialect l depth qs = layoutWith print dialect l depth ps ↔ n = 0 := by
  constructor
  · intro heq
    have hlength : _ = (layoutWith print dialect l depth ps).length + 2 * n := h.length_eq depth
    rw [heq] at hlength
    omega
  · exact fun hn => by rw [h.eq_of_zero hn]

end Wraps

end RecordSql
