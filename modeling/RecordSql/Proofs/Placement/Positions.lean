import RecordSql.Proofs.Placement.Lines

/-!
# The order of positions

A beginning of a line may be skipped before a text is read, so that the columns of the first line count from
behind it. Such a position names another place on this line; the order of places is the same.

- `Position.Before`: the order of positions by line and column.
- `exists_front`: each position that is counted behind a beginning of the first line names a place.
- `Lines.offset_lt_offset`: offsets of places keep the order in which they are read.
- `Lines.offset_eq`: places of which nothing has been skipped are named exactly.
-/

namespace RecordSql.Source

open RecordSql.Text

/-! ### Lines and columns -/

namespace Position

/-- A position on an earlier line, or in front on the same line. -/
def Before (p q : Position) : Prop :=
  p.line < q.line ∨ p.line = q.line ∧ p.column < q.column

theorem Before.trans {p q r : Position} (hpq : p.Before q) (hqr : q.Before r) : p.Before r := by
  unfold Before at *
  omega

theorem Before.irrefl {p q : Position} (hpq : p.Before q) : ¬ q.Before p := by
  unfold Before at *
  omega

theorem before_after (p : Position) (c : Char) : p.Before (p.after c) := by
  unfold after
  split
  · exact .inl (Nat.lt_succ_self _)
  · exact .inr ⟨rfl, Nat.lt_succ_self _⟩

/-- Reading on leads to later positions. -/
theorem before_afterAll {cs : List Char} (hcs : cs ≠ []) (p : Position) : p.Before (p.afterAll cs) := by
  induction cs generalizing p with
  | nil => exact absurd rfl hcs
  | cons c cs ih =>
    cases cs with
    | nil => exact p.before_after c
    | cons d ds => exact (p.before_after c).trans (ih (List.cons_ne_nil d ds) (p.after c))

/-- Behind a line feed the column does not depend on what stands in front of it. -/
theorem afterAll_feed {p q : Position} (h : p.line = q.line) (cs : List Char) :
    p.afterAll ('\n' :: cs) = q.afterAll ('\n' :: cs) := by
  have hafter : p.after '\n' = q.after '\n' := by simp [after, h]
  exact congrArg (fun r : Position => r.afterAll cs) hafter

end Position

/-! ### Skipped beginnings -/

section

variable {skipped front back : List Char}

/-- What is read behind a line feed stands where it would stand had nothing been skipped. -/
theorem afterAll_skipped (hskipped : '\n' ∉ skipped) (hfeed : '\n' ∈ front) :
    Position.origin.afterAll (skipped ++ front) = Position.origin.afterAll front := by
  obtain ⟨earlier, later, rfl⟩ := List.append_of_mem hfeed
  rw [← List.append_assoc, Position.afterAll_append, Position.afterAll_append _ earlier]
  apply Position.afterAll_feed
  rw [Position.line_afterAll, Position.line_afterAll, List.count_append, List.count_eq_zero.2 hskipped,
    Nat.zero_add]

/-- Each position that is counted behind a skipped beginning names a place. -/
theorem exists_front (hskipped : '\n' ∉ skipped) (h : front <+: back) :
    ∃ named rest, skipped ++ back = named ++ rest ∧
      Position.origin.afterAll front = Position.origin.afterAll named := by
  obtain ⟨more, rfl⟩ := h
  by_cases hfeed : '\n' ∈ front
  · exact ⟨skipped ++ front, more, by simp, (afterAll_skipped hskipped hfeed).symm⟩
  · -- On the first line the position counts columns from the beginning of the text.
    have hnamed : (skipped ++ (front ++ more)).take front.length = (skipped ++ front).take front.length := by
      rw [← List.append_assoc, List.take_append_of_le_length (by simp)]
    have hnone : '\n' ∉ (skipped ++ (front ++ more)).take front.length := by
      rw [hnamed]
      intro hmem
      rcases List.mem_append.1 (List.mem_of_mem_take hmem) with hmem | hmem
      · exact hskipped hmem
      · exact hfeed hmem
    refine ⟨(skipped ++ (front ++ more)).take front.length, _, (List.take_append_drop _ _).symm, ?_⟩
    rw [Position.afterAll_of_notMem hfeed, Position.afterAll_of_notMem hnone, hnamed, List.length_take]
    simp

end

namespace Lines

variable (l : Lines) {skipped front front' back : List Char}

/-- Every position stands for an offset between characters. -/
theorem cuts_offset (p : Position) : Cuts (l.offset p) l.text := by
  obtain ⟨lines, rest, htext, hstart⟩ := l.cuts_start (p.line - 1)
  have hrest : dropBytes (l.start (p.line - 1)) l.text = rest := by
    rw [htext, ← hstart, dropBytes_byteLength]
  simp only [offset, hrest]
  split
  · refine ⟨lines ++ rest.take p.column, rest.drop p.column, by simp [htext], ?_⟩
    rw [byteLength_append, hstart]
  · exact ⟨l.text, [], by simp, rfl⟩

/-- Offsets of places keep the order in which they are read. -/
theorem offset_lt_offset (htext : l.text = skipped ++ back) (hskipped : '\n' ∉ skipped)
    (hfront : front <+: front') (hfront' : front' <+: back) (hlength : front.length < front'.length) :
    l.offset (Position.origin.afterAll front) < l.offset (Position.origin.afterAll front') := by
  have hbefore : (Position.origin.afterAll front).Before (Position.origin.afterAll front') := by
    obtain ⟨more, rfl⟩ := hfront
    rw [Position.afterAll_append]
    refine Position.before_afterAll ?_ _
    rintro rfl
    simp at hlength
  obtain ⟨named, rest, hnamed, hp⟩ := exists_front hskipped (hfront.trans hfront')
  obtain ⟨named', rest', hnamed', hq⟩ := exists_front hskipped hfront'
  rw [hp, hq] at hbefore ⊢
  rw [l.offset_afterAll (htext.trans hnamed), l.offset_afterAll (htext.trans hnamed')]
  by_contra hle
  obtain ⟨more, rfl⟩ := prefix_of_byteLength_le (hnamed'.symm.trans hnamed) (Nat.le_of_not_lt hle)
  rw [Position.afterAll_append] at hbefore
  cases more with
  | nil => exact hbefore.irrefl hbefore
  | cons c more => exact hbefore.irrefl (Position.before_afterAll (List.cons_ne_nil c more) _)

/-- Places of which nothing on their line has been skipped are named exactly. -/
theorem offset_eq (htext : l.text = skipped ++ front ++ back) (hskipped : '\n' ∉ skipped)
    (hexact : skipped = [] ∨ '\n' ∈ front) :
    l.offset (Position.origin.afterAll front) = byteLength (skipped ++ front) := by
  have hposition : Position.origin.afterAll front = Position.origin.afterAll (skipped ++ front) := by
    rcases hexact with rfl | hfeed
    · rfl
    · exact (afterAll_skipped hskipped hfeed).symm
  rw [hposition, l.offset_afterAll htext]

end Lines

end RecordSql.Source
