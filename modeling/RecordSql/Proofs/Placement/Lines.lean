import Mathlib.Data.List.GetD
import Mathlib.Data.List.Induction
import RecordSql.Proofs.Placement.Cuts
import RecordSql.Source.Lines

/-!
# Offsets of lines and positions

Lines and positions of a text name offsets between its characters, in the order of the text.

- `Lines.cuts_start`, `Lines.start_lt_start`: where lines start.
- `Lines.start_le_iff`: the line that holds an offset is the last one that starts in front of it.
- `Lines.lineOf_byteLength`: it has as many lines in front of it as there are line feeds.
- `Lines.offset_afterAll`: the position behind a beginning stands for the offset behind it.
-/

namespace RecordSql.Source

open RecordSql.Text

/-! ### Line starts -/

theorem offsetsBehindFeeds_append (offset : Nat) (front back : List Char) :
    offsetsBehindFeeds offset (front ++ back) =
      offsetsBehindFeeds offset front ++ offsetsBehindFeeds (offset + byteLength front) back := by
  induction front generalizing offset with
  | nil => rfl
  | cons c front ih =>
    simp only [List.cons_append, offsetsBehindFeeds, byteLength_cons, ih, Nat.add_assoc]
    split <;> rfl

theorem length_offsetsBehindFeeds (offset : Nat) (text : List Char) :
    (offsetsBehindFeeds offset text).length = text.count '\n' := by
  induction text generalizing offset with
  | nil => rfl
  | cons c text ih =>
    rw [offsetsBehindFeeds]
    split
    · simp [*]
    · simp [List.count_cons_of_ne, *]

/-- Lines start behind line feeds. -/
theorem mem_offsetsBehindFeeds {offset start : Nat} {text : List Char}
    (h : start ∈ offsetsBehindFeeds offset text) :
    ∃ front back, text = front ++ '\n' :: back ∧ start = offset + byteLength front + 1 := by
  induction text generalizing offset with
  | nil => cases h
  | cons c text ih =>
    have hrest : start ∈ offsetsBehindFeeds (offset + c.utf8Size) text →
        ∃ front back, c :: text = front ++ '\n' :: back ∧ start = offset + byteLength front + 1 := by
      intro h
      obtain ⟨front, back, rfl, rfl⟩ := ih h
      exact ⟨c :: front, back, rfl, by simp [Nat.add_assoc]⟩
    simp only [offsetsBehindFeeds] at h
    split at h
    · rename_i hfeed
      rcases List.mem_cons.1 h with rfl | h
      · subst hfeed
        exact ⟨[], text, rfl, rfl⟩
      · exact hrest h
    · exact hrest h

theorem offsetsBehindFeeds_pairwise (offset : Nat) (text : List Char) :
    (offsetsBehindFeeds offset text).Pairwise (· < ·) := by
  induction text generalizing offset with
  | nil => exact .nil
  | cons c text ih =>
    rw [offsetsBehindFeeds]
    split
    · refine List.pairwise_cons.2 ⟨fun start h => ?_, ih _⟩
      obtain ⟨front, back, -, rfl⟩ := mem_offsetsBehindFeeds h
      omega
    · exact ih _

/-- No line starts before the one in front of it. -/
theorem lineStarts_pairwise (text : List Char) : (lineStarts text).Pairwise (· < ·) := by
  refine List.pairwise_cons.2 ⟨fun start h => ?_, offsetsBehindFeeds_pairwise 0 text⟩
  obtain ⟨front, back, -, rfl⟩ := mem_offsetsBehindFeeds h
  omega

/-- In an ascending list, the entries up to a bound are those in front. -/
theorem getElem_le_iff_lt_countP {starts : List Nat} (h : starts.Pairwise (· < ·)) {n bound : Nat}
    (hn : n < starts.length) : starts[n] ≤ bound ↔ n < starts.countP (· ≤ bound) := by
  induction starts generalizing n with
  | nil => exact absurd hn (Nat.not_lt_zero n)
  | cons start starts ih =>
    obtain ⟨hlater, h⟩ := List.pairwise_cons.1 h
    by_cases hstart : start ≤ bound
    · cases n with
      | zero => simp [hstart]
      | succ n =>
        have hn : n < starts.length := by simpa using hn
        rw [List.getElem_cons_succ, ih h hn, List.countP_cons_of_pos (by simpa using hstart)]
        omega
    · have hnone : starts.countP (· ≤ bound) = 0 := by
        rw [List.countP_eq_zero]
        intro later hlate
        have := hlater later hlate
        simp only [decide_eq_true_eq]
        omega
      have hnth : ¬ (start :: starts)[n] ≤ bound := by
        cases n with
        | zero => simpa using hstart
        | succ n =>
          have hn : n < starts.length := by simpa using hn
          have := hlater starts[n] (List.getElem_mem hn)
          simp only [List.getElem_cons_succ]
          omega
      rw [List.countP_cons_of_neg (by simpa using hstart), hnone]
      exact iff_of_false hnth (Nat.not_lt_zero n)

namespace Lines

variable (l : Lines) {m n offset : Nat}

theorem starts_pairwise : l.starts.Pairwise (· < ·) :=
  l.starts_eq ▸ lineStarts_pairwise l.text

theorem start_of_lt (hn : n < l.starts.length) : l.start n = l.starts[n] :=
  List.getD_eq_getElem _ _ hn

theorem start_of_ge (hn : l.count ≤ n) : l.start n = byteLength l.text :=
  List.getD_eq_default _ _ hn

/-- Every line starts between characters. -/
theorem cuts_start (n : Nat) : Cuts (l.start n) l.text := by
  by_cases hn : n < l.count
  · rw [start_of_lt l hn]
    have hmem : l.starts[n] ∈ lineStarts l.text := l.starts_eq ▸ List.getElem_mem _
    rcases List.mem_cons.1 hmem with hzero | hmem
    · rw [hzero]
      exact cuts_byteLength [] l.text
    · obtain ⟨front, back, htext, hstart⟩ := mem_offsetsBehindFeeds hmem
      refine ⟨front ++ ['\n'], back, by simp [htext], ?_⟩
      rw [hstart, byteLength_append, Nat.zero_add]
      rfl
  · rw [start_of_ge l (by omega)]
    exact ⟨l.text, [], by simp, rfl⟩

theorem start_le_byteLength (n : Nat) : l.start n ≤ byteLength l.text :=
  (l.cuts_start n).le_byteLength

theorem start_lt_start (h : m < n) (hn : n < l.count) : l.start m < l.start n := by
  have hm : m < l.count := by omega
  rw [start_of_lt l hn, start_of_lt l hm]
  exact List.pairwise_iff_getElem.1 l.starts_pairwise m n hm hn h

theorem start_le_start (h : m ≤ n) : l.start m ≤ l.start n := by
  by_cases hn : n < l.count
  · rcases Nat.lt_or_eq_of_le h with h | rfl
    · exact Nat.le_of_lt (l.start_lt_start h hn)
    · exact Nat.le_refl _
  · rw [start_of_ge l (n := n) (by omega)]
    exact l.start_le_byteLength m

/-! ### Lines of offsets -/

theorem countP_starts_pos (offset : Nat) : 0 < l.starts.countP (· ≤ offset) := by
  rw [List.countP_pos_iff]
  exact ⟨0, by simp [l.starts_eq, lineStarts], by simp⟩

/-- The line that holds an offset is the last one that starts in front of it. -/
theorem start_le_iff (hn : n < l.count) : l.start n ≤ offset ↔ n ≤ l.lineOf offset := by
  have hpos := l.countP_starts_pos offset
  rw [start_of_lt l hn, getElem_le_iff_lt_countP l.starts_pairwise hn, lineOf]
  omega

theorem lineOf_lt_count (offset : Nat) : l.lineOf offset < l.count := by
  have hpos := l.countP_starts_pos offset
  have hle : l.starts.countP (· ≤ offset) ≤ l.starts.length := List.countP_le_length
  simp only [lineOf, count]
  omega

/-- A line starts in front of what it holds. -/
theorem start_lineOf_le (offset : Nat) : l.start (l.lineOf offset) ≤ offset :=
  (l.start_le_iff (l.lineOf_lt_count offset)).2 (Nat.le_refl _)

/-- What stands in front of a line is on an earlier one. -/
theorem lt_start_of_lineOf_lt (h : l.lineOf offset < n) (hn : n < l.count) : offset < l.start n := by
  by_contra hle
  have := (l.start_le_iff hn).1 (Nat.le_of_not_lt hle)
  omega

/-- The line that holds an offset has as many lines in front of it as there are line feeds in front of the
offset. -/
theorem lineOf_byteLength {front back : List Char} (htext : l.text = front ++ back) :
    l.lineOf (byteLength front) = front.count '\n' := by
  have hfront : (offsetsBehindFeeds 0 front).countP (· ≤ byteLength front) = front.count '\n' := by
    rw [← length_offsetsBehindFeeds 0 front, List.countP_eq_length]
    intro start h
    obtain ⟨earlier, later, rfl, rfl⟩ := mem_offsetsBehindFeeds h
    have hfeed : ('\n' : Char).utf8Size = 1 := rfl
    simp only [byteLength_append, byteLength_cons, hfeed, decide_eq_true_eq]
    omega
  have hback : (offsetsBehindFeeds (0 + byteLength front) back).countP (· ≤ byteLength front) = 0 := by
    rw [List.countP_eq_zero]
    intro start h
    obtain ⟨earlier, later, -, rfl⟩ := mem_offsetsBehindFeeds h
    simp only [decide_eq_true_eq]
    omega
  rw [lineOf, l.starts_eq, htext, lineStarts, List.countP_cons_of_pos (by simp),
    offsetsBehindFeeds_append, List.countP_append, hfront, hback]
  omega

/-! ### Offsets of positions -/

end Lines

/-- A beginning of a text ends with a part of a line. -/
theorem exists_lastLine (front : List Char) :
    ∃ lines last, front = lines ++ last ∧ '\n' ∉ last ∧
      (lines = [] ∨ ∃ earlier, lines = earlier ++ ['\n']) := by
  induction front using List.reverseRecOn with
  | nil => exact ⟨[], [], rfl, List.not_mem_nil, .inl rfl⟩
  | append_singleton front c ih =>
    by_cases hfeed : c = '\n'
    · exact ⟨front ++ [c], [], by simp, List.not_mem_nil, .inr ⟨front, by rw [hfeed]⟩⟩
    · obtain ⟨lines, last, rfl, hlast, hlines⟩ := ih
      refine ⟨lines, last ++ [c], by simp, ?_, hlines⟩
      simpa [hlast] using Ne.symm hfeed

theorem Position.afterAll_of_notMem {last : List Char} (h : '\n' ∉ last) (p : Position) :
    p.afterAll last = ⟨p.line, p.column + last.length⟩ := by
  induction last generalizing p with
  | nil => rfl
  | cons c last ih =>
    obtain ⟨hc, hlast⟩ := List.ne_and_not_mem_of_not_mem_cons h
    have hafter : p.after c = ⟨p.line, p.column + 1⟩ := if_neg (Ne.symm hc)
    calc p.afterAll (c :: last) = (p.after c).afterAll last := rfl
      _ = ⟨p.line, p.column + (last.length + 1)⟩ := by
        rw [ih hlast, hafter, Nat.add_assoc, Nat.add_comm 1]

/-- The columns of a position count the characters behind the last line feed. -/
theorem Position.column_afterAll {lines last : List Char} (hlast : '\n' ∉ last)
    (hlines : lines = [] ∨ ∃ earlier, lines = earlier ++ ['\n']) :
    (origin.afterAll (lines ++ last)).column = last.length := by
  rw [afterAll_append, afterAll_of_notMem hlast]
  rcases hlines with rfl | ⟨earlier, rfl⟩
  · exact Nat.zero_add _
  · rw [afterAll_append]
    exact Nat.zero_add _

/-- The lines of a position count the line feeds in front of it. -/
theorem Position.line_afterAll (p : Position) (front : List Char) :
    (p.afterAll front).line = p.line + front.count '\n' := by
  induction front generalizing p with
  | nil => rfl
  | cons c front ih =>
    have hstep : (p.afterAll (c :: front)).line = (p.after c).line + front.count '\n' := ih (p.after c)
    rw [hstep, Position.after]
    by_cases hfeed : c = '\n'
    · simp only [hfeed, if_true, List.count_cons_self]
      omega
    · rw [if_neg hfeed, List.count_cons_of_ne hfeed]

namespace Lines

variable (l : Lines) {front back : List Char}

/-- A line starts behind its line feed. -/
theorem start_count (htext : l.text = front ++ back)
    (hfront : front = [] ∨ ∃ earlier, front = earlier ++ ['\n']) :
    l.start (front.count '\n') = byteLength front := by
  rcases hfront with rfl | ⟨earlier, rfl⟩
  · exact l.start_zero
  · have hlength := length_offsetsBehindFeeds 0 earlier
    have hcount : (earlier ++ ['\n']).count '\n' = (offsetsBehindFeeds 0 earlier).length + 1 := by
      rw [hlength, List.count_append, List.count_singleton_self]
    have hfeed : ('\n' : Char).utf8Size = 1 := rfl
    rw [start, l.starts_eq, htext, lineStarts, hcount, List.getD_cons_succ, offsetsBehindFeeds_append,
      offsetsBehindFeeds_append, List.append_assoc]
    simp [List.getD, offsetsBehindFeeds, byteLength_append, hfeed]

/-- The position behind a beginning of a text stands for the offset behind it. -/
theorem offset_afterAll (htext : l.text = front ++ back) :
    l.offset (Position.origin.afterAll front) = byteLength front := by
  obtain ⟨lines, last, rfl, hlast, hlines⟩ := exists_lastLine front
  have hline : (Position.origin.afterAll (lines ++ last)).line - 1 = lines.count '\n' := by
    rw [Position.line_afterAll, List.count_append, List.count_eq_zero.2 hlast]
    exact Nat.add_sub_cancel_left 1 _
  have hcolumn := Position.column_afterAll hlast hlines
  have hstart := l.start_count (htext.trans (List.append_assoc lines last back)) hlines
  have hrest : dropBytes (byteLength lines) l.text = last ++ back := by
    rw [htext, List.append_assoc, dropBytes_byteLength]
  simp only [offset, hline, hcolumn, hstart, hrest, List.length_append, List.take_left]
  cases back with
  | nil => simp [htext]
  | cons c back => simp [byteLength_append]

end Lines

end RecordSql.Source
