import RecordSql.Proofs.Placement.Rows

/-!
# Lines and offsets

The line of an offset is searched among the places where lines start, by halving them. From this line and the
characters between its start and the offset, the offset is found again.

- `locateIn`, `Lines.locateLine?`: the search, and the line it ends with; there is none in front of the first
  start.
- `Location.line?_locateIn`: the search ends with the last line that starts in front of the offset.
- `Lines.stop`, `Lines.line_eq_slice`: a line is what stands between its start and its line feed.
- `Lines.offset_lineOf`: the position of an offset stands for this offset.
- `Lines.exists_start`: a line starts right behind the line feed in front of it.
- `Lines.places_exact`: lines, positions and offsets belong together.
-/

namespace RecordSql.Source

open RecordSql.Text

/-! ### Searching -/

/-- Where a number stands among others, or where it would have to be inserted. -/
inductive Location
  | found (place : Nat)
  | missing (place : Nat)
  deriving DecidableEq, Repr

/-- The line of a location: a line that starts there, or the one in front of a place between two starts. -/
def Location.line? : Location → Option Nat
  | found place => some place
  | missing 0 => none
  | missing (place + 1) => some place

/-- Searches an offset among starts in ascending order, at the places from `low` up to `high`. -/
def locateIn (starts : List Nat) (offset low high : Nat) (hhigh : high ≤ starts.length) : Location :=
  if hlow : low < high then
    let middle := low + (high - low) / 2
    have hmiddle : middle < starts.length := by omega
    if starts[middle] = offset then .found middle
    else if starts[middle] < offset then locateIn starts offset (middle + 1) high hhigh
    else locateIn starts offset low middle (by omega)
  else .missing low
termination_by high - low

/-- The search ends with the last start up to an offset, if there is one. The number of these starts always lies
between the ends of what is searched: a start at the middle tells on which side of it. -/
theorem Location.line?_locateIn {starts : List Nat} (hstarts : starts.Pairwise (· < ·)) {offset low high : Nat}
    (hhigh : high ≤ starts.length) (hpos : 0 < starts.countP (· ≤ offset))
    (hlow : low ≤ starts.countP (· ≤ offset)) (hcount : starts.countP (· ≤ offset) ≤ high) :
    (locateIn starts offset low high hhigh).line? = some (starts.countP (· ≤ offset) - 1) := by
  fun_induction locateIn starts offset low high hhigh with
  | case1 low high hhigh hlt middle hmiddle heq =>
    have hle : middle < starts.countP (· ≤ offset) :=
      (getElem_le_iff_lt_countP hstarts hmiddle).1 (Nat.le_of_eq heq)
    have hge : ¬ middle + 1 < starts.countP (· ≤ offset) := by
      intro hmore
      have hnext : middle + 1 < starts.length := by omega
      have hbefore : starts[middle] < starts[middle + 1] :=
        List.pairwise_iff_getElem.1 hstarts middle (middle + 1) hmiddle hnext (Nat.lt_add_one middle)
      have := (getElem_le_iff_lt_countP hstarts hnext).2 hmore
      omega
    show some middle = _
    congr 1
    omega
  | case2 low high hhigh hlt middle hmiddle hne hless ih =>
    have hbefore : middle < starts.countP (· ≤ offset) :=
      (getElem_le_iff_lt_countP hstarts hmiddle).1 (Nat.le_of_lt hless)
    exact ih hbefore hcount
  | case3 low high hhigh hlt middle hmiddle hne hless ih =>
    have hbehind : ¬ middle < starts.countP (· ≤ offset) := by
      intro hbefore
      have := (getElem_le_iff_lt_countP hstarts hmiddle).2 hbefore
      omega
    exact ih hlow (Nat.le_of_not_lt hbehind)
  | case4 low high hhigh hlt =>
    obtain ⟨place, rfl⟩ : ∃ place, low = place + 1 := ⟨low - 1, by omega⟩
    show some place = _
    congr 1
    omega

namespace Lines

/-- The line that the search for an offset ends with. -/
def locateLine? (l : Lines) (offset : Nat) : Option Nat :=
  (locateIn l.starts offset 0 l.starts.length (Nat.le_refl _)).line?

/-- Where the text of a line ends: in front of the line feed that the next line starts behind. -/
def stop (l : Lines) (line : Nat) : Nat :=
  if line + 1 < l.count then l.start (line + 1) - 1 else byteLength l.text

variable (l : Lines) {front back row : List Char} {qs rs : List (List Char)} {n offset : Nat}

/-- The search never ends in front of the first line. -/
theorem locateLine?_eq (offset : Nat) : l.locateLine? offset = some (l.lineOf offset) :=
  Location.line?_locateIn l.starts_pairwise (Nat.le_refl _) (l.countP_starts_pos offset) (Nat.zero_le _)
    List.countP_le_length

/-! ### What stands on a line -/

/-- What stands between two offsets. -/
theorem slice_eq (htext : l.text = front ++ (row ++ back)) :
    l.slice (byteLength front) (byteLength front + byteLength row) = row := by
  rw [slice, Nat.add_sub_cancel_left, htext, dropBytes_byteLength, takeBytes_byteLength]

theorem slice_of_ge (hn : l.count ≤ n) : l.slice (l.start n) (l.stop n) = [] := by
  have hstop : l.stop n = byteLength l.text + byteLength [] := by
    rw [stop, if_neg (by omega), byteLength_nil, Nat.add_zero]
  rw [l.start_of_ge hn, hstop]
  exact l.slice_eq (by rw [List.append_nil, List.append_nil])

/-- A row stands between its start and the line feed behind it. -/
theorem slice_row (h : rows l.text = qs ++ row :: rs) : l.slice (l.start qs.length) (l.stop qs.length) = row := by
  have hfree : ∀ r ∈ qs ++ row :: rs, '\n' ∉ r := fun r hr => notMem_of_mem_rows (h ▸ hr)
  have hqs : ∀ r ∈ qs, '\n' ∉ r := fun r hr => hfree r (List.mem_append_left _ hr)
  have hcount : l.count = qs.length + 1 + rs.length := by
    rw [l.count_eq, h, List.length_append, List.length_cons]
    omega
  obtain ⟨back, htext, hback⟩ := exists_rest h
  have hstop : l.stop qs.length = byteLength (wholeLines qs) + byteLength row := by
    rcases hback with ⟨hrs, rfl⟩ | ⟨hrs, more, rfl⟩
    · rw [stop, if_neg (by simp [hcount, hrs]), htext, List.append_nil, byteLength_append]
    · have hwhole : l.text = wholeLines (qs ++ [row]) ++ more := by simp [htext]
      have hlater : ∀ r ∈ qs ++ [row], '\n' ∉ r := fun r hr =>
        hfree r (by rw [List.append_cons]; exact List.mem_append_left _ hr)
      have hnext : l.start (qs.length + 1) = byteLength (wholeLines qs) + (byteLength row + 1) := by
        have hstart := l.start_wholeLines hwhole hlater
        rw [List.length_append, List.length_singleton] at hstart
        rw [hstart, wholeLines_append, byteLength_append]
        simp [byteLength_append]
        rfl
      have hmore : 0 < rs.length := List.length_pos_iff.2 hrs
      rw [stop, if_pos (by omega), hnext]
      omega
  rw [l.start_wholeLines htext hqs, hstop]
  exact l.slice_eq htext

/-- A line is what stands between its start and its line feed, without carriage returns. -/
theorem line_eq_slice (n : Nat) : l.line n = chomp (l.slice (l.start n) (l.stop n)) := by
  by_cases hn : n < l.count
  · obtain ⟨qs, row, rs, hrows, rfl⟩ := l.exists_row hn
    rw [l.line_eq hrows, l.slice_row hrows]
  · have hge : l.count ≤ n := Nat.le_of_not_lt hn
    rw [l.slice_of_ge hge, l.line_of_ge hge]
    rfl

/-- No line holds a line feed. -/
theorem notMem_line (n : Nat) : '\n' ∉ l.line n := by
  intro hmem
  have hkept := (List.dropWhile_sublist _).mem (List.mem_reverse.1 hmem)
  have hall := List.all_eq_true.1 List.all_takeWhile _ (List.mem_reverse.1 hkept)
  simp at hall

/-! ### Positions of offsets -/

/-- The characters between the start of its line and an offset. -/
theorem slice_lineOf (htext : l.text = front ++ back) :
    ∃ lines last, front = lines ++ last ∧ '\n' ∉ last ∧ (lines = [] ∨ ∃ earlier, lines = earlier ++ ['\n']) ∧
      l.slice (l.start (l.lineOf (byteLength front))) (byteLength front) = last := by
  obtain ⟨lines, last, rfl, hlast, hlines⟩ := exists_lastLine front
  have hwhole : l.text = lines ++ (last ++ back) := by rw [htext, List.append_assoc]
  have hcount : (lines ++ last).count '\n' = lines.count '\n' := by
    rw [List.count_append, List.count_eq_zero.2 hlast, Nat.add_zero]
  refine ⟨lines, last, rfl, hlast, hlines, ?_⟩
  rw [l.lineOf_byteLength htext, hcount, l.start_count hwhole hlines, byteLength_append]
  exact l.slice_eq hwhole

/-- The line of an offset and the number of characters in front of it on this line stand for the offset. -/
theorem offset_lineOf (htext : l.text = front ++ back) :
    l.offset ⟨l.lineOf (byteLength front) + 1,
      (l.slice (l.start (l.lineOf (byteLength front))) (byteLength front)).length⟩ = byteLength front := by
  obtain ⟨lines, last, hfront, hlast, hlines, hslice⟩ := l.slice_lineOf htext
  have hposition : Position.origin.afterAll front = ⟨l.lineOf (byteLength front) + 1, last.length⟩ := by
    have hline : (Position.origin.afterAll front).line = l.lineOf (byteLength front) + 1 := by
      rw [Position.line_afterAll, l.lineOf_byteLength htext, Nat.add_comm]
      rfl
    have hcolumn : (Position.origin.afterAll front).column = last.length := by
      rw [hfront, Position.column_afterAll hlast hlines]
    rw [← hline, ← hcolumn]
  rw [hslice, ← hposition, l.offset_afterAll htext]

/-- A line starts right behind the line feed in front of it. -/
theorem exists_start (hn : n < l.count) :
    ∃ front back, l.text = front ++ back ∧ l.start n = byteLength front ∧ front.count '\n' = n ∧
      (front = [] ∨ ∃ earlier, front = earlier ++ ['\n']) := by
  obtain ⟨qs, row, rs, hrows, rfl⟩ := l.exists_row hn
  have hqs : ∀ r ∈ qs, '\n' ∉ r := fun r hr =>
    notMem_of_mem_rows (hrows.symm ▸ List.mem_append_left _ hr : r ∈ rows l.text)
  obtain ⟨back, htext, -⟩ := exists_rest hrows
  exact ⟨wholeLines qs, row ++ back, htext, l.start_wholeLines htext hqs, count_wholeLines hqs, wholeLines_end qs⟩

/-- Lines, positions and offsets of a text belong together. The search for the line of an offset always ends with
a line. An offset between two characters is on the line with as many line feeds in front of it as there are in
front of the offset; the position of this line, counted from one, and of the characters between its start and the
offset stands for the offset. A line is what stands between its start and its line feed without carriage returns,
and holds no line feed. Each line starts right behind the line feed in front of it. -/
theorem places_exact :
    (∀ offset, l.locateLine? offset = some (l.lineOf offset)) ∧
    (∀ front back, l.text = front ++ back →
      l.lineOf (byteLength front) = front.count '\n' ∧
      l.offset ⟨l.lineOf (byteLength front) + 1,
        (l.slice (l.start (l.lineOf (byteLength front))) (byteLength front)).length⟩ = byteLength front) ∧
    (∀ n, l.line n = chomp (l.slice (l.start n) (l.stop n)) ∧ '\n' ∉ l.line n) ∧
    ∀ n, n < l.count → ∃ front back, l.text = front ++ back ∧ l.start n = byteLength front ∧
      front.count '\n' = n ∧ (front = [] ∨ ∃ earlier, front = earlier ++ ['\n']) := by
  refine ⟨l.locateLine?_eq, fun front back htext => ?_, fun n => ?_, fun n => l.exists_start⟩
  · exact ⟨l.lineOf_byteLength htext, l.offset_lineOf htext⟩
  · exact ⟨l.line_eq_slice n, l.notMem_line n⟩

end Lines

/-- Four lines, of which the third one is empty and the last one has no line feed. -/
def fourLines : List Char := ['a', 'b', '\n', 'c', 'd', '\n', '\n', 'x', '\u00e9']

/-- The offset between the characters of the last line, and the start of this line. -/
theorem fourLines_exact :
    (Lines.ofText fourLines).locateLine? 8 = some 3 ∧ (Lines.ofText fourLines).offset ⟨4, 1⟩ = 8 ∧
      fourLines = ['a', 'b', '\n', 'c', 'd', '\n', '\n', 'x'] ++ ['\u00e9'] ∧ 3 < (Lines.ofText fourLines).count ∧
      ∃ front back, fourLines = front ++ back ∧ (Lines.ofText fourLines).start 3 = byteLength front ∧
        front.count '\n' = 3 ∧ (front = [] ∨ ∃ earlier, front = earlier ++ ['\n']) := by
  have hcount : 3 < (Lines.ofText fourLines).count := by decide
  have htext : fourLines = ['a', 'b', '\n', 'c', 'd', '\n', '\n', 'x'] ++ ['\u00e9'] := rfl
  obtain ⟨hsearch, hplaces, -, hstarts⟩ := (Lines.ofText fourLines).places_exact
  obtain ⟨-, hoffset⟩ := hplaces _ _ htext
  exact ⟨hsearch 8, hoffset, htext, hcount, hstarts 3 hcount⟩

end RecordSql.Source
