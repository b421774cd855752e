import RecordSql.Proofs.Placement.Lines

/-!
# Rows of a text

A text consists of rows with line feeds between them. What is said of the lines of a text by their numbers
is said here of its rows, so that a text can be taken apart and put together without counting.

- `rows`, `wholeLines`: the rows of a text, and rows as a text of whole lines.
- `rows_append`: where two texts meet, the last row of one and the first row of the other become one.
- `Lines.start_wholeLines`, `Lines.line_eq`: where a row starts, and what its line is.
-/

namespace RecordSql.Source

open RecordSql.Text

/-- The lines of a text without their line feeds. -/
def rows (text : List Char) : List (List Char) := text.splitOn '\n'

/-- Rows as a text, with a line feed behind each of them. -/
def wholeLines (rs : List (List Char)) : List Char := rs.flatMap (· ++ ['\n'])

/-- A row without the carriage returns at its end. -/
def chomp (row : List Char) : List Char := (row.reverse.dropWhile (· = '\r')).reverse

section

variable {text front back row : List Char} {rs qs : List (List Char)}

/-! ### Rows -/

@[simp] theorem wholeLines_nil : wholeLines [] = [] := rfl

@[simp] theorem wholeLines_cons (row : List Char) (rs : List (List Char)) :
    wholeLines (row :: rs) = row ++ '\n' :: wholeLines rs := by
  simp [wholeLines]

@[simp] theorem wholeLines_append (qs rs : List (List Char)) :
    wholeLines (qs ++ rs) = wholeLines qs ++ wholeLines rs := List.flatMap_append

theorem rows_of_notMem (h : '\n' ∉ text) : rows text = [text] := List.splitOn_eq_singleton h

theorem rows_append_feed (front back : List Char) :
    rows (front ++ '\n' :: back) = rows front ++ rows back := List.splitOn_append_cons_self front back

/-- Whole lines are rows of their own. -/
theorem rows_wholeLines (hrs : ∀ row ∈ rs, '\n' ∉ row) (text : List Char) :
    rows (wholeLines rs ++ text) = rs ++ rows text := by
  induction rs with
  | nil => rfl
  | cons row rs ih =>
    obtain ⟨hrow, hrs⟩ := List.forall_mem_cons.1 hrs
    rw [wholeLines_cons, List.append_assoc, List.cons_append, rows_append_feed, rows_of_notMem hrow, ih hrs]
    rfl

/-- Every text is some whole lines and a last row. -/
theorem exists_rows (text : List Char) :
    ∃ rs last, text = wholeLines rs ++ last ∧ (∀ row ∈ rs, '\n' ∉ row) ∧ '\n' ∉ last := by
  induction text with
  | nil => exact ⟨[], [], rfl, List.forall_mem_nil _, List.not_mem_nil⟩
  | cons c text ih =>
    obtain ⟨rs, last, rfl, hrs, hlast⟩ := ih
    by_cases hfeed : c = '\n'
    · exact ⟨[] :: rs, last, by simp [hfeed], List.forall_mem_cons.2 ⟨List.not_mem_nil, hrs⟩, hlast⟩
    · have hnot : ∀ {row : List Char}, '\n' ∉ row → '\n' ∉ c :: row := fun hrow hmem =>
        (List.mem_cons.1 hmem).elim (fun h => hfeed h.symm) hrow
      cases rs with
      | nil => exact ⟨[], c :: last, rfl, List.forall_mem_nil _, hnot hlast⟩
      | cons row rs =>
        obtain ⟨hrow, hrs⟩ := List.forall_mem_cons.1 hrs
        exact ⟨(c :: row) :: rs, last, by simp, List.forall_mem_cons.2 ⟨hnot hrow, hrs⟩, hlast⟩

theorem rows_wholeLines_last (hrs : ∀ row ∈ rs, '\n' ∉ row) (hlast : '\n' ∉ row) :
    rows (wholeLines rs ++ row) = rs ++ [row] := by
  rw [rows_wholeLines hrs, rows_of_notMem hlast]

theorem exists_firstRow (text : List Char) : ∃ row rs, rows text = row :: rs :=
  List.exists_cons_of_ne_nil (List.splitOn_ne_nil '\n' text)

theorem exists_lastRow (text : List Char) : ∃ rs last, rows text = rs ++ [last] := by
  obtain ⟨rs, last, rfl, hrs, hlast⟩ := exists_rows text
  exact ⟨rs, last, rows_wholeLines_last hrs hlast⟩

/-- The rows of a text hold no line feeds. -/
theorem notMem_of_mem_rows (h : row ∈ rows text) : '\n' ∉ row := by
  obtain ⟨rs, last, rfl, hrs, hlast⟩ := exists_rows text
  rw [rows_wholeLines_last hrs hlast] at h
  rcases List.mem_append.1 h with h | h
  · exact hrs row h
  · rwa [List.mem_singleton.1 h]

theorem eq_wholeLines_of_rows (h : rows text = rs ++ [row]) : text = wholeLines rs ++ row := by
  obtain ⟨rs', last, rfl, hrs, hlast⟩ := exists_rows text
  rw [rows_wholeLines_last hrs hlast] at h
  obtain ⟨rfl, hrow⟩ := List.append_inj' h rfl
  rw [List.singleton_inj.1 hrow]

/-- A row stands behind the whole lines in front of it, and a line feed follows unless it is the last one. -/
theorem exists_rest (h : rows text = qs ++ row :: rs) :
    ∃ back, text = wholeLines qs ++ (row ++ back) ∧
      (rs = [] ∧ back = [] ∨ rs ≠ [] ∧ ∃ more, back = '\n' :: more) := by
  induction rs using List.reverseRecOn with
  | nil => exact ⟨[], by rw [eq_wholeLines_of_rows h, List.append_nil], .inl ⟨rfl, rfl⟩⟩
  | append_singleton rs last _ =>
    rw [← List.cons_append, ← List.append_assoc] at h
    have htext : text = wholeLines qs ++ (row ++ '\n' :: (wholeLines rs ++ last)) := by
      simp [eq_wholeLines_of_rows h]
    exact ⟨_, htext, .inr ⟨by simp, _, rfl⟩⟩

/-- Where two texts meet, the last row of one and the first row of the other become one. -/
theorem rows_append (hfront : rows front = qs ++ [row]) {row' : List Char}
    (hback : rows back = row' :: rs) : rows (front ++ back) = qs ++ (row ++ row') :: rs := by
  have hfree : ∀ {r : List Char}, r ∈ qs ++ [row] → '\n' ∉ r := fun hr => notMem_of_mem_rows (hfront ▸ hr)
  have hrow : '\n' ∉ row := hfree (by simp)
  have hmeet : ∀ {text : List Char} {r : List Char} {more : List (List Char)}, rows text = r :: more →
      rows (row ++ text) = (row ++ r) :: more := by
    intro text r more h
    obtain ⟨rs', last, rfl, hrs, hlast⟩ := exists_rows text
    rw [rows_wholeLines_last hrs hlast] at h
    cases rs' with
    | nil =>
      obtain ⟨rfl, rfl⟩ := List.cons_eq_cons.1 h
      exact rows_of_notMem (by simp [hrow, hlast])
    | cons first rs' =>
      obtain ⟨rfl, rfl⟩ := List.cons_eq_cons.1 h
      obtain ⟨hfirst, hrs⟩ := List.forall_mem_cons.1 hrs
      rw [wholeLines_cons, List.append_assoc, List.cons_append, ← List.append_assoc, rows_append_feed,
        rows_of_notMem (by simp [hrow, hfirst]), rows_wholeLines_last hrs hlast]
      rfl
  rw [eq_wholeLines_of_rows hfront, List.append_assoc,
    rows_wholeLines (fun r hr => hfree (List.mem_append_left _ hr)), hmeet hback]

/-- Whole lines end with a line feed. -/
theorem wholeLines_end (rs : List (List Char)) :
    wholeLines rs = [] ∨ ∃ earlier, wholeLines rs = earlier ++ ['\n'] := by
  induction rs using List.reverseRecOn with
  | nil => exact .inl rfl
  | append_singleton rs row _ => exact .inr ⟨wholeLines rs ++ row, by simp⟩

theorem count_wholeLines (hrs : ∀ row ∈ rs, '\n' ∉ row) : (wholeLines rs).count '\n' = rs.length := by
  induction rs with
  | nil => rfl
  | cons row rs ih =>
    obtain ⟨hrow, hrs⟩ := List.forall_mem_cons.1 hrs
    rw [wholeLines_cons, List.count_append, List.count_cons_self, List.count_eq_zero.2 hrow, ih hrs,
      List.length_cons, Nat.zero_add]

/-- There are as many rows in front of the last one as there are line feeds. -/
theorem count_of_rows (h : rows text = rs ++ [row]) : text.count '\n' = rs.length := by
  have hfree : ∀ r ∈ rs ++ [row], '\n' ∉ r := fun r hr => notMem_of_mem_rows (h.symm ▸ hr : r ∈ rows text)
  obtain ⟨hrs, hrow⟩ := List.forall_mem_append.1 hfree
  rw [eq_wholeLines_of_rows h, List.count_append, count_wholeLines hrs,
    List.count_eq_zero.2 (hrow row List.mem_cons_self), Nat.add_zero]

end

/-! ### Lines by their rows -/

namespace Lines

variable (l : Lines) {text row back : List Char} {rs qs : List (List Char)} {n : Nat}

theorem count_eq : l.count = (rows l.text).length := by
  obtain ⟨rs, last, hrows⟩ := exists_lastRow l.text
  rw [count, l.starts_eq, lineStarts, List.length_cons, length_offsetsBehindFeeds, count_of_rows hrows, hrows,
    List.length_append, List.length_singleton]

/-- Each line has its row. -/
theorem exists_row (hn : n < l.count) : ∃ qs row rs, rows l.text = qs ++ row :: rs ∧ qs.length = n := by
  rw [l.count_eq] at hn
  refine ⟨(rows l.text).take n, (rows l.text)[n], (rows l.text).drop (n + 1), ?_, ?_⟩
  · rw [← List.drop_eq_getElem_cons hn, List.take_append_drop]
  · rw [List.length_take]
    omega

/-- A row starts behind the whole lines in front of it. -/
theorem start_wholeLines (htext : l.text = wholeLines rs ++ back) (hrs : ∀ row ∈ rs, '\n' ∉ row) :
    l.start rs.length = byteLength (wholeLines rs) := by
  rw [← count_wholeLines hrs]
  exact l.start_count htext (wholeLines_end rs)

/-- The rows in front of the line of an offset. -/
theorem take_lineOf {front : List Char} (htext : l.text = front ++ back) (hfront : rows front = rs ++ [row]) :
    (rows l.text).take (l.lineOf (byteLength front)) = rs := by
  obtain ⟨row', more, hback⟩ := exists_firstRow back
  rw [l.lineOf_byteLength htext, htext, rows_append hfront hback, count_of_rows hfront, List.take_left]

/-- A line is its row without carriage returns. -/
theorem line_eq (h : rows l.text = qs ++ row :: rs) : l.line qs.length = chomp row := by
  have hfree : ∀ r ∈ qs ++ row :: rs, '\n' ∉ r := fun r hr => notMem_of_mem_rows (h ▸ hr)
  have hqs : ∀ r ∈ qs, '\n' ∉ r := fun r hr => hfree r (List.mem_append_left _ hr)
  have hrow : '\n' ∉ row := hfree row (by simp)
  obtain ⟨back, htext, hback⟩ := exists_rest h
  have htake : (row ++ back).takeWhile (· ≠ '\n') = row := by
    have hall : ∀ c ∈ row, decide (c ≠ '\n') = true := fun c hc => by
      simpa using fun heq : c = '\n' => hrow (heq ▸ hc)
    rw [List.takeWhile_append_of_pos hall]
    rcases hback with ⟨-, rfl⟩ | ⟨-, more, rfl⟩ <;> simp
  rw [line, l.start_wholeLines htext hqs, htext, dropBytes_byteLength]
  simp only [htake]
  rfl

/-- Behind the last line there is nothing. -/
theorem line_of_ge (hn : l.count ≤ n) : l.line n = [] := by
  have hrest : dropBytes (l.start n) l.text = [] := by
    have hdrop := dropBytes_byteLength l.text []
    rwa [List.append_nil, ← l.start_of_ge hn] at hdrop
  rw [line, hrest]
  rfl

end Lines

end RecordSql.Source
