import RecordSql.Generate.Regeneration
import RecordSql.Proofs.Regeneration.Outline
import RecordSql.Proofs.Regeneration.Splice

/-!
# Edits of a body

The edits for a body depend on what stands between its braces, and on the blanks in front of its lines. They are
described here by the rows of this text.

- `Encloses`: a text with the braces of a body.
- `regionIn?_eq_some_iff`: the region that is found is an outline of the rows between the braces.
- `regionEdit_replace`, `regionEdit_fields`, `regionEdit_methods`: the edits of a body.
-/

namespace RecordSql.Generate

open RecordSql.Source RecordSql.Text

/-! ### Searching rows -/

section

variable {l : Lines} {k : Region} {s : Side} {front rs back : List (List Char)} {n : Nat}

/-- The first marker among some rows of a text. -/
theorem findSide?_rows (h : rows l.text = front ++ (rs ++ back)) :
    findSide? l k s front.length (front.length + rs.length) = some n ↔
      ∃ (earlier : List (List Char)) (row : List Char) (later : List (List Char)),
        rs = earlier ++ row :: later ∧ sideOf? k row = some s ∧ (∀ row ∈ earlier, sideOf? k row ≠ some s) ∧ n = front.length + earlier.length := by
  rw [findSide?, Nat.add_sub_cancel_left]
  induction rs generalizing front with
  | nil => simp
  | cons row rs ih =>
    have hrow : sideOf? k (l.line front.length) = sideOf? k row := by rw [l.line_eq h, sideOf?_chomp]
    have hmore := ih (show rows l.text = (front ++ [row]) ++ (rs ++ back) by simp [h])
    rw [List.length_append, List.length_singleton] at hmore
    rw [List.length_cons, List.range'_succ, List.find?_cons, hrow]
    by_cases hside : sideOf? k row = some s
    · simp only [hside, decide_true, Option.some.injEq]
      constructor
      · rintro rfl
        exact ⟨[], row, rs, rfl, hside, List.forall_mem_nil _, rfl⟩
      · rintro ⟨earlier, row', later, heq, hside', hearlier, rfl⟩
        cases earlier with
        | nil => rfl
        | cons first earlier =>
          obtain ⟨rfl, -⟩ := List.cons_eq_cons.1 heq
          exact absurd hside (hearlier _ List.mem_cons_self)
    · simp only [hside, decide_false]
      rw [hmore]
      constructor
      · rintro ⟨earlier, row', later, rfl, hside', hearlier, rfl⟩
        refine ⟨row :: earlier, row', later, rfl, hside', List.forall_mem_cons.2 ⟨hside, hearlier⟩, ?_⟩
        rw [List.length_cons]
        omega
      · rintro ⟨earlier, row', later, heq, hside', hearlier, rfl⟩
        cases earlier with
        | nil =>
          obtain ⟨rfl, -⟩ := List.cons_eq_cons.1 heq
          exact absurd hside' hside
        | cons first earlier =>
          obtain ⟨rfl, rfl⟩ := List.cons_eq_cons.1 heq
          refine ⟨earlier, row', later, rfl, hside', (List.forall_mem_cons.1 hearlier).2, ?_⟩
          rw [List.length_cons]
          omega

/-- The first region among some rows of a text. -/
theorem firstPair?_rows (h : rows l.text = front ++ (rs ++ back)) (pair : MarkedLines) :
    firstPair? l k front.length (front.length + rs.length) = some pair ↔
      ∃ (earlier : List (List Char)) (opening : List Char) (contents : List (List Char)) (closing : List Char)
        (later : List (List Char)), rs = earlier ++ opening :: (contents ++ closing :: later) ∧
        (∀ row ∈ earlier, sideOf? k row ≠ some .start) ∧ sideOf? k opening = some .start ∧
        (∀ row ∈ contents, sideOf? k row ≠ some .stop) ∧ sideOf? k closing = some .stop ∧
        pair = ⟨front.length + earlier.length, front.length + earlier.length + 1 + contents.length⟩ := by
  have hbehind : ∀ {earlier later : List (List Char)} {opening : List Char},
      rs = earlier ++ opening :: later → ∀ {n},
      findSide? l k .stop (front.length + earlier.length + 1) (front.length + rs.length) = some n ↔
        ∃ (contents : List (List Char)) (closing : List Char) (more : List (List Char)),
          later = contents ++ closing :: more ∧ sideOf? k closing = some .stop ∧ (∀ row ∈ contents, sideOf? k row ≠ some .stop) ∧
          n = front.length + earlier.length + 1 + contents.length := by
    intro earlier later opening hrs n
    have hrows : rows l.text = (front ++ earlier ++ [opening]) ++ (later ++ back) := by simp [h, hrs]
    have hfind := findSide?_rows (k := k) (s := .stop) (n := n) hrows
    have hfirst : (front ++ earlier ++ [opening]).length = front.length + earlier.length + 1 := by simp [Nat.add_assoc]
    have hlast : front.length + earlier.length + 1 + later.length = front.length + rs.length := by
      simp only [hrs, List.length_append, List.length_cons]
      omega
    rwa [hfirst, hlast] at hfind
  constructor
  · intro hpair
    obtain ⟨start, hstart, hpair⟩ := Option.bind_eq_some_iff.1 hpair
    obtain ⟨stop, hstop, hpair⟩ := Option.bind_eq_some_iff.1 hpair
    cases hpair
    obtain ⟨earlier, opening, later, hrs, hopens, hearlier, rfl⟩ := (findSide?_rows h).1 hstart
    obtain ⟨contents, closing, more, rfl, hcloses, hcontents, rfl⟩ := (hbehind hrs).1 hstop
    exact ⟨earlier, opening, contents, closing, more, hrs, hearlier, hopens, hcontents, hcloses, rfl⟩
  · rintro ⟨earlier, opening, contents, closing, later, hrs, hearlier, hopens, hcontents, hcloses, rfl⟩
    refine Option.bind_eq_some_iff.2 ⟨front.length + earlier.length, ?_, Option.bind_eq_some_iff.2 ⟨_, ?_, rfl⟩⟩
    · exact (findSide?_rows h).2 ⟨earlier, opening, _, hrs, hopens, hearlier, rfl⟩
    · exact (hbehind hrs).2 ⟨contents, closing, later, rfl, hcloses, hcontents, rfl⟩

end

/-! ### Indentation -/

section

variable {l : Lines} {k : Region} {s : Side} {row : List Char} {front back : List (List Char)} {c : Char}

/-- A marker is not blank. -/
theorem exists_mem_of_sideOf? (h : sideOf? k row = some s) : ∃ c ∈ row, isBlank c = false := by
  by_contra hblank
  push Not at hblank
  rw [sideOf?_blank (fun c hc => by simpa using hblank c hc) k] at h
  cases h

/-- Carriage returns do not matter for the blanks in front of a row that is not blank. -/
theorem takeWhile_chomp (hc : c ∈ row) (hblank : isBlank c = false) :
    (chomp row).takeWhile isBlank = row.takeWhile isBlank := by
  obtain ⟨n, hn⟩ := exists_chomp row
  have hshort : ((chomp row).takeWhile isBlank).length ≠ (chomp row).length := by
    intro hlength
    have hall := (List.takeWhile_sublist (l := chomp row) isBlank).eq_of_length hlength
    rw [hn] at hc
    rcases List.mem_append.1 hc with hc | hc
    · rw [← hall] at hc
      exact absurd (List.all_eq_true.1 List.all_takeWhile c hc) (by simp [hblank])
    · rw [List.eq_of_mem_replicate hc] at hblank
      cases hblank
  conv_rhs => rw [hn, List.takeWhile_append, if_neg hshort]

/-- The blanks in front of a line are those in front of its row. -/
theorem indentOf_rows (h : rows l.text = front ++ row :: back) (hc : c ∈ row) (hblank : isBlank c = false) :
    indentOf l front.length = rowIndent row := by
  rw [indentOf, Lines.indentation, l.line_eq h, takeWhile_chomp hc hblank, rowIndent]

theorem isIndent_indentOf (l : Lines) (line : Nat) : IsIndent (indentOf l line) := by
  have hline : '\n' ∉ l.line line := by
    intro hmem
    obtain ⟨n, hn⟩ := exists_chomp ((dropBytes (l.start line) l.text).takeWhile (· ≠ '\n'))
    have htake : '\n' ∈ (dropBytes (l.start line) l.text).takeWhile (· ≠ '\n') :=
      hn ▸ List.mem_append_left _ hmem
    simpa using List.all_eq_true.1 List.all_takeWhile _ htake
  exact rowIndent_isIndent hline

end

/-! ### Bodies in a text -/

/-- The braces of a body in a text. -/
structure Encloses (text : List Char) (b : Body) (front inner back : List Char) : Prop where
  text_eq : text = front ++ '\x7b' :: (inner ++ '\x7d' :: back)
  opening_eq : b.opening = byteLength front
  closing_eq : b.closing = byteLength front + 1 + byteLength inner

/-- The edit that replaces the contents of a region in a body. -/
def Outline.replacement (o : Outline) (front : List Char) (k : Region) (fields : List DeclaredField) : Edit where
  start := byteLength (front ++ '\x7b' :: o.before)
  stop := byteLength (front ++ '\x7b' :: o.before) + byteLength (wholeLines o.contents)
  text := (k.body (rowIndent o.opening) fields).toList

namespace Encloses

variable {text front inner back : List Char} {b : Body} {k : Region} {fields : List DeclaredField}
  {pair : MarkedLines} {o : Outline}

theorem byteLength_opening (h : Encloses text b front inner back) :
    byteLength (front ++ ['\x7b']) = b.opening + 1 := by
  rw [byteLength_append, h.opening_eq]
  rfl

theorem byteLength_inner (h : Encloses text b front inner back) :
    byteLength (front ++ '\x7b' :: inner) = b.closing := by
  have hone : ('\x7b' : Char).utf8Size = 1 := rfl
  rw [byteLength_append, byteLength_cons, h.closing_eq, hone]
  omega

theorem lineOf_opening (h : Encloses text b front inner back) :
    (Lines.ofText text).lineOf b.opening = front.count '\n' := by
  rw [h.opening_eq]
  exact Lines.lineOf_byteLength _ h.text_eq

theorem lineOf_closing (h : Encloses text b front inner back) :
    (Lines.ofText text).lineOf b.closing = front.count '\n' + inner.count '\n' := by
  have htext : (Lines.ofText text).text = (front ++ '\x7b' :: inner) ++ '\x7d' :: back := by
    rw [List.append_assoc]
    exact h.text_eq
  rw [← h.byteLength_inner, Lines.lineOf_byteLength _ htext, List.count_append,
    List.count_cons_of_ne (by decide)]

/-- The rows of a text with a body of several rows. -/
theorem rows_text (h : Encloses text b front inner back) {first last : List Char} {rs : List (List Char)}
    (hinner : rows inner = first :: (rs ++ [last])) :
    ∃ earlier more row row', rows text = earlier ++ (row ++ '\x7b' :: first) :: (rs ++ (last ++ '\x7d' :: row') :: more) ∧
      earlier.length = front.count '\n' := by
  obtain ⟨earlier, row, hfront⟩ := exists_lastRow front
  obtain ⟨row', more, hback⟩ := exists_firstRow back
  have hbraces : rows ['\x7b'] = [] ++ [['\x7b']] ∧ rows ['\x7d'] = [] ++ [['\x7d']] := ⟨rfl, rfl⟩
  have hlast : rows inner = (first :: rs) ++ [last] := hinner
  have hclosing : rows ('\x7d' :: back) = ('\x7d' :: row') :: more := rows_append hbraces.2 hback
  have hbehind : rows (inner ++ '\x7d' :: back) = first :: (rs ++ (last ++ '\x7d' :: row') :: more) :=
    rows_append hlast hclosing
  have hopening : rows ('\x7b' :: (inner ++ '\x7d' :: back)) =
      ('\x7b' :: first) :: (rs ++ (last ++ '\x7d' :: row') :: more) :=
    rows_append hbraces.1 hbehind
  exact ⟨earlier, more, row, row', by rw [h.text_eq, rows_append hfront hopening], (count_of_rows hfront).symm⟩

/-- The first region between the braces of a body. -/
theorem regionIn?_eq_some_iff (h : Encloses text b front inner back) :
    regionIn? (.ofText text) b k = some pair ↔ ∃ o : Outline, rows inner = o.rows ∧ o.Marks k ∧
      pair = ⟨front.count '\n' + 1 + o.front.length,
        front.count '\n' + 1 + o.front.length + 1 + o.contents.length⟩ := by
  have hfound : regionIn? (.ofText text) b k =
      firstPair? (.ofText text) k (front.count '\n' + 1) (front.count '\n' + inner.count '\n') := by
    rw [← h.lineOf_closing, ← h.lineOf_opening]
    rfl
  rw [hfound]
  obtain ⟨lines, last, hrows⟩ := exists_lastRow inner
  have hcount := count_of_rows hrows
  cases lines with
  | nil =>
    have hnone : firstPair? (.ofText text) k (front.count '\n' + 1) (front.count '\n' + 0) = none := by
      simp [firstPair?, findSide?]
    rw [hcount, List.length_nil, hnone]
    refine iff_of_false nofun ?_
    rintro ⟨o, ho, -⟩
    rw [hrows] at ho
    simp [Outline.rows] at ho
  | cons first rs =>
    obtain ⟨earlier, more, row, row', htext, hearlier⟩ := h.rows_text hrows
    have hlines : rows (Lines.ofText text).text =
        (earlier ++ [row ++ '\x7b' :: first]) ++ (rs ++ (last ++ '\x7d' :: row') :: more) :=
      htext.trans (by simp)
    have hpair := firstPair?_rows (k := k) hlines pair
    rw [List.length_append, List.length_singleton, hearlier] at hpair
    rw [hcount, List.length_cons, Nat.add_comm rs.length, ← Nat.add_assoc, hpair]
    constructor
    · rintro ⟨front', opening, contents, closing, later, rfl, hfirst, hopens, hwithin, hcloses, rfl⟩
      refine ⟨⟨first, front', opening, contents, closing, later, last⟩, ?_, ⟨hopens, hcloses, hfirst, hwithin⟩, rfl⟩
      simp [hrows, Outline.rows]
    · rintro ⟨o, ho, hmarks, rfl⟩
      refine ⟨o.front, o.opening, o.contents, o.closing, o.back, ?_, hmarks.first, hmarks.opens, hmarks.within,
        hmarks.closes, rfl⟩
      have hbetween := o.between_rows
      rwa [← ho, hrows, between, List.cons_append, List.tail_cons, List.dropLast_concat] at hbetween

/-! ### Edits -/

/-- The contents of a region in a text with a body. -/
theorem text_outline (h : Encloses text b front inner back) (hinner : rows inner = o.rows) :
    (Lines.ofText text).text =
      (front ++ '\x7b' :: o.before) ++ (wholeLines o.contents ++ (o.behind ++ '\x7d' :: back)) := by
  refine h.text_eq.trans ?_
  rw [Outline.eq_text hinner, Outline.text]
  simp

/-- A region is replaced between its markers. -/
theorem replaceRegion_eq (h : Encloses text b front inner back) (hinner : rows inner = o.rows)
    (hmarks : o.Marks k) :
    replaceRegion (.ofText text) k ⟨front.count '\n' + 1 + o.front.length,
      front.count '\n' + 1 + o.front.length + 1 + o.contents.length⟩ fields = o.replacement front k fields := by
  have hfree : ∀ row ∈ o.rows, '\n' ∉ row := fun row hrow => notMem_of_mem_rows (hinner ▸ hrow)
  have hbefore : ∀ row ∈ o.head :: (o.front ++ [o.opening]), '\n' ∉ row := fun row hrow =>
    hfree row (by simp only [Outline.rows, List.mem_cons, List.mem_append] at hrow ⊢; tauto)
  have hcontents : ∀ row ∈ o.contents, '\n' ∉ row := fun row hrow => hfree row (by simp [Outline.rows, hrow])
  have htext := h.text_outline hinner
  have hcount : (front ++ '\x7b' :: o.before).count '\n' = front.count '\n' + 1 + o.front.length + 1 := by
    rw [List.count_append, List.count_cons_of_ne (by decide), Outline.before, count_wholeLines hbefore]
    simp only [List.length_cons, List.length_append, List.length_nil]
    omega
  have hfeed : ∀ rs : List (List Char), ∃ earlier, front ++ '\x7b' :: (o.before ++ wholeLines rs) = earlier ++ ['\n'] := by
    intro rs
    rcases List.eq_nil_or_concat rs with rfl | ⟨rs, row, rfl⟩
    · exact ⟨front ++ '\x7b' :: (wholeLines (o.head :: o.front) ++ o.opening), by simp [Outline.before]⟩
    · exact ⟨front ++ '\x7b' :: (o.before ++ (wholeLines rs ++ row)), by simp⟩
  have hstart := Lines.start_count (.ofText text) htext (.inr (by simpa using hfeed []))
  have hstop := Lines.start_count (.ofText text) (htext.trans (List.append_assoc _ (wholeLines o.contents) _).symm)
    (.inr (by simpa using hfeed o.contents))
  rw [List.count_append, hcount, count_wholeLines hcontents] at hstop
  rw [hcount] at hstart
  obtain ⟨c, hc, hblank⟩ := exists_mem_of_sideOf? hmarks.opens
  have hindent : indentOf (.ofText text) (front.count '\n' + 1 + o.front.length) = rowIndent o.opening := by
    obtain ⟨earlier, more, row, row', hrows, hearlier⟩ :=
      h.rows_text (hinner.trans o.rows_eq)
    have hlines : rows (Lines.ofText text).text = (earlier ++ (row ++ '\x7b' :: o.head) :: o.front) ++
        o.opening :: (o.contents ++ o.closing :: (o.back ++ (o.last ++ '\x7d' :: row') :: more)) := by
      refine hrows.trans ?_
      rw [o.between_rows]
      simp
    have hline := indentOf_rows hlines hc hblank
    rw [List.length_append, List.length_cons, hearlier] at hline
    rw [← hline]
    congr 1
    omega
  rw [replaceRegion, Outline.replacement, hindent, hstart, hstop, byteLength_append (_ ++ _)]

/-- The edit of a region that is found. -/
theorem regionEdit_replace (h : Encloses text b front inner back)
    (hpair : regionIn? (.ofText text) b k = some pair) (fields : List DeclaredField) :
    ∃ o : Outline, rows inner = o.rows ∧ o.Marks k ∧
      regionEdit (.ofText text) b k fields = o.replacement front k fields := by
  obtain ⟨o, hinner, hmarks, rfl⟩ := h.regionIn?_eq_some_iff.1 hpair
  refine ⟨o, hinner, hmarks, ?_⟩
  simp only [regionEdit, hpair, h.replaceRegion_eq hinner hmarks]

/-- The edit that inserts the region of field names. -/
theorem regionEdit_fields (h : Encloses text b front inner back)
    (hnone : regionIn? (.ofText text) b .fields = none) (fields : List DeclaredField) :
    ∃ indent, IsIndent indent ∧ regionEdit (.ofText text) b .fields fields =
      .insert (byteLength (front ++ ['\x7b'])) ('\n' :: (regionText .fields indent fields).toList) := by
  refine ⟨_, (isIndent_indentOf (.ofText text) ((Lines.ofText text).lineOf b.opening)).nested, ?_⟩
  simp [regionEdit, hnone, h.byteLength_opening, insertFields, innerIndent]

/-- If the closing brace stands on a line of its own, there is nothing but blanks in the last row. -/
theorem closesOnOwnLine_rows (h : Encloses text b front inner back)
    (hown : closesOnOwnLine (.ofText text) b = true) :
    ∃ lines last, rows inner = lines ++ [last] ∧ lines ≠ [] ∧ (∀ c ∈ last, isBlank c) ∧
      (Lines.ofText text).start ((Lines.ofText text).lineOf b.closing) =
        byteLength (front ++ '\x7b' :: wholeLines lines) := by
  simp only [closesOnOwnLine, Bool.and_eq_true, decide_eq_true_eq, h.lineOf_opening, h.lineOf_closing] at hown
  obtain ⟨hlt, hindent⟩ := hown
  obtain ⟨lines, last, hrows⟩ := exists_lastRow inner
  have hinner := eq_wholeLines_of_rows hrows
  have hlines : ∀ row ∈ lines, '\n' ∉ row := fun row hrow =>
    notMem_of_mem_rows (hrows.symm ▸ List.mem_append_left _ hrow : row ∈ rows inner)
  have hcount := count_of_rows hrows
  have hne : lines ≠ [] := by
    rintro rfl
    rw [hcount] at hlt
    exact absurd hlt (Nat.lt_irrefl _)
  obtain ⟨first, rs, rfl⟩ := List.exists_cons_of_ne_nil hne
  obtain ⟨earlier, more, row, row', htext, hearlier⟩ := h.rows_text hrows
  have hstart : (Lines.ofText text).start (front.count '\n' + inner.count '\n') =
      byteLength (front ++ '\x7b' :: wholeLines (first :: rs)) := by
    have hwhole : (Lines.ofText text).text =
        (front ++ '\x7b' :: wholeLines (first :: rs)) ++ (last ++ '\x7d' :: back) := by
      refine h.text_eq.trans ?_
      rw [hinner]
      simp
    have hends : ∃ before, front ++ '\x7b' :: wholeLines (first :: rs) = before ++ ['\n'] := by
      rcases List.eq_nil_or_concat rs with rfl | ⟨rs, final, rfl⟩
      · exact ⟨front ++ '\x7b' :: first, by simp⟩
      · exact ⟨front ++ '\x7b' :: (wholeLines (first :: rs) ++ final), by simp⟩
    have hfeeds := Lines.start_count (.ofText text) hwhole (.inr hends)
    rwa [List.count_append, List.count_cons_of_ne (by decide), count_wholeLines hlines, ← hcount] at hfeeds
  refine ⟨first :: rs, last, hrows, hne, ?_, by rw [h.lineOf_closing, hstart]⟩
  -- The row of the closing brace holds it, so that its indentation ends in front of the brace.
  have hline : indentOf (.ofText text) (front.count '\n' + inner.count '\n') = rowIndent last := by
    have hclosing : rows (Lines.ofText text).text =
        (earlier ++ (row ++ '\x7b' :: first) :: rs) ++ (last ++ '\x7d' :: row') :: more :=
      htext.trans (by simp)
    have hrow := indentOf_rows hclosing (c := '\x7d') (by simp) rfl
    rw [List.length_append, List.length_cons, hearlier] at hrow
    rw [hcount, List.length_cons, hrow, rowIndent, rowIndent, List.takeWhile_append]
    split
    · rename_i hlength
      rw [(List.takeWhile_sublist (l := last) isBlank).eq_of_length hlength]
      simp [isBlank]
    · rfl
  have hblanks : byteLength last = byteLength (last.takeWhile isBlank) := by
    have htake := congrArg String.toList hline
    rw [indentOf, rowIndent, String.toList_ofList, String.toList_ofList] at htake
    rw [hstart, htake, ← h.byteLength_inner, hinner, ← List.cons_append, ← List.append_assoc front,
      byteLength_append _ last] at hindent
    omega
  have hall : last.takeWhile isBlank = last := by
    obtain ⟨more, hmore⟩ := List.takeWhile_prefix (l := last) isBlank
    exact (eq_of_byteLength_eq ((List.append_nil last).trans hmore.symm) hblanks).1.symm
  exact fun c hc => List.all_eq_true.1 List.all_takeWhile c (by rw [hall]; exact hc)

/-- The edit that inserts the region of methods. -/
theorem regionEdit_methods (h : Encloses text b front inner back)
    (hnone : regionIn? (.ofText text) b .methods = none) (fields : List DeclaredField) :
    ∃ indent, IsIndent indent ∧
      ((∃ lines last, rows inner = lines ++ [last] ∧ lines ≠ [] ∧ (∀ c ∈ last, isBlank c) ∧
        regionEdit (.ofText text) b .methods fields =
          .insert (byteLength (front ++ '\x7b' :: wholeLines lines))
            ('\n' :: (regionText .methods indent fields).toList)) ∨
      ∃ outer, IsIndent outer ∧ regionEdit (.ofText text) b .methods fields =
        .insert (byteLength (front ++ '\x7b' :: inner))
          ('\n' :: (regionText .methods indent fields).toList ++ outer.toList)) := by
  refine ⟨_, (isIndent_indentOf (.ofText text) ((Lines.ofText text).lineOf b.opening)).nested, ?_⟩
  by_cases hown : closesOnOwnLine (.ofText text) b = true
  · obtain ⟨lines, last, hrows, hlines, hlast, hstart⟩ := h.closesOnOwnLine_rows hown
    refine .inl ⟨lines, last, hrows, hlines, hlast, ?_⟩
    simp [regionEdit, hnone, insertMethods, hown, hstart, innerIndent]
  · refine .inr ⟨_, isIndent_indentOf (.ofText text) ((Lines.ofText text).lineOf b.opening), ?_⟩
    simp [regionEdit, hnone, insertMethods, hown, h.byteLength_inner, innerIndent]

end Encloses

end RecordSql.Generate
