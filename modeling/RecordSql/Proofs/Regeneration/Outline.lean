import RecordSql.Proofs.Regeneration.Snippets

/-!
# Regions among rows

The rows between the braces of a body are searched for the first region of each kind. A region that is up to date
is the first of its kind, and between its markers stands what would be written there.

- `Outline`: a region with the rows in front of it and behind it.
- `Fresh`, `regionText_fresh`: the rows of a region as they are written.
- `Current`: the first region of a kind is up to date.
- `Current.insert_front`: rows that are inserted in front leave a region up to date.
-/

namespace RecordSql.Generate

open RecordSql.Source RecordSql.Text

/-! ### Outlines -/

/-- A region among rows. The first and the last row hold the braces around them, and are no part of the search. -/
structure Outline where
  head : List Char
  front : List (List Char)
  opening : List Char
  contents : List (List Char)
  closing : List Char
  back : List (List Char)
  last : List Char

namespace Outline

variable (o : Outline) {inner : List Char} {k : Region}

/-- All rows. -/
def rows : List (List Char) :=
  o.head :: (o.front ++ o.opening :: (o.contents ++ o.closing :: (o.back ++ [o.last])))

/-- The text in front of the contents of the region. -/
def before : List Char := wholeLines (o.head :: (o.front ++ [o.opening]))

/-- The text behind the contents of the region. -/
def behind : List Char := wholeLines (o.closing :: o.back) ++ o.last

/-- The whole text. -/
def text : List Char := o.before ++ wholeLines o.contents ++ o.behind

/-- The rows are marked as the first region of a kind. -/
structure Marks (k : Region) : Prop where
  opens : sideOf? k o.opening = some .start
  closes : sideOf? k o.closing = some .stop
  first : ∀ row ∈ o.front, sideOf? k row ≠ some .start
  within : ∀ row ∈ o.contents, sideOf? k row ≠ some .stop

variable {o}

theorem eq_text (h : Source.rows inner = o.rows) : inner = o.text := by
  have hrows : o.rows =
      (o.head :: (o.front ++ o.opening :: (o.contents ++ o.closing :: o.back))) ++ [o.last] := by simp [rows]
  rw [eq_wholeLines_of_rows (h.trans hrows), text, before, behind]
  simp

theorem rows_text (h : ∀ row ∈ o.rows, '\n' ∉ row) : Source.rows o.text = o.rows := by
  have hrows : o.rows =
      (o.head :: (o.front ++ o.opening :: (o.contents ++ o.closing :: o.back))) ++ [o.last] := by simp [rows]
  have htext : o.text =
      wholeLines (o.head :: (o.front ++ o.opening :: (o.contents ++ o.closing :: o.back))) ++ o.last := by
    simp [text, before, behind]
  rw [hrows] at h ⊢
  rw [htext, rows_wholeLines_last (fun row hrow => h row (List.mem_append_left _ hrow)) (h o.last (by simp))]

end Outline

/-- The rows between the first and the last one. -/
def between (rs : List (List Char)) : List (List Char) := rs.tail.dropLast

section

variable {k k' : Region} {s : Side} {row : List Char} {rs : List (List Char)} {o : Outline}

theorem between_cons_concat (first : List Char) (rs : List (List Char)) (last : List Char) :
    between (first :: (rs ++ [last])) = rs := List.dropLast_concat

theorem Outline.between_rows (o : Outline) :
    between o.rows = o.front ++ o.opening :: (o.contents ++ o.closing :: o.back) := by
  have htail : o.rows.tail = (o.front ++ o.opening :: (o.contents ++ o.closing :: o.back)) ++ [o.last] := by
    simp [Outline.rows]
  rw [between, htail, List.dropLast_concat]

theorem Outline.rows_eq (o : Outline) : o.rows = o.head :: (between o.rows ++ [o.last]) := by
  rw [o.between_rows]
  simp [Outline.rows]

/-- The text of a row that is a marker. -/
theorem trim_of_sideOf? (h : sideOf? k row = some s) : trim row = (k.marker s).toList := by
  simp only [sideOf?] at h
  split at h
  · cases h
    assumption
  · split at h
    · cases h
      assumption
    · cases h

/-- A marker of one region is none of another one. -/
theorem sideOf?_other (h : sideOf? k row = some s) (hk : k' ≠ k) : sideOf? k' row = none := by
  rw [sideOf?, trim_of_sideOf? h]
  cases k <;> cases k' <;> cases s <;> first | rfl | exact absurd rfl hk

theorem sides_dropLast (h : ∀ row ∈ rs.head?, sideOf? k row = none) :
    sides k rs.dropLast = sides k (between rs) := by
  cases rs with
  | nil => rfl
  | cons row rs =>
    cases rs with
    | nil => rfl
    | cons row' rs =>
      rw [List.dropLast_cons_of_ne_nil (List.cons_ne_nil _ _), sides_cons_none (h row rfl), between,
        List.tail_cons]

/-! ### Regions as they are written -/

/-- The blanks in front of a row. -/
def rowIndent (row : List Char) : String := String.ofList (row.takeWhile isBlank)

theorem rowIndent_isIndent (h : '\n' ∉ row) : IsIndent (rowIndent row) := by
  constructor
  · intro c hc
    rw [rowIndent, String.toList_ofList] at hc
    exact List.all_eq_true.1 (List.all_takeWhile (l := row) (p := isBlank)) c hc
  · rw [rowIndent, String.toList_ofList]
    exact fun hmem => h ((List.takeWhile_prefix _).subset hmem)

/-- The rows of a region as they are written for some fields. -/
structure Fresh (k : Region) (fields : List DeclaredField) (opening : List Char) (contents : List (List Char))
    (closing : List Char) : Prop where
  opens : sideOf? k opening = some .start
  closes : sideOf? k closing = some .stop
  plain : ∀ row ∈ contents, ∀ k', sideOf? k' row = none
  inline : ∀ row ∈ opening :: (contents ++ [closing]), '\n' ∉ row
  text : wholeLines contents = (k.body (rowIndent opening) fields).toList

variable {fields : List DeclaredField} {opening closing : List Char} {contents : List (List Char)}

theorem Fresh.sides_self (h : Fresh k fields opening contents closing) :
    sides k (opening :: (contents ++ [closing])) = [.start, .stop] := by
  rw [sides_cons_some h.opens, sides_append, sides_eq_nil fun row hrow => h.plain row hrow k,
    sides_cons_some h.closes]
  rfl

theorem Fresh.sides_other (h : Fresh k fields opening contents closing) (hk : k' ≠ k) :
    sides k' (opening :: (contents ++ [closing])) = [] := by
  rw [sides_cons_none (sideOf?_other h.opens hk), sides_append,
    sides_eq_nil fun row hrow => h.plain row hrow k', sides_cons_none (sideOf?_other h.closes hk)]
  rfl

/-- New contents for a region. -/
theorem exists_fresh (hopens : sideOf? k opening = some .start) (hcloses : sideOf? k closing = some .stop)
    (hopening : '\n' ∉ opening) (hclosing : '\n' ∉ closing) (hfields : ∀ f ∈ fields, f.Inline) :
    ∃ contents, Fresh k fields opening contents closing := by
  obtain ⟨contents, htext, hcontents⟩ := k.body_plain (rowIndent_isIndent hopening) hfields
  refine ⟨contents, hopens, hcloses, fun row hrow => (hcontents row hrow).2, ?_, htext.symm⟩
  refine List.forall_mem_cons.2 ⟨hopening, List.forall_mem_append.2 ⟨?_, List.forall_mem_singleton.2 hclosing⟩⟩
  exact fun row hrow => (hcontents row hrow).1

/-- A region that is inserted. -/
theorem regionText_fresh {indent : String} (k : Region) (hindent : IsIndent indent)
    (hfields : ∀ f ∈ fields, f.Inline) :
    ∃ opening contents closing, Fresh k fields opening contents closing ∧
      (regionText k indent fields).toList = wholeLines (opening :: (contents ++ [closing])) := by
  have hmarker : ∀ s, '\n' ∉ (k.marker s).toList := fun s => by
    cases k <;> cases s <;> decide
  have hinline : ∀ s, '\n' ∉ indent.toList ++ (k.marker s).toList := fun s hmem =>
    (List.mem_append.1 hmem).elim hindent.inline (hmarker s)
  have hself : ∀ s, sideOf? k (indent.toList ++ (k.marker s).toList) = some s := fun s => by
    rw [sideOf?_marker hindent.blank, if_pos rfl]
  obtain ⟨contents, hfresh⟩ := exists_fresh (hself .start) (hself .stop) (hinline _) (hinline _) hfields
  have hrow : rowIndent (indent.toList ++ (k.marker .start).toList) = indent := by
    have hslash : ∃ cs, (k.marker .start).toList = '/' :: cs := by cases k <;> exact ⟨_, rfl⟩
    obtain ⟨cs, hcs⟩ := hslash
    have hstop : isBlank '/' = false := by decide
    rw [rowIndent, hcs, List.takeWhile_append_of_pos hindent.blank, List.takeWhile_cons, hstop]
    simp
  refine ⟨_, contents, _, hfresh, ?_⟩
  have hfeed : "\n".toList = ['\n'] := rfl
  have htext := hfresh.text
  rw [hrow] at htext
  simp [regionText, htext, hfeed]

/-! ### Regions that are up to date -/

/-- The first region of a kind is up to date. -/
def Current (k : Region) (fields : List DeclaredField) (rs : List (List Char)) : Prop :=
  ∃ o : Outline, o.rows = rs ∧ o.Marks k ∧ wholeLines o.contents = (k.body (rowIndent o.opening) fields).toList

theorem Fresh.current (h : Fresh k fields o.opening o.contents o.closing)
    (hfirst : ∀ row ∈ o.front, sideOf? k row ≠ some .start) : Current k fields o.rows := by
  refine ⟨o, rfl, ⟨h.opens, h.closes, hfirst, fun row hrow hside => ?_⟩, h.text⟩
  rw [h.plain row hrow k] at hside
  cases hside

/-- A region at the front is the first of its kind. -/
theorem Fresh.current_front (h : Fresh k fields opening contents closing) (hrs : rs ≠ []) (row : List Char) :
    Current k fields (row :: (opening :: (contents ++ [closing]) ++ rs)) := by
  rcases List.eq_nil_or_concat rs with rfl | ⟨back, last, rfl⟩
  · exact absurd rfl hrs
  · have hcurrent := Fresh.current (o := ⟨row, [], opening, contents, closing, back, last⟩) h (List.forall_mem_nil _)
    simpa [Outline.rows] using hcurrent

/-- A region at the back is the first of its kind if there is no other. -/
theorem Fresh.current_back (h : Fresh k fields opening contents closing) (hrs : rs ≠ [])
    (hnone : ∀ row ∈ rs.tail, sideOf? k row ≠ some .start) (row : List Char) :
    Current k fields (rs ++ (opening :: (contents ++ [closing]) ++ [row])) := by
  cases rs with
  | nil => exact absurd rfl hrs
  | cons head rs =>
    have hcurrent := Fresh.current (o := ⟨head, rs, opening, contents, closing, [], row⟩) h hnone
    simpa [Outline.rows] using hcurrent

/-- Rows in front without starts of the region do not matter. -/
theorem Current.insert_front (h : Current k fields rs) {more : List (List Char)}
    (hmore : ∀ row ∈ more, sideOf? k row ≠ some .start)
    (hhead : ∀ row ∈ rs.head?, sideOf? k row ≠ some .start) (row : List Char) :
    Current k fields (row :: (more ++ rs)) := by
  obtain ⟨o, rfl, hmarks, htext⟩ := h
  refine ⟨⟨row, more ++ o.head :: o.front, o.opening, o.contents, o.closing, o.back, o.last⟩, ?_,
    ⟨hmarks.opens, hmarks.closes, ?_, hmarks.within⟩, htext⟩
  · simp [Outline.rows]
  · exact List.forall_mem_append.2 ⟨hmore, List.forall_mem_cons.2 ⟨hhead _ rfl, hmarks.first⟩⟩

end

end RecordSql.Generate
