import RecordSql.Proofs.Regeneration.Frame
import RecordSql.Proofs.Regeneration.Update

/-!
# Files in order

One run does not bring every file up to date. A region that is inserted within another one, or beside a marker on
the line of a brace, unbalances the markers, and two records that share a body disturb each other. In a file that
is in order, nothing of this kind happens. Its regions can be brought up to date, and so can those of some other
files, in which the markers are not balanced afterwards.

- `Tidy`, `Orderly`: the regions of a body can be replaced or inserted; a file in order.
- `Roomy`, `Writable`: there is room for the regions of a body that are missing; a file that can be brought up to
  date.
- `Encloses.ready`: the rows of a roomy body are ready for both edits.
- `Orderly.writable`: a file in order can be brought up to date.
-/

namespace RecordSql.Generate

open RecordSql.Source RecordSql.Text

/-! ### Conditions -/

/-- What stands between the braces of a body. -/
def innerText (l : Lines) (b : Body) : List Char := l.slice (b.opening + 1) b.closing

/-- The regions of a body can be replaced or inserted: a region that is there holds no markers, and one that is
missing would neither part a marker from a brace nor stand within another region. -/
structure Tidy (l : Lines) (b : Body) : Prop where
  clean : ∀ k, ∀ pair ∈ regionIn? l b k, ∀ n < pair.stop, pair.start < n → ∀ k', sideOf? k' (l.line n) = none
  behindOpening : regionIn? l b .fields = none →
    ∀ row ∈ (rows (innerText l b)).head?, ∀ k, sideOf? k row = none
  beforeClosing : regionIn? l b .methods = none →
    ∀ row ∈ (rows (innerText l b)).getLast?, ∀ k, sideOf? k row = none
  fields : regionIn? l b .fields = none → ClosedBefore l .fields (l.lineOf b.opening)
  methods : regionIn? l b .methods = none → ClosedBefore l .methods (l.lineOf b.closing)

/-- A file in order: it begins with no byte order mark, its records have bodies of their own, no two regions share
a line, and wherever something is inserted no region is open. -/
structure Orderly (text : List Char) (records : List SourceRecord) : Prop where
  read : sourceRecords? (.ofText text) = some records
  head : text.head? ≠ some byteOrderMark
  unshared : records.Pairwise fun r s => ∀ b ∈ r.bodies, b ∉ s.bodies
  apart : RegionsApart (.ofText text) records
  tidy : ∀ r ∈ records, ∀ b ∈ chosenBody? (.ofText text) r.bodies, Tidy (.ofText text) b
  closed : ∀ r ∈ records, r.bodies = [] →
    ∀ k, ClosedBefore (.ofText text) k ((Lines.ofText text).lineOf r.stop)

/-- There is room for the regions of a body that are missing: what stands beside the braces is no marker, and no
region of methods is left open. -/
structure Roomy (l : Lines) (b : Body) : Prop where
  behindOpening : regionIn? l b .fields = none →
    ∀ row ∈ (rows (innerText l b)).head?, ∀ k, sideOf? k row = none
  beforeClosing : regionIn? l b .methods = none →
    ∀ row ∈ (rows (innerText l b)).getLast?, ∀ k, sideOf? k row = none
  unopened : regionIn? l b .methods = none →
    ∀ row ∈ between (rows (innerText l b)), sideOf? .methods row ≠ some .start

/-- A file that can be brought up to date: it begins with no byte order mark, its records have bodies of their own,
no two regions that are replaced share a line, and there is room for those that are missing. -/
structure Writable (text : List Char) (records : List SourceRecord) : Prop where
  read : sourceRecords? (.ofText text) = some records
  head : text.head? ≠ some byteOrderMark
  unshared : records.Pairwise fun r s => ∀ b ∈ r.bodies, b ∉ s.bodies
  apart : RegionsApart (.ofText text) records
  roomy : ∀ r ∈ records, ∀ b ∈ chosenBody? (.ofText text) r.bodies, Roomy (.ofText text) b

instance {p : Region → Prop} [DecidablePred p] : Decidable (∀ k, p k) :=
  decidable_of_iff (p .fields ∧ p .methods)
    ⟨fun h k => by cases k; exacts [h.1, h.2], fun h => ⟨h .fields, h .methods⟩⟩

instance (l : Lines) (b : Body) : Decidable (Tidy l b) :=
  decidable_of_iff (_ ∧ _ ∧ _ ∧ _ ∧ _)
    ⟨fun ⟨h₁, h₂, h₃, h₄, h₅⟩ => ⟨h₁, h₂, h₃, h₄, h₅⟩, fun ⟨h₁, h₂, h₃, h₄, h₅⟩ => ⟨h₁, h₂, h₃, h₄, h₅⟩⟩

instance (text : List Char) (records : List SourceRecord) : Decidable (Orderly text records) :=
  decidable_of_iff (_ ∧ _ ∧ _ ∧ _ ∧ _ ∧ _)
    ⟨fun ⟨h₁, h₂, h₃, h₄, h₅, h₆⟩ => ⟨h₁, h₂, h₃, h₄, h₅, h₆⟩,
      fun ⟨h₁, h₂, h₃, h₄, h₅, h₆⟩ => ⟨h₁, h₂, h₃, h₄, h₅, h₆⟩⟩

instance (l : Lines) (b : Body) : Decidable (Roomy l b) :=
  decidable_of_iff (_ ∧ _ ∧ _) ⟨fun ⟨h₁, h₂, h₃⟩ => ⟨h₁, h₂, h₃⟩, fun ⟨h₁, h₂, h₃⟩ => ⟨h₁, h₂, h₃⟩⟩

instance (text : List Char) (records : List SourceRecord) : Decidable (Writable text records) :=
  decidable_of_iff (_ ∧ _ ∧ _ ∧ _ ∧ _)
    ⟨fun ⟨h₁, h₂, h₃, h₄, h₅⟩ => ⟨h₁, h₂, h₃, h₄, h₅⟩, fun ⟨h₁, h₂, h₃, h₄, h₅⟩ => ⟨h₁, h₂, h₃, h₄, h₅⟩⟩

/-! ### Regions that are open -/

section

variable {k : Region} {s : Side} {isOpen : Bool} {front back : List Side} {rs : List (List Char)}

/-- What is opened is closed. -/
theorem runSides_stop_mem (h : runSides isOpen (front ++ .start :: back) = some false) : .stop ∈ back := by
  rw [runSides_append] at h
  obtain ⟨now, -, h⟩ := Option.bind_eq_some_iff.1 h
  cases now with
  | true => cases h
  | false =>
    match back, h with
    | .stop :: _, _ => exact List.mem_cons_self

/-- The first marker among some rows. -/
theorem exists_firstMarker (h : s ∈ sides k rs) :
    ∃ front row back, rs = front ++ row :: back ∧ sideOf? k row = some s ∧
      ∀ row ∈ front, sideOf? k row ≠ some s := by
  induction rs with
  | nil => cases h
  | cons row rs ih =>
    by_cases hrow : sideOf? k row = some s
    · exact ⟨[], row, rs, rfl, hrow, List.forall_mem_nil _⟩
    · obtain ⟨row', hmem, hside⟩ := List.mem_filterMap.1 h
      have hrs : s ∈ sides k rs := by
        rcases List.mem_cons.1 hmem with rfl | hmem
        · exact absurd hside hrow
        · exact List.mem_filterMap.2 ⟨row', hmem, hside⟩
      obtain ⟨front, row'', back, rfl, hside', hfront⟩ := ih hrs
      exact ⟨row :: front, row'', back, rfl, hside', List.forall_mem_cons.2 ⟨hrow, hfront⟩⟩

end

/-- A row with a brace is no marker. -/
theorem sideOf?_brace {row : List Char} (hrow : '\x7b' ∈ row ∨ '\x7d' ∈ row) (k : Region) : sideOf? k row = none := by
  rcases hrow with hrow | hrow
  · exact sideOf?_of_mem hrow (by decide) (fun k s => by cases k <;> cases s <;> decide) k
  · exact sideOf?_of_mem hrow (by decide) (fun k s => by cases k <;> cases s <;> decide) k

/-! ### Rows of a tidy body -/

namespace Encloses

variable {text front inner back : List Char} {b : Body} {k : Region}

theorem innerText_eq (h : Encloses text b front inner back) : innerText (.ofText text) b = inner := by
  have htext : (Lines.ofText text).text = (front ++ ['\x7b']) ++ (inner ++ '\x7d' :: back) := by
    rw [List.append_assoc]
    exact h.text_eq
  have hlength : b.closing - (b.opening + 1) = byteLength inner := by
    rw [h.closing_eq, h.opening_eq]
    omega
  rw [innerText, Lines.slice, htext, ← h.byteLength_opening, dropBytes_byteLength, h.byteLength_opening, hlength,
    takeBytes_byteLength]

/-- The rows of a text with a body: those of its braces are no markers. -/
theorem rows_around (h : Encloses text b front inner back) {earlier later : List (List Char)} {row row' : List Char}
    (hfront : rows front = earlier ++ [row]) (hback : rows back = row' :: later) :
    ∃ upper closing, rows text = earlier ++ (upper ++ closing :: later) ∧
      (earlier ++ upper).length = (Lines.ofText text).lineOf b.closing ∧
      (∀ k, sides k upper = sides k (between (rows inner))) ∧ ∀ k, sideOf? k closing = none := by
  have hbraces : rows ['\x7b'] = [] ++ [['\x7b']] ∧ rows ['\x7d'] = [] ++ [['\x7d']] := ⟨rfl, rfl⟩
  have hcloses : rows ('\x7d' :: back) = ('\x7d' :: row') :: later := rows_append hbraces.2 hback
  rw [h.lineOf_closing, count_of_rows hfront, h.text_eq]
  obtain ⟨rs, last, hinner⟩ := exists_lastRow inner
  rw [count_of_rows hinner]
  cases rs with
  | nil =>
    have hline := rows_append hinner hcloses
    refine ⟨[], row ++ '\x7b' :: (last ++ '\x7d' :: row'), ?_, List.length_append, fun k => ?_, fun k => ?_⟩
    · exact rows_append hfront (rows_append hbraces.1 hline)
    · rw [hinner]
      rfl
    · exact sideOf?_brace (.inl (by simp)) k
  | cons first rs =>
    have hlines := rows_append hinner hcloses
    refine ⟨(row ++ '\x7b' :: first) :: rs, last ++ '\x7d' :: row', ?_, List.length_append, fun k => ?_, fun k => ?_⟩
    · have hall := rows_append hfront (rows_append hbraces.1 hlines)
      simpa using hall
    · rw [hinner, List.cons_append, between_cons_concat, sides_cons_none (sideOf?_brace (.inl (by simp)) k)]
    · exact sideOf?_brace (.inr (by simp)) k

/-- The markers of a text with a body. -/
theorem sides_text (h : Encloses text b front inner back) {earlier later : List (List Char)} {row row' : List Char}
    (hfront : rows front = earlier ++ [row]) (hback : rows back = row' :: later) (k : Region) :
    sides k (rows text) = sides k earlier ++ (sides k (between (rows inner)) ++ sides k later) := by
  obtain ⟨upper, closing, hrows, -, hupper, hclosing⟩ := h.rows_around hfront hback
  rw [hrows, sides_append, sides_append, hupper, sides_cons_none (hclosing k)]

/-- The markers in front of the closing brace of a body. -/
theorem sides_beforeClosing (h : Encloses text b front inner back) {earlier : List (List Char)} {row : List Char}
    (hfront : rows front = earlier ++ [row]) (k : Region) :
    sides k ((rows text).take ((Lines.ofText text).lineOf b.closing)) =
      sides k earlier ++ sides k (between (rows inner)) := by
  obtain ⟨row', later, hback⟩ := exists_firstRow back
  obtain ⟨upper, closing, hrows, hlength, hupper, -⟩ := h.rows_around hfront hback
  rw [hrows, ← List.append_assoc, ← hlength, List.take_left, sides_append, hupper]

/-- A region of methods that begins in a body is found there, unless it is open in front of the closing brace. -/
theorem found_methods (h : Encloses text b front inner back)
    (hclosed : ClosedBefore (.ofText text) .methods ((Lines.ofText text).lineOf b.closing)) {row : List Char}
    (hrow : row ∈ between (rows inner)) (hside : sideOf? .methods row = some .start) : Found .methods (rows inner) := by
  obtain ⟨earlier, final, hfront⟩ := exists_lastRow front
  rw [closedBefore_iff, show (Lines.ofText text).text = text from rfl, h.sides_beforeClosing hfront] at hclosed
  obtain ⟨front', opening, more, hbetween, hopens, hfirst⟩ :=
    exists_firstMarker (List.mem_filterMap.2 ⟨row, hrow, hside⟩)
  rw [hbetween, sides_append, sides_cons_some hopens, ← List.append_assoc] at hclosed
  obtain ⟨contents, closing, back', rfl, hcloses, hwithin⟩ := exists_firstMarker (runSides_stop_mem hclosed)
  exact .of_between hbetween hopens hcloses hfirst hwithin

/-- The rows between the markers of a region are the lines there. -/
theorem line_contents (h : Encloses text b front inner back) {o : Outline} (hinner : rows inner = o.rows)
    {row : List Char} (hrow : row ∈ o.contents) :
    ∃ n, front.count '\n' + 1 + o.front.length < n ∧
      n < front.count '\n' + 1 + o.front.length + 1 + o.contents.length ∧
      (Lines.ofText text).line n = chomp row := by
  obtain ⟨earlier, more, row₀, row', hrows, hearlier⟩ := h.rows_text (hinner.trans o.rows_eq)
  obtain ⟨contents, contents', hcontents⟩ := List.append_of_mem hrow
  have hall : rows (Lines.ofText text).text = (earlier ++ (row₀ ++ '\x7b' :: o.head) ::
      (o.front ++ o.opening :: contents)) ++
        row :: (contents' ++ o.closing :: (o.back ++ (o.last ++ '\x7d' :: row') :: more)) := by
    refine hrows.trans ?_
    rw [o.between_rows, hcontents]
    simp
  have hline := Lines.line_eq _ hall
  refine ⟨_, ?_, ?_, hline⟩
  · simp only [List.length_append, List.length_cons, hearlier]
    omega
  · rw [hcontents]
    simp only [List.length_append, List.length_cons, hearlier]
    omega

/-- The regions of a tidy body hold no markers. -/
theorem clean (h : Encloses text b front inner back) (htidy : Tidy (.ofText text) b) : Clean (rows inner) := by
  intro k o ho hmarks row hrow k'
  obtain ⟨n, hstart, hstop, hline⟩ := h.line_contents ho.symm hrow
  have hclean := htidy.clean k _ (h.regionIn?_eq_some_iff.2 ⟨o, ho.symm, hmarks, rfl⟩) n hstop hstart k'
  rwa [hline, sideOf?_chomp] at hclean

/-- There is room in a tidy body. -/
theorem roomy (h : Encloses text b front inner back) (htidy : Tidy (.ofText text) b) : Roomy (.ofText text) b := by
  refine ⟨htidy.behindOpening, htidy.beforeClosing, fun hnone row hrow hside => ?_⟩
  rw [h.innerText_eq] at hrow
  exact h.found_iff.1 (h.found_methods (htidy.methods hnone) hrow hside) hnone

/-- The rows of a roomy body are ready for both edits. -/
theorem ready (h : Encloses text b front inner back) (hroomy : Roomy (.ofText text) b)
    (hapart : ∀ pair pair', regionIn? (.ofText text) b .fields = some pair →
      regionIn? (.ofText text) b .methods = some pair' → pair.stop < pair'.start ∨ pair'.stop < pair.start) :
    Ready (rows inner) := by
  have hinner := h.innerText_eq
  constructor
  · exact fun hnot => hinner ▸ hroomy.behindOpening (h.regionIn?_of_missing hnot)
  · exact fun hnot => hinner ▸ hroomy.beforeClosing (h.regionIn?_of_missing hnot)
  · exact fun hnot => hinner ▸ hroomy.unopened (h.regionIn?_of_missing hnot)
  · intro o o' ho ho' hmarks hmarks'
    have hpairs := hapart _ _ (h.regionIn?_eq_some_iff.2 ⟨o, ho.symm, hmarks, rfl⟩)
      (h.regionIn?_eq_some_iff.2 ⟨o', ho'.symm, hmarks', rfl⟩)
    dsimp only at hpairs
    omega

end Encloses

/-! ### Bodies of a file -/

section

variable {text : List Char} {records : List SourceRecord} {r : SourceRecord} {b : Body}

/-- A body of a record stands between its braces. -/
theorem Writable.encloses (h : Writable text records) (hr : r ∈ records) (hb : b ∈ r.bodies) :
    ∃ front inner back, Encloses text b front inner back := by
  obtain ⟨front, inner, back, htext, hopening, hclosing⟩ := sourceRecords?_body h.read h.head hr hb
  exact ⟨front, inner, back, htext, hopening, hclosing⟩

/-- The rows of the body in which regions are written are ready for both edits. -/
theorem Writable.ready {front inner back : List Char} (h : Writable text records) (hr : r ∈ records)
    (hchosen : chosenBody? (.ofText text) r.bodies = some b) (hbody : Encloses text b front inner back) :
    Ready (rows inner) := by
  refine hbody.ready (h.roomy r hr b hchosen) fun pair pair' hpair hpair' => ?_
  have hregions := (List.pairwise_flatMap.1 h.apart).1 r hr
  rw [replacedRegions, hchosen, Option.toList_some, List.flatMap_singleton, hpair, hpair'] at hregions
  exact List.pairwise_pair (R := fun p q : MarkedLines => p.stop < q.start ∨ q.stop < p.start).1 hregions

/-- A file in order can be brought up to date. -/
theorem Orderly.writable (h : Orderly text records) : Writable text records := by
  refine ⟨h.read, h.head, h.unshared, h.apart, fun r hr b hchosen => ?_⟩
  obtain ⟨front, inner, back, htext, hopening, hclosing⟩ :=
    sourceRecords?_body h.read h.head hr (chosenBody?_mem hchosen)
  have hbody : Encloses text b front inner back := ⟨htext, hopening, hclosing⟩
  exact hbody.roomy (h.tidy r hr b hchosen)

end

end RecordSql.Generate
