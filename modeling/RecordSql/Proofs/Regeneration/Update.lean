import RecordSql.Proofs.Regeneration.Bodies
import RecordSql.Proofs.Regeneration.Regions

/-!
# What becomes of a body

The two edits of a body change its rows in one of three ways: a region is filled anew, a region is prepended
behind the opening brace, or a region is appended in front of the closing one. Afterwards both regions are up to
date, and the markers are those from before, except for any that stood in a region that was filled anew, with a pair
more for each region that was missing.

- `Outline.replacement_apply`, `insert_apply`: one edit of a text with a body.
- `Appended`, `Prepended`: rows with a region more.
- `Remains`: the markers that an edit leaves of some markers.
- `Ready`: rows whose regions can be brought up to date without disturbing each other.
- `Settled`: rows after both edits.
- `body_settled`: the edits of a body settle its rows.
-/

namespace RecordSql.Generate

open RecordSql.Source RecordSql.Text

/-! ### Single edits -/

/-- An outline with other contents. -/
def Outline.refill (o : Outline) (contents : List (List Char)) : Outline := { o with contents := contents }

section

variable {k k' : Region} {fields : List DeclaredField} {front : List Char} {o : Outline}
  {contents : List (List Char)}

theorem Outline.replacement_apply (h : wholeLines contents = (k.body (rowIndent o.opening) fields).toList)
    (front back : List Char) :
    (o.replacement front k fields).replaceIn? (front ++ '\x7b' :: (o.text ++ '\x7d' :: back)) =
      some (front ++ '\x7b' :: ((o.refill contents).text ++ '\x7d' :: back)) := by
  refine Edit.replaceIn?_eq_some.2
    ⟨front ++ '\x7b' :: o.before, wholeLines o.contents, o.behind ++ '\x7d' :: back, ?_, rfl, rfl, ?_⟩
  · simp [text]
  · simp [text, refill, before, behind, replacement, h]

theorem insert_apply (front before new after back : List Char) :
    (Edit.insert (byteLength (front ++ '\x7b' :: before)) new).replaceIn?
        (front ++ '\x7b' :: (before ++ after ++ '\x7d' :: back)) =
      some (front ++ '\x7b' :: (before ++ new ++ after ++ '\x7d' :: back)) := by
  refine Edit.replaceIn?_eq_some.2 ⟨front ++ '\x7b' :: before, [], after ++ '\x7d' :: back, ?_, rfl, rfl, ?_⟩
  · simp
  · simp [Edit.insert]

end

/-! ### Rows with a region more -/

/-- A region is appended, behind an empty row if the last row is left to the closing brace, or else behind all
rows. -/
inductive Appended (k : Region) (fields : List DeclaredField) : List (List Char) → List (List Char) → Prop
  | ownLine {lines contents : List (List Char)} {last opening closing : List Char} (hlines : lines ≠ [])
      (hlast : ∀ c ∈ last, isBlank c) (hfresh : Fresh k fields opening contents closing) :
      Appended k fields (lines ++ [last]) (lines ++ ([] :: (opening :: (contents ++ [closing])) ++ [last]))
  | sameLine {lines contents : List (List Char)} {last opening closing outer : List Char}
      (houter : '\n' ∉ outer) (hfresh : Fresh k fields opening contents closing) :
      Appended k fields (lines ++ [last]) (lines ++ (last :: (opening :: (contents ++ [closing])) ++ [outer]))

/-- A region is prepended behind an empty row. -/
inductive Prepended (k : Region) (fields : List DeclaredField) : List (List Char) → List (List Char) → Prop
  | mk {rs contents : List (List Char)} {opening closing : List Char} (hrs : rs ≠ [])
      (hfresh : Fresh k fields opening contents closing) :
      Prepended k fields rs ([] :: (opening :: (contents ++ [closing]) ++ rs))

section

variable {k k' : Region} {fields fields' : List DeclaredField} {rs rs' : List (List Char)} {o : Outline}

/-- A line without a marker starts no region. -/
theorem not_start_of_none {row : List Char} (h : sideOf? k row = none) : sideOf? k row ≠ some .start := by
  simp [h]

theorem Fresh.not_start {opening closing : List Char} {contents : List (List Char)}
    (h : Fresh k fields opening contents closing) (hk : k' ≠ k) :
    ∀ row ∈ opening :: (contents ++ [closing]), sideOf? k' row ≠ some .start := by
  have hnone : ∀ row ∈ opening :: (contents ++ [closing]), sideOf? k' row = none :=
    List.filterMap_eq_nil_iff.1 (h.sides_other hk)
  exact fun row hrow => not_start_of_none (hnone row hrow)

namespace Appended

theorem head?_eq (h : Appended k fields rs rs') : rs'.head? = rs.head? := by
  cases h with
  | @ownLine lines _ _ _ _ hlines =>
    cases lines with
    | nil => exact absurd rfl hlines
    | cons => rfl
  | @sameLine lines => cases lines <;> rfl

theorem current (h : Appended k fields rs rs') (hstarts : ∀ row ∈ between rs, sideOf? k row ≠ some .start)
    (hlast : ∀ row ∈ rs.getLast?, sideOf? k row = none) : Current k fields rs' := by
  cases h with
  | @ownLine lines contents last opening closing hlines hblank hfresh =>
    obtain ⟨head, lines, rfl⟩ := List.exists_cons_of_ne_nil hlines
    have hnone : ∀ row ∈ ((head :: lines) ++ [[]]).tail, sideOf? k row ≠ some .start := by
      rw [between, List.cons_append, List.tail_cons, List.dropLast_concat] at hstarts
      refine List.forall_mem_append.2 ⟨hstarts, List.forall_mem_singleton.2 ?_⟩
      exact not_start_of_none (sideOf?_blank (List.forall_mem_nil _) k)
    simpa using hfresh.current_back (by simp) hnone last
  | @sameLine lines contents last opening closing outer houter hfresh =>
    have hnone : ∀ row ∈ (lines ++ [last]).tail, sideOf? k row ≠ some .start := by
      cases lines with
      | nil => exact List.forall_mem_nil _
      | cons head lines =>
        rw [between, List.cons_append, List.tail_cons, List.dropLast_concat] at hstarts
        refine List.forall_mem_append.2 ⟨hstarts, List.forall_mem_singleton.2 ?_⟩
        exact not_start_of_none (hlast last (by rw [List.getLast?_concat]; rfl))
    simpa using hfresh.current_back (by simp) hnone outer

/-- An outline is kept, whatever its contents are. -/
theorem outline (h : Appended k fields o.rows rs') :
    ∃ back last, rs' = ({ o with back := back, last := last } : Outline).rows ∧
      ∀ contents, Appended k fields (o.refill contents).rows
        (({ o with back := back, last := last } : Outline).refill contents).rows := by
  have hsplit : ∀ contents, (o.refill contents).rows =
      (o.head :: (o.front ++ o.opening :: (contents ++ o.closing :: o.back))) ++ [o.last] := by
    simp [Outline.rows, Outline.refill]
  generalize hrs : o.rows = rs at h
  cases h with
  | @ownLine lines more last opening closing hlines hblank hfresh =>
    obtain ⟨rfl, hlast⟩ := List.append_inj' ((hsplit o.contents).symm.trans hrs) rfl
    refine ⟨o.back ++ [] :: (opening :: (more ++ [closing])), last, by simp [Outline.rows], fun contents => ?_⟩
    rw [hsplit, hlast]
    have hlines : o.head :: (o.front ++ o.opening :: (contents ++ o.closing :: o.back)) ≠ [] := List.cons_ne_nil _ _
    simpa [Outline.rows, Outline.refill] using Appended.ownLine hlines hblank hfresh
  | @sameLine lines more last opening closing outer houter hfresh =>
    obtain ⟨rfl, hlast⟩ := List.append_inj' ((hsplit o.contents).symm.trans hrs) rfl
    refine ⟨o.back ++ last :: (opening :: (more ++ [closing])), outer, by simp [Outline.rows], fun contents => ?_⟩
    rw [hsplit, hlast]
    have h : Appended k fields
        ((o.head :: (o.front ++ o.opening :: (contents ++ o.closing :: o.back))) ++ [last]) _ :=
      .sameLine houter hfresh
    simpa [Outline.rows, Outline.refill] using h

theorem sides_between (h : Appended k fields rs rs') (hlast : ∀ row ∈ rs.getLast?, ∀ k, sideOf? k row = none) :
    sides k (between rs') = sides k (between rs) ++ [Side.start, .stop] ∧
      ∀ k' ≠ k, sides k' (between rs') = sides k' (between rs) := by
  have hstep : ∀ {k' lines pre last last' more}, sideOf? k' pre = none →
      sides k' (between (lines ++ (pre :: more ++ [last']))) =
        sides k' (between (lines ++ [last])) ++ sides k' more := by
    intro k' lines pre last last' more hpre
    cases lines with
    | nil => exact congrArg (sides k') (between_cons_concat pre more last')
    | cons head lines =>
      have hafter : head :: lines ++ (pre :: more ++ [last']) = head :: ((lines ++ pre :: more) ++ [last']) := by
        simp
      rw [hafter, between_cons_concat, List.cons_append, between_cons_concat, sides_append, sides_cons_none hpre]
  have hall : ∃ opening contents closing, Fresh k fields opening contents closing ∧ ∀ k',
      sides k' (between rs') = sides k' (between rs) ++ sides k' (opening :: (contents ++ [closing])) := by
    cases h with
    | ownLine hlines hblank hfresh =>
      exact ⟨_, _, _, hfresh, fun k' => hstep (sideOf?_blank (List.forall_mem_nil _) k')⟩
    | @sameLine lines contents last opening closing outer houter hfresh =>
      refine ⟨_, _, _, hfresh, fun k' => hstep (hlast last ?_ k')⟩
      rw [List.getLast?_concat]
      rfl
  obtain ⟨opening, contents, closing, hfresh, hsides⟩ := hall
  refine ⟨by rw [hsides, hfresh.sides_self], fun k' hk => ?_⟩
  rw [hsides, hfresh.sides_other hk, List.append_nil]

end Appended

namespace Prepended

theorem current (h : Prepended k fields rs rs') : Current k fields rs' := by
  cases h with
  | mk hrs hfresh => exact hfresh.current_front hrs []

theorem keeps (h : Prepended k fields rs rs') (hk : k' ≠ k) (hcurrent : Current k' fields' rs)
    (hhead : ∀ row ∈ rs.head?, sideOf? k' row = none) : Current k' fields' rs' := by
  cases h with
  | mk hrs hfresh =>
    exact hcurrent.insert_front (hfresh.not_start hk) (fun row hrow => not_start_of_none (hhead row hrow)) []

theorem sides_between (h : Prepended k fields rs rs') (hhead : ∀ row ∈ rs.head?, ∀ k, sideOf? k row = none) :
    sides k (between rs') = [Side.start, .stop] ++ sides k (between rs) ∧
      ∀ k' ≠ k, sides k' (between rs') = sides k' (between rs) := by
  cases h with
  | @mk contents opening closing hrs hfresh =>
    have hstep : ∀ k', sides k' (between ([] :: (opening :: (contents ++ [closing]) ++ rs))) =
        sides k' (opening :: (contents ++ [closing])) ++ sides k' (between rs) := by
      intro k'
      rw [between, List.tail_cons, List.dropLast_append_of_ne_nil hrs, sides_append,
        sides_dropLast fun row hrow => hhead row hrow k']
    refine ⟨by rw [hstep, hfresh.sides_self], fun k' hk => ?_⟩
    rw [hstep, hfresh.sides_other hk, List.nil_append]

end Prepended

end

/-- What is left of some markers: all of them if nothing but clean lines has been replaced. -/
structure Remains (clean : Prop) (left markers : List Side) : Prop where
  sublist : left.Sublist markers
  same : clean → left = markers

namespace Remains

variable {clean : Prop} {left middle markers : List Side}

theorem of_eq (h : left = markers) : Remains clean left markers := ⟨h ▸ List.Sublist.refl left, fun _ => h⟩

theorem trans (h : Remains clean left middle) (h' : Remains clean middle markers) : Remains clean left markers :=
  ⟨h.sublist.trans h'.sublist, fun hclean => (h.same hclean).trans (h'.same hclean)⟩

theorem append_left (h : Remains clean left markers) (more : List Side) :
    Remains clean (more ++ left) (more ++ markers) :=
  ⟨h.sublist.append_left more, fun hclean => congrArg (more ++ ·) (h.same hclean)⟩

theorem append_right (h : Remains clean left markers) (more : List Side) :
    Remains clean (left ++ more) (markers ++ more) :=
  ⟨h.sublist.append_right more, fun hclean => congrArg (· ++ more) (h.same hclean)⟩

end Remains

/-- Contents are exchanged for others without markers. -/
theorem Outline.sides_refill {o : Outline} {contents : List (List Char)} {clean : Prop}
    (hold : clean → ∀ row ∈ o.contents, ∀ k, sideOf? k row = none)
    (hnew : ∀ row ∈ contents, ∀ k, sideOf? k row = none) (k : Region) :
    Remains clean (sides k (between (o.refill contents).rows)) (sides k (between o.rows)) := by
  have hsplit : ∀ rs, sides k (between (o.refill rs).rows) =
      sides k (o.front ++ [o.opening]) ++ (sides k rs ++ sides k (o.closing :: o.back)) := by
    intro rs
    have hbetween : between (o.refill rs).rows = (o.front ++ [o.opening]) ++ (rs ++ o.closing :: o.back) := by
      rw [between_rows]
      simp [refill]
    rw [hbetween, sides_append k (o.front ++ [o.opening]), sides_append k rs]
  have hnone : sides k contents = [] := sides_eq_nil fun row hrow => hnew row hrow k
  rw [hsplit contents, show o.rows = (o.refill o.contents).rows from rfl, hsplit o.contents, hnone]
  refine Remains.append_left ⟨List.sublist_append_right _ _, fun hclean => ?_⟩ _
  rw [sides_eq_nil fun row hrow => hold hclean row hrow k]
  rfl

/-! ### Two regions of a body -/

section

variable {k k' : Region} {fields : List DeclaredField} {o o' : Outline} {contents contents' : List (List Char)}

theorem Outline.rows_inline_refill (h : ∀ row ∈ o.rows, '\n' ∉ row) (hcontents : ∀ row ∈ contents, '\n' ∉ row) :
    ∀ row ∈ (o.refill contents).rows, '\n' ∉ row := by
  simp only [rows, refill, List.forall_mem_cons, List.forall_mem_append] at h ⊢
  exact ⟨h.1, h.2.1, h.2.2.1, hcontents, h.2.2.2.2⟩

theorem Outline.text_eq_of_rows (h : o.rows = o'.rows) : o.text = o'.text := by
  have htext : ∀ o : Outline, o.text = wholeLines o.rows.dropLast ++ o.rows.getLast (List.cons_ne_nil _ _) := by
    intro o
    have hrows : o.rows =
        (o.head :: (o.front ++ o.opening :: (o.contents ++ o.closing :: o.back))) ++ [o.last] := by simp [rows]
    simp only [hrows, List.dropLast_concat, List.getLast_concat]
    simp [text, before, behind]
  rw [htext, htext]
  simp only [h]

theorem Outline.getLast?_rows (o : Outline) : o.rows.getLast? = some o.last := by
  rw [o.rows_eq, ← List.cons_append, List.getLast?_concat]

theorem Outline.before_front (o : Outline) : o.before <+: wholeLines o.rows.dropLast := by
  have hrows : o.rows =
      ((o.head :: (o.front ++ [o.opening])) ++ (o.contents ++ o.closing :: o.back)) ++ [o.last] := by simp [rows]
  rw [hrows, List.dropLast_concat, wholeLines_append]
  exact List.prefix_append _ _

/-- Contents without starts do not add one. -/
theorem Outline.not_start_refill (h : ∀ row ∈ between o.rows, sideOf? k row ≠ some .start)
    (hcontents : ∀ row ∈ contents, sideOf? k row = none) :
    ∀ row ∈ between (o.refill contents).rows, sideOf? k row ≠ some .start := by
  have hplain : ∀ row ∈ contents, sideOf? k row ≠ some .start := fun row hrow =>
    not_start_of_none (hcontents row hrow)
  simp only [between_rows, refill, List.forall_mem_append, List.forall_mem_cons] at h ⊢
  exact ⟨h.1, h.2.1, hplain, h.2.2.2⟩

/-- Of two regions that lie apart, the one in front lies in the front of the other one. -/
theorem Outline.exists_middle (hrows : o.rows = o'.rows)
    (hapart : o.front.length + 1 + o.contents.length < o'.front.length) :
    ∃ middle, o'.head = o.head ∧ o'.front = o.front ++ o.opening :: (o.contents ++ o.closing :: middle) ∧
      o.back = middle ++ o'.opening :: (o'.contents ++ o'.closing :: o'.back) ∧ o'.last = o.last := by
  obtain ⟨hhead, htail⟩ := List.cons_eq_cons.1 hrows
  have hsplit : (o.front ++ o.opening :: (o.contents ++ [o.closing])) ++ (o.back ++ [o.last]) =
      o'.front ++ (o'.opening :: (o'.contents ++ o'.closing :: (o'.back ++ [o'.last]))) := by
    simpa using htail
  have hlength : (o.front ++ o.opening :: (o.contents ++ [o.closing])).length ≤ o'.front.length := by
    simp only [List.length_append, List.length_cons, List.length_nil]
    omega
  obtain ⟨middle, hfront⟩ := List.prefix_of_prefix_length_le ⟨_, hsplit⟩ (List.prefix_append _ _) hlength
  rw [← hfront, List.append_assoc _ middle] at hsplit
  have hlast : o.back ++ [o.last] =
      (middle ++ o'.opening :: (o'.contents ++ o'.closing :: o'.back)) ++ [o'.last] := by
    simpa using List.append_cancel_left hsplit
  obtain ⟨hback, hlast⟩ := List.append_inj' hlast rfl
  exact ⟨middle, hhead.symm, by simpa using hfront.symm, hback, (List.singleton_inj.1 hlast).symm⟩

/-- Two regions that lie apart are filled anew one after the other, the one behind first. -/
theorem Outline.refill_both {clean : Prop} (hrows : o.rows = o'.rows)
    (hapart : o.front.length + 1 + o.contents.length < o'.front.length)
    (hmarks : o.Marks k) (hmarks' : o'.Marks k')
    (hclean : clean → ∀ row ∈ o.contents, ∀ k, sideOf? k row = none)
    (hclean' : clean → ∀ row ∈ o'.contents, ∀ k, sideOf? k row = none)
    (hfresh : Fresh k fields o.opening contents o.closing)
    (hfresh' : Fresh k' fields o'.opening contents' o'.closing) :
    ∃ q : Outline, q.rows = (o'.refill contents').rows ∧
      (∀ front, q.replacement front k fields = o.replacement front k fields) ∧ q.opening = o.opening ∧
      Current k fields (q.refill contents).rows ∧ Current k' fields (q.refill contents).rows ∧
      (∀ k'', Remains clean (sides k'' (between (q.refill contents).rows)) (sides k'' (between o.rows))) ∧
      byteLength o.before < byteLength o'.before := by
  obtain ⟨middle, hhead, hfront, hback, hlast⟩ := exists_middle hrows hapart
  let q : Outline := { o with back := middle ++ o'.opening :: (contents' ++ o'.closing :: o'.back) }
  let q' : Outline := { o' with
    front := o.front ++ o.opening :: (contents ++ o.closing :: middle), contents := contents' }
  have hq : q.rows = (o'.refill contents').rows := by simp [q, rows, refill, hhead, hfront, hlast]
  have hq' : q'.rows = (q.refill contents).rows := by simp [q, q', rows, refill, hhead, hlast]
  refine ⟨q, hq, fun front => rfl, rfl, ?_, ?_, fun k'' => ?_, ?_⟩
  · exact Fresh.current (o := q.refill contents) hfresh hmarks.first
  · rw [← hq']
    refine Fresh.current (o := q') hfresh' fun row hrow => ?_
    have hfirst := hmarks'.first
    simp only [hfront, List.forall_mem_append, List.forall_mem_cons] at hfirst
    rcases List.mem_append.1 hrow with hrow | hrow
    · exact hfirst.1 row hrow
    · rcases List.mem_cons.1 hrow with rfl | hrow
      · exact hfirst.2.1
      · rcases List.mem_append.1 hrow with hrow | hrow
        · exact not_start_of_none (hfresh.plain row hrow k')
        · rcases List.mem_cons.1 hrow with rfl | hrow
          · exact hfirst.2.2.2.1
          · exact hfirst.2.2.2.2 row hrow
  · have hfirst := sides_refill (o := q) hclean hfresh.plain k''
    have hsecond := sides_refill hclean' hfresh'.plain k''
    rw [hq] at hfirst
    rw [hrows]
    exact hfirst.trans hsecond
  · have hmore : o'.before = o.before ++ wholeLines (o.contents ++ o.closing :: (middle ++ [o'.opening])) := by
      simp [before, hhead, hfront]
    have hfeed : ('\n' : Char).utf8Size = 1 := rfl
    simp only [hmore, byteLength_append, wholeLines_append, wholeLines_cons, byteLength_cons, hfeed]
    omega

end

/-! ### Both edits of a body -/

/-- Rows have a region of a kind. -/
def Found (k : Region) (rs : List (List Char)) : Prop := ∃ o : Outline, o.rows = rs ∧ o.Marks k

/-- A region between the first and the last row. -/
theorem Found.of_between {k : Region} {rs front contents back : List (List Char)} {opening closing : List Char}
    (hbetween : between rs = front ++ opening :: (contents ++ closing :: back))
    (hopens : sideOf? k opening = some .start) (hcloses : sideOf? k closing = some .stop)
    (hfirst : ∀ row ∈ front, sideOf? k row ≠ some .start) (hwithin : ∀ row ∈ contents, sideOf? k row ≠ some .stop) :
    Found k rs := by
  rcases rs with _ | ⟨head, rs⟩
  · simp [between] at hbetween
  · rcases List.eq_nil_or_concat' rs with rfl | ⟨rs, last, rfl⟩
    · simp [between] at hbetween
    · rw [between_cons_concat] at hbetween
      refine ⟨⟨head, front, opening, contents, closing, back, last⟩, ?_, hopens, hcloses, hfirst, hwithin⟩
      simp [Outline.rows, hbetween]

/-- No region of some rows holds markers. -/
def Clean (rs : List (List Char)) : Prop :=
  ∀ k (o : Outline), o.rows = rs → o.Marks k → ∀ row ∈ o.contents, ∀ k', sideOf? k' row = none

/-- Rows whose regions can be brought up to date without disturbing each other: what is cut off by an insertion
is no marker, no region is appended behind a start, and regions that are replaced lie apart. -/
structure Ready (rs : List (List Char)) : Prop where
  head : ¬ Found .fields rs → ∀ row ∈ rs.head?, ∀ k, sideOf? k row = none
  last : ¬ Found .methods rs → ∀ row ∈ rs.getLast?, ∀ k, sideOf? k row = none
  starts : ¬ Found .methods rs → ∀ row ∈ between rs, sideOf? .methods row ≠ some .start
  apart : ∀ o o' : Outline, o.rows = rs → o'.rows = rs → o.Marks .fields → o'.Marks .methods →
    o.front.length + 1 + o.contents.length < o'.front.length ∨
      o'.front.length + 1 + o'.contents.length < o.front.length

/-- Rows after both edits: the regions are up to date, and a pair of markers is there for each region that was
missing. -/
structure Settled (fields : List DeclaredField) (rs rs' : List (List Char)) : Prop where
  current : ∀ k, Current k fields rs'
  kept : ∀ k, Found k rs → Remains (Clean rs) (sides k (between rs')) (sides k (between rs))
  prepended : ¬ Found .fields rs →
    Remains (Clean rs) (sides .fields (between rs')) ([Side.start, .stop] ++ sides .fields (between rs))
  appended : ¬ Found .methods rs →
    Remains (Clean rs) (sides .methods (between rs')) (sides .methods (between rs) ++ [Side.start, .stop])

/-- The two edits of a body settle the rows between its braces, whatever stands behind it. -/
def Settles (text : List Char) (b : Body) (front inner : List Char) (fields : List DeclaredField) : Prop :=
  ∃ inner', Settled fields (rows inner) (rows inner') ∧ ∀ back',
    replaceAll? (backToFront [regionEdit (.ofText text) b .fields fields,
        regionEdit (.ofText text) b .methods fields]) (front ++ '\x7b' :: (inner ++ '\x7d' :: back')) =
      some (front ++ '\x7b' :: (inner' ++ '\x7d' :: back'))

theorem replaceAll?_pair {e d : Edit} {text middle output : List Char} (he : e.replaceIn? text = some middle)
    (hd : d.replaceIn? middle = some output) : replaceAll? [e, d] text = some output := by
  simp [replaceAll?, he, hd]

/-- Of two edits the one that starts later is carried out first. -/
theorem backToFront_pair (e d : Edit) : backToFront [e, d] = if e.start ≤ d.start then [d, e] else [e, d] := rfl

namespace Encloses

variable {text front inner back : List Char} {b : Body} {k : Region} {fields : List DeclaredField} {o : Outline}

/-- A region of methods is appended. -/
theorem appended (h : Encloses text b front inner back) (hnone : regionIn? (.ofText text) b .methods = none)
    (hfields : ∀ f ∈ fields, f.Inline) :
    ∃ inner', Appended .methods fields (rows inner) (rows inner') ∧
      byteLength (front ++ '\x7b' :: wholeLines (rows inner).dropLast) ≤
        (regionEdit (.ofText text) b .methods fields).start ∧
      ∀ back', (regionEdit (.ofText text) b .methods fields).replaceIn?
        (front ++ '\x7b' :: (inner ++ '\x7d' :: back')) =
          some (front ++ '\x7b' :: (inner' ++ '\x7d' :: back')) := by
  obtain ⟨indent, hindent, hedit⟩ := h.regionEdit_methods hnone fields
  obtain ⟨opening, contents, closing, hfresh, hregion⟩ := regionText_fresh .methods hindent hfields
  rw [hregion] at hedit
  rcases hedit with ⟨lines, last, hrows, hlines, hlast, hedit⟩ | ⟨outer, houter, hedit⟩
  · have hinner := eq_wholeLines_of_rows hrows
    have hinline : ∀ row ∈ lines ++ [last], '\n' ∉ row := fun row hrow => notMem_of_mem_rows (hrows ▸ hrow)
    refine ⟨wholeLines lines ++ '\n' :: wholeLines (opening :: (contents ++ [closing])) ++ last, ?_, ?_, ?_⟩
    · have hrows' : rows (wholeLines lines ++ '\n' :: wholeLines (opening :: (contents ++ [closing])) ++ last) =
          lines ++ ([] :: (opening :: (contents ++ [closing])) ++ [last]) := by
        have hall := List.forall_mem_append.1 hinline
        have hwhole : ∀ row ∈ lines ++ [] :: (opening :: (contents ++ [closing])), '\n' ∉ row :=
          List.forall_mem_append.2 ⟨hall.1, List.forall_mem_cons.2 ⟨List.not_mem_nil, hfresh.inline⟩⟩
        simpa using rows_wholeLines_last hwhole (hall.2 last List.mem_cons_self)
      rw [hrows', hrows]
      exact .ownLine hlines hlast hfresh
    · rw [hedit, hrows, List.dropLast_concat]
      exact Nat.le_refl _
    · intro back'
      rw [hedit, hinner]
      exact insert_apply _ _ _ _ _
  · obtain ⟨lines, last, hinner, hlines, hlast⟩ := exists_rows inner
    have hrows : rows inner = lines ++ [last] := by rw [hinner, rows_wholeLines_last hlines hlast]
    refine ⟨inner ++ '\n' :: wholeLines (opening :: (contents ++ [closing])) ++ outer.toList, ?_, ?_, ?_⟩
    · have hrows' : rows (inner ++ '\n' :: wholeLines (opening :: (contents ++ [closing])) ++ outer.toList) =
          lines ++ (last :: (opening :: (contents ++ [closing])) ++ [outer.toList]) := by
        have hwhole : ∀ row ∈ lines ++ last :: (opening :: (contents ++ [closing])), '\n' ∉ row :=
          List.forall_mem_append.2 ⟨hlines, List.forall_mem_cons.2 ⟨hlast, hfresh.inline⟩⟩
        simpa [hinner] using rows_wholeLines_last hwhole houter.inline
      rw [hrows', hrows]
      exact .sameLine houter.inline hfresh
    · rw [hedit, hrows, List.dropLast_concat, hinner]
      exact byteLength_le_of_front ⟨last, by simp⟩
    · intro back'
      rw [hedit]
      have happly := insert_apply front inner
        ('\n' :: wholeLines (opening :: (contents ++ [closing])) ++ outer.toList) [] back'
      simpa using happly

/-- A region of field names is prepended to whatever stands behind the opening brace. -/
theorem prepended (h : Encloses text b front inner back) (hnone : regionIn? (.ofText text) b .fields = none)
    (hfields : ∀ f ∈ fields, f.Inline) (later : List Char) :
    ∃ inner', Prepended .fields fields (rows later) (rows inner') ∧
      (regionEdit (.ofText text) b .fields fields).start = byteLength (front ++ ['\x7b']) ∧
      ∀ back', (regionEdit (.ofText text) b .fields fields).replaceIn?
        (front ++ '\x7b' :: (later ++ '\x7d' :: back')) =
          some (front ++ '\x7b' :: (inner' ++ '\x7d' :: back')) := by
  obtain ⟨indent, hindent, hedit⟩ := h.regionEdit_fields hnone fields
  obtain ⟨opening, contents, closing, hfresh, hregion⟩ := regionText_fresh .fields hindent hfields
  rw [hregion] at hedit
  refine ⟨'\n' :: wholeLines (opening :: (contents ++ [closing])) ++ later, ?_, by rw [hedit]; rfl, ?_⟩
  · have hrows : rows ('\n' :: wholeLines (opening :: (contents ++ [closing])) ++ later) =
        [] :: (opening :: (contents ++ [closing]) ++ rows later) := by
      have hwhole : ∀ row ∈ [] :: opening :: (contents ++ [closing]), '\n' ∉ row :=
        List.forall_mem_cons.2 ⟨List.not_mem_nil, hfresh.inline⟩
      simpa using rows_wholeLines hwhole later
    rw [hrows]
    exact .mk (List.splitOn_ne_nil _ _) hfresh
  · intro back'
    rw [hedit]
    have happly := insert_apply front [] ('\n' :: wholeLines (opening :: (contents ++ [closing]))) later back'
    simpa using happly

theorem found_iff (h : Encloses text b front inner back) :
    Found k (rows inner) ↔ regionIn? (.ofText text) b k ≠ none := by
  rw [Option.ne_none_iff_exists']
  constructor
  · rintro ⟨o, ho, hmarks⟩
    exact ⟨_, h.regionIn?_eq_some_iff.2 ⟨o, ho.symm, hmarks, rfl⟩⟩
  · rintro ⟨pair, hpair⟩
    obtain ⟨o, ho, hmarks, -⟩ := h.regionIn?_eq_some_iff.1 hpair
    exact ⟨o, ho.symm, hmarks⟩

theorem regionIn?_of_missing (h : Encloses text b front inner back) (hmissing : ¬ Found k (rows inner)) :
    regionIn? (.ofText text) b k = none := by
  by_contra hfound
  exact hmissing (h.found_iff.2 hfound)

/-- A region that is found can be filled anew. -/
theorem refilled (h : Encloses text b front inner back) (hfound : Found k (rows inner))
    (hfields : ∀ f ∈ fields, f.Inline) :
    ∃ (o : Outline) (contents : List (List Char)), rows inner = o.rows ∧ o.Marks k ∧
      Fresh k fields o.opening contents o.closing ∧ rows (o.refill contents).text = (o.refill contents).rows ∧
      regionEdit (.ofText text) b k fields = o.replacement front k fields := by
  obtain ⟨pair, hpair⟩ := Option.ne_none_iff_exists'.1 (h.found_iff.1 hfound)
  obtain ⟨o, hinner, hmarks, hedit⟩ := h.regionEdit_replace hpair fields
  have hinline : ∀ row ∈ o.rows, '\n' ∉ row := fun row hrow => notMem_of_mem_rows (hinner ▸ hrow)
  have hopening : '\n' ∉ o.opening := hinline _ (by simp [Outline.rows])
  have hclosing : '\n' ∉ o.closing := hinline _ (by simp [Outline.rows])
  obtain ⟨contents, hfresh⟩ := exists_fresh hmarks.opens hmarks.closes hopening hclosing hfields
  refine ⟨o, contents, hinner, hmarks, hfresh, Outline.rows_text (Outline.rows_inline_refill hinline ?_), hedit⟩
  exact fun row hrow => hfresh.inline row (List.mem_cons_of_mem _ (List.mem_append_left _ hrow))

/-- The edit of the region of methods. -/
theorem methods_settled (h : Encloses text b front inner back) (hfields : ∀ f ∈ fields, f.Inline)
    (hready : Ready (rows inner)) :
    ∃ inner', Current .methods fields (rows inner') ∧ (rows inner').head? = (rows inner).head? ∧
      (Found .methods (rows inner) →
        ∀ k, Remains (Clean (rows inner)) (sides k (between (rows inner'))) (sides k (between (rows inner)))) ∧
      (¬ Found .methods (rows inner) →
        sides .methods (between (rows inner')) = sides .methods (between (rows inner)) ++ [Side.start, .stop] ∧
        sides .fields (between (rows inner')) = sides .fields (between (rows inner))) ∧
      ∀ back', (regionEdit (.ofText text) b .methods fields).replaceIn?
        (front ++ '\x7b' :: (inner ++ '\x7d' :: back')) = some (front ++ '\x7b' :: (inner' ++ '\x7d' :: back')) := by
  by_cases hfound : Found .methods (rows inner)
  · obtain ⟨o, contents, hinner, hmarks, hfresh, hrows, hedit⟩ := h.refilled hfound hfields
    refine ⟨(o.refill contents).text, ?_, ?_, fun _ k => ?_, fun hnot => absurd hfound hnot, fun back' => ?_⟩
    · rw [hrows]
      exact Fresh.current (o := o.refill contents) hfresh hmarks.first
    · rw [hrows, hinner]
      rfl
    · rw [hrows, hinner]
      exact Outline.sides_refill (fun hclean => hclean .methods o rfl hmarks) hfresh.plain k
    · rw [hedit, Outline.eq_text hinner]
      exact Outline.replacement_apply hfresh.text front back'
  · obtain ⟨inner', happended, -, happly⟩ := h.appended (h.regionIn?_of_missing hfound) hfields
    have hlast := hready.last hfound
    have hsides := happended.sides_between hlast
    refine ⟨inner', ?_, happended.head?_eq, fun hnot => absurd hnot hfound, fun _ => ⟨hsides.1, ?_⟩, happly⟩
    · exact happended.current (hready.starts hfound) fun row hrow => hlast row hrow .methods
    · exact hsides.2 .fields nofun

/-- Both regions are filled anew. -/
theorem both_settled {o' : Outline} {k' : Region} {contents contents' : List (List Char)}
    (hinner : rows inner = o.rows) (hinner' : rows inner = o'.rows)
    (hapart : o.front.length + 1 + o.contents.length < o'.front.length)
    (hmarks : o.Marks k) (hmarks' : o'.Marks k')
    (hfresh : Fresh k fields o.opening contents o.closing)
    (hfresh' : Fresh k' fields o'.opening contents' o'.closing) (front : List Char) :
    ∃ inner', Current k fields (rows inner') ∧ Current k' fields (rows inner') ∧
      (∀ k'', Remains (Clean (rows inner)) (sides k'' (between (rows inner'))) (sides k'' (between (rows inner)))) ∧
      (o.replacement front k fields).start < (o'.replacement front k' fields).start ∧
      ∀ back', replaceAll? [o'.replacement front k' fields, o.replacement front k fields]
        (front ++ '\x7b' :: (inner ++ '\x7d' :: back')) = some (front ++ '\x7b' :: (inner' ++ '\x7d' :: back')) := by
  obtain ⟨q, hq, hedit, hopening, hcurrent, hcurrent', hsides, hlt⟩ :=
    Outline.refill_both (hinner.symm.trans hinner') hapart hmarks hmarks'
      (fun hclean : Clean (rows inner) => hclean k o hinner.symm hmarks)
      (fun hclean => hclean k' o' hinner'.symm hmarks') hfresh hfresh'
  have hinline : ∀ {rs : List (List Char)} {opening closing : List Char} {k : Region},
      Fresh k fields opening rs closing → ∀ row ∈ rs, '\n' ∉ row := fun hfresh row hrow =>
    hfresh.inline row (List.mem_cons_of_mem _ (List.mem_append_left _ hrow))
  have hrows : rows (q.refill contents).text = (q.refill contents).rows := by
    refine Outline.rows_text (Outline.rows_inline_refill ?_ (hinline hfresh))
    rw [hq]
    refine Outline.rows_inline_refill ?_ (hinline hfresh')
    exact fun row hrow => notMem_of_mem_rows (hinner' ▸ hrow)
  refine ⟨(q.refill contents).text, by rwa [hrows], by rwa [hrows], fun k'' => ?_, ?_, fun back' => ?_⟩
  · rw [hrows]
    exact hinner ▸ hsides k''
  · simp only [Outline.replacement, byteLength_append, byteLength_cons]
    omega
  · have hbehind := Outline.replacement_apply hfresh'.text front back'
    rw [← Outline.eq_text hinner', ← Outline.text_eq_of_rows hq] at hbehind
    refine replaceAll?_pair hbehind ?_
    rw [← hedit]
    exact Outline.replacement_apply (hopening ▸ hfresh.text) front back'

/-- Both regions are found and filled anew. -/
theorem settled_of_found (h : Encloses text b front inner back) (hfields : ∀ f ∈ fields, f.Inline)
    (hready : Ready (rows inner)) (hfound : ∀ k, Found k (rows inner)) : Settles text b front inner fields := by
  obtain ⟨o, contents, hinner, hmarks, hfresh, -, hedit⟩ := h.refilled (hfound .fields) hfields
  obtain ⟨o', contents', hinner', hmarks', hfresh', -, hedit'⟩ := h.refilled (hfound .methods) hfields
  have hsettled : ∀ {rs}, Current .fields fields rs → Current .methods fields rs →
      (∀ k, Remains (Clean (rows inner)) (sides k (between rs)) (sides k (between (rows inner)))) →
        Settled fields (rows inner) rs :=
    fun hcurrent hcurrent' hsides => ⟨fun k => by cases k <;> assumption, fun k _ => hsides k,
      fun hnot => absurd (hfound .fields) hnot, fun hnot => absurd (hfound .methods) hnot⟩
  rw [Settles, hedit, hedit', backToFront_pair]
  rcases hready.apart o o' hinner.symm hinner'.symm hmarks hmarks' with hapart | hapart
  · obtain ⟨inner', hcurrent, hcurrent', hsides, hlt, happly⟩ := both_settled hinner hinner' hapart
      hmarks hmarks' hfresh hfresh' front
    refine ⟨inner', hsettled hcurrent hcurrent' hsides, ?_⟩
    rwa [if_pos (Nat.le_of_lt hlt)]
  · obtain ⟨inner', hcurrent', hcurrent, hsides, hlt, happly⟩ := both_settled hinner' hinner hapart
      hmarks' hmarks hfresh' hfresh front
    refine ⟨inner', hsettled hcurrent hcurrent' hsides, ?_⟩
    rwa [if_neg (Nat.not_le_of_lt hlt)]

/-- The region of field names is filled anew, behind which one of methods has been appended. -/
theorem settled_of_appended (h : Encloses text b front inner back) (hfields : ∀ f ∈ fields, f.Inline)
    (hready : Ready (rows inner)) (hfound : Found .fields (rows inner)) (hfound' : ¬ Found .methods (rows inner)) :
    Settles text b front inner fields := by
  obtain ⟨o, contents, hinner, hmarks, hfresh, hrows, hedit⟩ := h.refilled hfound hfields
  obtain ⟨inner₁, happended, hstart, happly⟩ := h.appended (h.regionIn?_of_missing hfound') hfields
  have hlast := hready.last hfound'
  have hstarts := hready.starts hfound'
  rw [hinner] at happended hlast hstarts
  obtain ⟨back₁, last₁, hrows₁, hrefill⟩ := happended.outline
  let q : Outline := { o with back := back₁, last := last₁ }
  have hinline : ∀ row ∈ contents, '\n' ∉ row := fun row hrow =>
    hfresh.inline row (List.mem_cons_of_mem _ (List.mem_append_left _ hrow))
  have hrows' : rows (q.refill contents).text = (q.refill contents).rows :=
    Outline.rows_text (Outline.rows_inline_refill (fun row hrow => notMem_of_mem_rows (hrows₁ ▸ hrow)) hinline)
  have hlast' : ∀ row ∈ (o.refill contents).rows.getLast?, ∀ k, sideOf? k row = none := by
    rw [Outline.getLast?_rows] at hlast ⊢
    exact hlast
  have hsides := (hrefill contents).sides_between hlast'
  have hsame : ∀ k, Remains (Clean o.rows) (sides k (between (o.refill contents).rows)) (sides k (between o.rows)) :=
    Outline.sides_refill (fun hclean => hclean .fields o rfl hmarks) hfresh.plain
  refine ⟨(q.refill contents).text, ?_, fun back' => ?_⟩
  · rw [hrows', hinner]
    refine ⟨fun k => ?_, fun k hk => ?_, fun hnot => absurd (hinner ▸ hfound) hnot, fun _ => ?_⟩
    · cases k with
      | fields => exact Fresh.current (o := q.refill contents) hfresh hmarks.first
      | methods =>
        refine (hrefill contents).current ?_ fun row hrow => hlast' row hrow .methods
        exact Outline.not_start_refill hstarts fun row hrow => hfresh.plain row hrow .methods
    · cases k with
      | fields => exact (Remains.of_eq (hsides.2 .fields nofun)).trans (hsame .fields)
      | methods => exact absurd (hinner ▸ hk) hfound'
    · exact (Remains.of_eq hsides.1).trans ((hsame .methods).append_right _)
  · have hle : (o.replacement front .fields fields).start ≤
        (regionEdit (.ofText text) b .methods fields).start := by
      refine Nat.le_trans (byteLength_le_of_front ?_) hstart
      rw [hinner]
      exact (List.prefix_append_right_inj _).2 (List.cons_prefix_cons.2 ⟨rfl, o.before_front⟩)
    rw [hedit, backToFront_pair, if_pos hle]
    have hfirst := happly back'
    rw [Outline.eq_text hrows₁] at hfirst
    exact replaceAll?_pair hfirst (Outline.replacement_apply (o := q) hfresh.text front back')

/-- A region of field names is prepended to what the edit of methods leaves. -/
theorem settled_of_prepended (h : Encloses text b front inner back) (hfields : ∀ f ∈ fields, f.Inline)
    (hready : Ready (rows inner)) (hfound : ¬ Found .fields (rows inner)) : Settles text b front inner fields := by
  obtain ⟨inner₁, hcurrent, hhead, hkept, hmore, happly⟩ := h.methods_settled hfields hready
  obtain ⟨inner', hprepended, hstart, happly'⟩ := h.prepended (h.regionIn?_of_missing hfound) hfields inner₁
  have hnot : ∀ row ∈ (rows inner₁).head?, ∀ k, sideOf? k row = none := hhead ▸ hready.head hfound
  have hsides := hprepended.sides_between hnot
  have hsame : Remains (Clean (rows inner)) (sides .fields (between (rows inner₁)))
      (sides .fields (between (rows inner))) := by
    by_cases hfound' : Found .methods (rows inner)
    · exact hkept hfound' .fields
    · exact .of_eq (hmore hfound').2
  refine ⟨inner', ⟨fun k => ?_, fun k hk => ?_, fun _ => ?_, fun hfound' => ?_⟩, fun back' => ?_⟩
  · cases k with
    | fields => exact hprepended.current
    | methods => exact hprepended.keeps nofun hcurrent fun row hrow => hnot row hrow .methods
  · cases k with
    | fields => exact absurd hk hfound
    | methods => exact (Remains.of_eq (hsides.2 .methods nofun)).trans (hkept hk .methods)
  · exact (Remains.of_eq hsides.1).trans (hsame.append_left _)
  · exact .of_eq ((hsides.2 .methods nofun).trans (hmore hfound').1)
  · have hlt : b.opening < b.closing := by
      rw [h.opening_eq, h.closing_eq]
      omega
    have hbounds := (regionEdit_change (l := .ofText text) hlt .methods fields).bounds
    rw [backToFront_pair, if_pos (by rw [hstart, h.byteLength_opening]; omega)]
    exact replaceAll?_pair (happly back') (happly' back')

/-- The edits of a body settle its rows, whichever of its regions it has. -/
theorem body_settled (h : Encloses text b front inner back) (hfields : ∀ f ∈ fields, f.Inline)
    (hready : Ready (rows inner)) : Settles text b front inner fields := by
  by_cases hfound : Found .fields (rows inner)
  · by_cases hfound' : Found .methods (rows inner)
    · exact h.settled_of_found hfields hready fun k => by cases k <;> assumption
    · exact h.settled_of_appended hfields hready hfound hfound'
  · exact h.settled_of_prepended hfields hready hfound

end Encloses

end RecordSql.Generate
