import RecordSql.Proofs.Regeneration.Splice

/-!
# Patched texts

What edits make of a text can be said from front to back, although they are carried out from back to front. At
each offset come first the texts of the edits that start there, in the given order, and then the character,
unless it lies in the range of an edit.

- `textsAt`, `Taken`, `patchedFrom`: what edits place at an offset, what they take away, and the whole text.
- `patchedFrom_last`: an edit behind all others changes only what lies behind them.
- `filter_backToFront`: edits that start at one offset are carried out in reverse order.
- `replaceAll?_patched`: a run of edits that starts at the end leaves a patched text.
- `edits_patch`: edits that lie apart patch the text, in whatever order they are listed.
-/

namespace RecordSql.Generate

open RecordSql.Text

/-- The texts of the edits that start at an offset, in the given order. -/
def textsAt (edits : List Edit) (offset : Nat) : List Char :=
  (edits.filter fun e => e.start = offset).flatMap Edit.text

/-- An edit takes away what stands at an offset. -/
def Taken (edits : List Edit) (offset : Nat) : Prop :=
  ∃ e ∈ edits, e.start ≤ offset ∧ offset < e.stop

instance (edits : List Edit) (offset : Nat) : Decidable (Taken edits offset) :=
  inferInstanceAs (Decidable (∃ e ∈ edits, e.start ≤ offset ∧ offset < e.stop))

/-- What becomes of a text that begins at an offset. -/
def patchedFrom (edits : List Edit) (offset : Nat) : List Char → List Char
  | [] => textsAt edits offset
  | c :: cs =>
    textsAt edits offset ++ (if Taken edits offset then [] else [c]) ++ patchedFrom edits (offset + c.utf8Size) cs

section

variable {edits others : List Edit} {e : Edit} {offset : Nat} {left old right front text : List Char}

theorem textsAt_append (edits others : List Edit) (offset : Nat) :
    textsAt (edits ++ others) offset = textsAt edits offset ++ textsAt others offset := by
  simp [textsAt]

theorem textsAt_self (e : Edit) : textsAt [e] e.start = e.text := by
  simp [textsAt]

theorem textsAt_eq_nil (h : ∀ e ∈ edits, e.start ≠ offset) : textsAt edits offset = [] := by
  have hnone : edits.filter (fun e => e.start = offset) = [] :=
    List.filter_eq_nil_iff.2 fun e he => by simpa using h e he
  rw [textsAt, hnone]
  rfl

theorem not_taken (h : ∀ e ∈ edits, e.stop ≤ offset) : ¬ Taken edits offset := by
  rintro ⟨e, he, -, hlt⟩
  have := h e he
  omega

/-! ### One edit behind the others -/

/-- Behind all edits the text is as it was. -/
theorem patchedFrom_behind (hstart : ∀ e ∈ edits, e.start < offset) (hstop : ∀ e ∈ edits, e.stop ≤ offset)
    (text : List Char) : patchedFrom edits offset text = text := by
  induction text generalizing offset with
  | nil => exact textsAt_eq_nil fun e he => Nat.ne_of_lt (hstart e he)
  | cons c text ih =>
    have hrest : patchedFrom edits (offset + c.utf8Size) text = text := by
      apply ih
      · intro e he
        have := hstart e he
        omega
      · intro e he
        have := hstop e he
        omega
    rw [patchedFrom, textsAt_eq_nil fun e he => Nat.ne_of_lt (hstart e he), if_neg (not_taken hstop), hrest]
    rfl

/-- What is left of the range of an edit that has started goes away. -/
theorem patchedFrom_within (he : e ∈ edits) (hend : e.stop = offset + byteLength old)
    (hstart : ∀ d ∈ edits, d.start < offset) (hstop : ∀ d ∈ edits, d.stop ≤ offset + byteLength old)
    (right : List Char) : patchedFrom edits offset (old ++ right) = right := by
  induction old generalizing offset with
  | nil => exact patchedFrom_behind hstart hstop right
  | cons c old ih =>
    have hsize := c.utf8Size_pos
    rw [byteLength_cons] at hend hstop
    have htaken : Taken edits offset := by
      refine ⟨e, he, Nat.le_of_lt (hstart e he), ?_⟩
      omega
    have hrest : patchedFrom edits (offset + c.utf8Size) (old ++ right) = right := by
      apply ih
      · omega
      · intro d hd
        have := hstart d hd
        omega
      · intro d hd
        have := hstop d hd
        omega
    rw [List.cons_append, patchedFrom, textsAt_eq_nil fun d hd => Nat.ne_of_lt (hstart d hd), if_pos htaken, hrest]
    rfl

/-- Where the last edit starts, its text comes behind those of the others, and its range goes away. -/
theorem patchedFrom_start (hstop : ∀ d ∈ edits, d.start ≤ d.stop ∧ d.stop ≤ e.start)
    (hend : e.stop = e.start + byteLength old) (right : List Char) :
    patchedFrom (edits ++ [e]) e.start (old ++ right) = textsAt edits e.start ++ e.text ++ right := by
  have htexts : textsAt (edits ++ [e]) e.start = textsAt edits e.start ++ e.text := by
    rw [textsAt_append, textsAt_self]
  have hall : ∀ d ∈ edits ++ [e], d.start ≤ e.start ∧ d.stop ≤ e.stop := by
    intro d hd
    rcases List.mem_append.1 hd with hd | hd
    · have := hstop d hd
      omega
    · rw [List.mem_singleton.1 hd]
      omega
  have hmem : e ∈ edits ++ [e] := by simp
  cases old with
  | nil =>
    rw [byteLength_nil] at hend
    rw [List.nil_append]
    cases right with
    | nil => rw [patchedFrom, htexts, List.append_nil]
    | cons c right =>
      have hsize := c.utf8Size_pos
      have hfree : ¬ Taken (edits ++ [e]) e.start := not_taken fun d hd => by
        have := hall d hd
        omega
      have hrest : patchedFrom (edits ++ [e]) (e.start + c.utf8Size) right = right := by
        apply patchedFrom_behind
        · intro d hd
          have := hall d hd
          omega
        · intro d hd
          have := hall d hd
          omega
      rw [patchedFrom, htexts, if_neg hfree, hrest, List.append_assoc, List.singleton_append]
  | cons c old =>
    have hsize := c.utf8Size_pos
    rw [byteLength_cons] at hend
    have htaken : Taken (edits ++ [e]) e.start := by
      refine ⟨e, hmem, Nat.le_refl _, ?_⟩
      omega
    have hrest : patchedFrom (edits ++ [e]) (e.start + c.utf8Size) (old ++ right) = right := by
      apply patchedFrom_within hmem
      · omega
      · intro d hd
        have := hall d hd
        omega
      · intro d hd
        have := hall d hd
        omega
    rw [List.cons_append, patchedFrom, htexts, if_pos htaken, hrest, List.append_nil]

/-- An edit behind all others leaves alone what lies in front of it. -/
theorem patchedFrom_last (hstop : ∀ d ∈ edits, d.start ≤ d.stop ∧ d.stop ≤ e.start)
    (hstart : e.start = offset + byteLength left) (hend : e.stop = e.start + byteLength old)
    (right : List Char) :
    patchedFrom (edits ++ [e]) offset (left ++ old ++ right) = patchedFrom edits offset left ++ e.text ++ right := by
  induction left generalizing offset with
  | nil =>
    obtain rfl : e.start = offset := hstart
    exact patchedFrom_start hstop hend right
  | cons c left ih =>
    have hsize := c.utf8Size_pos
    rw [byteLength_cons] at hstart
    have htexts : textsAt (edits ++ [e]) offset = textsAt edits offset := by
      have hnone : textsAt [e] offset = [] := textsAt_eq_nil fun d hd => by
        rw [List.mem_singleton.1 hd]
        omega
      rw [textsAt_append, hnone, List.append_nil]
    have htaken : Taken (edits ++ [e]) offset ↔ Taken edits offset := by
      constructor
      · rintro ⟨d, hd, hle, hlt⟩
        rcases List.mem_append.1 hd with hd | hd
        · exact ⟨d, hd, hle, hlt⟩
        · rw [List.mem_singleton.1 hd] at hle
          omega
      · rintro ⟨d, hd, hle, hlt⟩
        exact ⟨d, List.mem_append_left _ hd, hle, hlt⟩
    have hrest : patchedFrom (edits ++ [e]) (offset + c.utf8Size) (left ++ old ++ right) =
        patchedFrom edits (offset + c.utf8Size) left ++ e.text ++ right := by
      apply ih
      omega
    show patchedFrom (edits ++ [e]) offset (c :: (left ++ old ++ right)) = _
    rw [patchedFrom, patchedFrom, htexts, hrest]
    simp only [htaken, List.append_assoc]

/-! ### The order of edits -/

theorem filter_insertEdit (e : Edit) (ds : List Edit) (offset : Nat) :
    (insertEdit e ds).filter (fun d => d.start = offset) =
      [e].filter (fun d => d.start = offset) ++ ds.filter (fun d => d.start = offset) := by
  induction ds with
  | nil => simp [insertEdit]
  | cons d ds ih =>
    rw [insertEdit]
    split
    · rw [← List.singleton_append, List.filter_append]
    · rename_i hlt
      -- The new edit passes only edits that start behind it.
      by_cases he : e.start = offset
      · have hd : ¬ d.start = offset := by omega
        simp [ih, he, hd]
      · simp [ih, he, List.filter_cons]

/-- Edits that start at one offset are carried out in reverse order. -/
theorem filter_backToFront (edits : List Edit) (offset : Nat) :
    (backToFront edits).filter (fun e => e.start = offset) =
      (edits.filter fun e => e.start = offset).reverse := by
  have hfold : ∀ (edits sorted : List Edit),
      (edits.foldl (fun sorted e => insertEdit e sorted) sorted).filter (fun e => e.start = offset) =
        (edits.filter fun e => e.start = offset).reverse ++ sorted.filter fun e => e.start = offset := by
    intro edits
    induction edits with
    | nil => exact fun _ => rfl
    | cons e edits ih =>
      intro sorted
      rw [List.foldl_cons, ih, filter_insertEdit, ← List.append_assoc]
      congr 1
      by_cases he : e.start = offset <;> simp [he]
  rw [backToFront, hfold, List.filter_nil, List.append_nil]

/-- Edits patch a text alike if those that start at one offset are the same, in the same order. -/
theorem patchedFrom_congr (h : ∀ offset, others.filter (fun e => e.start = offset) =
      edits.filter (fun e => e.start = offset)) (offset : Nat) (text : List Char) :
    patchedFrom others offset text = patchedFrom edits offset text := by
  have hmem : ∀ e, e ∈ others ↔ e ∈ edits := by
    intro e
    have hside : ∀ es : List Edit, e ∈ es ↔ e ∈ es.filter fun d => d.start = e.start := by simp
    rw [hside, h, ← hside]
  have htexts : ∀ offset, textsAt others offset = textsAt edits offset := fun offset => by
    rw [textsAt, h, textsAt]
  have htaken : ∀ offset, Taken others offset ↔ Taken edits offset := fun offset => by
    simp only [Taken, hmem]
  induction text generalizing offset with
  | nil => exact htexts offset
  | cons c text ih => simp only [patchedFrom, htexts, htaken, ih]

/-! ### Runs -/

/-- A run of edits, the last one first, patches the beginning of a text. The edits that follow all lie in front
of the one that has been done, where the text is as it was. -/
theorem replaceAll?_patched {run : List Edit} (hdescending : Descending run)
    (hfits : ∀ e ∈ run, e.Fits front) (back : List Char) :
    replaceAll? run (front ++ back) = some (patchedFrom run.reverse 0 front ++ back) := by
  induction run generalizing front back with
  | nil =>
    rw [List.reverse_nil, patchedFrom_behind (List.forall_mem_nil _) (List.forall_mem_nil _)]
    rfl
  | cons e run ih =>
    obtain ⟨hlater, hdescending⟩ := List.pairwise_cons.1 hdescending
    obtain ⟨left, old, right, rfl, hstart, hend, hleft, hstep⟩ := replaceAll?_step hlater hfits
    have hlast : patchedFrom (run.reverse ++ [e]) 0 (left ++ old ++ right) =
        patchedFrom run.reverse 0 left ++ e.text ++ right := by
      apply patchedFrom_last
      · intro d hd
        have hd := List.mem_reverse.1 hd
        exact ⟨(hleft d hd).1, hlater d hd⟩
      · omega
      · omega
    calc replaceAll? (e :: run) (left ++ old ++ right ++ back)
        = replaceAll? run (left ++ (e.text ++ (right ++ back))) := hstep back
      _ = some (patchedFrom run.reverse 0 left ++ (e.text ++ (right ++ back))) := ih hdescending hleft _
      _ = some (patchedFrom (e :: run).reverse 0 (left ++ old ++ right) ++ back) := by
        rw [List.reverse_cons, hlast]
        simp only [List.append_assoc]

/-- Edits that lie apart patch the text. -/
theorem applyEdits?_patched (hfits : ∀ e ∈ edits, e.Fits text) (hapart : edits.Pairwise Apart) :
    applyEdits? edits text = some (patchedFrom edits 0 text) := by
  have hrun := replaceAll?_patched (backToFront_descending (fun e he => (hfits e he).1) hapart)
    (fun e he => hfits e ((backToFront_perm edits).mem_iff.1 he)) []
  rw [List.append_nil, List.append_nil] at hrun
  rw [applyEdits?, hrun, patchedFrom_congr fun offset => ?_]
  rw [List.filter_reverse, filter_backToFront, List.reverse_reverse]

end

/-- Edits whose ranges lie between characters of a text and apart from each other are all carried out. Their
ranges are taken away, their texts are placed where the ranges were, texts at one offset in the given order, and
all else is kept as it was. So the text consists of parts that are kept and parts that are changed, and each edit
changes one of them. The order in which edits at different offsets are listed does not matter. -/
theorem edits_patch {edits : List Edit} {text : List Char} (hfits : ∀ e ∈ edits, e.Fits text)
    (hapart : edits.Pairwise Apart) :
    applyEdits? edits text = some (patchedFrom edits 0 text) ∧
      (∃ parts, textBefore parts = text ∧ textAfter parts = patchedFrom edits 0 text ∧
        (changes 0 parts).Perm edits) ∧
      ∀ others : List Edit,
        (∀ offset, others.filter (fun e => e.start = offset) = edits.filter (fun e => e.start = offset)) →
        applyEdits? others text = applyEdits? edits text := by
  have hpatched := applyEdits?_patched hfits hapart
  obtain ⟨parts, hbefore, hafter, hchanges⟩ := applyEdits?_spliced (fun e he => (hfits e he).1) hapart hpatched
  have heach : (changes 0 parts).Perm edits := by
    rw [hchanges]
    exact (List.reverse_perm _).trans (backToFront_perm edits)
  refine ⟨hpatched, ⟨parts, hbefore, hafter, heach⟩, fun others hsame => ?_⟩
  have hperm : others.Perm edits := by
    refine List.perm_iff_count.2 fun e => ?_
    have hcount : ∀ es : List Edit, es.count e = (es.filter fun d => d.start = e.start).count e := fun es =>
      (List.count_filter (by simp)).symm
    rw [hcount, hsame, ← hcount]
  have hfits' : ∀ e ∈ others, e.Fits text := fun e he => hfits e (hperm.mem_iff.1 he)
  have hapart' : others.Pairwise Apart := (hperm.pairwise_iff fun h => h.symm).2 hapart
  rw [hpatched, applyEdits?_patched hfits' hapart', patchedFrom_congr hsame]

/-- A line and the beginning of a second one. The second letter takes two bytes. -/
def twoLines : List Char := ['a', '\u00e9', '\n', 'b']

/-- Edits of these lines, out of order; three are insertions, and two of them at one offset. -/
def lineEdits : List Edit :=
  [.insert 4 ['x'], ⟨1, 3, ['Z', 'Z']⟩, .insert 4 ['y'], .insert 3 ['|'], .insert 0 ['<']]

/-- The second letter is replaced and each insertion finds its place, also if the first edits change places. -/
theorem lineEdits_patch :
    (∀ e ∈ lineEdits, e.Fits twoLines) ∧ lineEdits.Pairwise Apart ∧
      applyEdits? lineEdits twoLines = some ['<', 'a', 'Z', 'Z', '|', '\n', 'x', 'y', 'b'] ∧
      applyEdits? [⟨1, 3, ['Z', 'Z']⟩, .insert 4 ['x'], .insert 3 ['|'], .insert 0 ['<'], .insert 4 ['y']]
        twoLines = applyEdits? lineEdits twoLines := by
  have hfits : ∀ e ∈ lineEdits, e.Fits twoLines := by
    have hcut : ∀ n, Cuts (byteLength (twoLines.take n)) twoLines := fun n =>
      ⟨twoLines.take n, twoLines.drop n, (List.take_append_drop n twoLines).symm, rfl⟩
    intro e he
    simp only [lineEdits, List.mem_cons, List.not_mem_nil, or_false] at he
    rcases he with rfl | rfl | rfl | rfl | rfl
    · exact ⟨by decide, hcut 3, hcut 3⟩
    · exact ⟨by decide, hcut 1, hcut 2⟩
    · exact ⟨by decide, hcut 3, hcut 3⟩
    · exact ⟨by decide, hcut 2, hcut 2⟩
    · exact ⟨by decide, hcut 0, hcut 0⟩
  have hapart : lineEdits.Pairwise Apart := by simp [lineEdits, Apart, Edit.insert]
  obtain ⟨happlied, -, horder⟩ := edits_patch hfits hapart
  refine ⟨hfits, hapart, happlied.trans (by decide), horder _ fun offset => ?_⟩
  simp only [lineEdits, Edit.insert, List.filter_cons, List.filter_nil, decide_eq_true_eq]
  by_cases h : offset = 4
  · simp [h]
  · grind

end RecordSql.Generate
