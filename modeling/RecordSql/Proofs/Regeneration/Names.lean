import RecordSql.Proofs.Placement.Words
import RecordSql.Proofs.Regeneration.Snippets

/-!
# Names and types on one line

The names of a record and of its fields are identifiers, the types of its fields are written with single blanks,
and the names of constants are made of letters, digits and underscores. So nothing that is written for a record
contains a line feed of its own.

- `shoutyCase_inline`, `collapseBlanks_inline`: names of constants and types are written on one line.
- `sourceRecords?_inline`: so are all records of a file.
-/

namespace RecordSql.Generate

open RecordSql.Source RecordSql.Text

/-! ### Names of constants and types -/

/-- The pieces of a word hold no other characters. -/
theorem mem_of_mem_splitByCase {mode : CaseMode} {cur cs piece : List Char} {c : Char}
    (hpiece : piece ∈ splitByCase mode cur cs) (hc : c ∈ piece) : c ∈ cur ∨ c ∈ cs := by
  fun_induction splitByCase mode cur cs with
  | case1 => cases hpiece
  | case2 mode cur d =>
    rw [List.mem_singleton.1 hpiece] at hc
    simpa [or_comm] using hc
  | case3 mode cur d n cs _ ih =>
    rcases List.mem_cons.1 hpiece with rfl | hpiece
    · simp only [List.mem_reverse, List.mem_cons] at hc ⊢
      tauto
    · exact .inr (List.mem_cons_of_mem d ((ih hpiece).resolve_left List.not_mem_nil))
  | case4 mode cur d n cs _ _ ih =>
    rcases List.mem_cons.1 hpiece with rfl | hpiece
    · exact .inl (List.mem_reverse.1 hc)
    · have := ih hpiece
      simp only [List.mem_cons] at this ⊢
      tauto
  | case5 mode cur d n cs _ _ ih =>
    have := ih hpiece
    simp only [List.mem_cons] at this ⊢
    tauto

/-- Runs of letters and digits hold nothing else. -/
theorem isAlphanumeric_of_mem_runs {cur cs run : List Char} (hcur : ∀ c ∈ cur, isAlphanumeric c)
    (hrun : run ∈ alphanumericRuns cur cs) : ∀ c ∈ run, isAlphanumeric c := by
  have hreverse : ∀ c ∈ cur.reverse, isAlphanumeric c := fun c hc => hcur c (List.mem_reverse.1 hc)
  fun_induction alphanumericRuns cur cs with
  | case1 => cases hrun
  | case2 => rwa [List.mem_singleton.1 hrun]
  | case3 cur d cs hd ih =>
    have hcons : ∀ c ∈ d :: cur, isAlphanumeric c := List.forall_mem_cons.2 ⟨hd, hcur⟩
    exact ih hcons hrun fun c hc => hcons c (List.mem_reverse.1 hc)
  | case4 cur d cs _ _ ih => exact ih (List.forall_mem_nil _) hrun (List.forall_mem_nil _)
  | case5 cur d cs _ _ ih =>
    rcases List.mem_cons.1 hrun with rfl | hrun
    · exact hreverse
    · exact ih (List.forall_mem_nil _) hrun (List.forall_mem_nil _)

/-- No character but a line feed has a line feed as its upper case. -/
theorem feed_notMem_upperChar {c : Char} (hc : c ≠ '\n') : '\n' ∉ upperChar c := by
  unfold upperChar
  split
  · rename_i hascii
    have htable : ∀ n < 128, n ≠ 10 → (Char.ofNat n).toUpper ≠ '\n' := by decide +kernel
    have hne : c.toNat ≠ 10 := fun h => hc (by rw [← Char.ofNat_toNat c, h])
    have hupper := htable c.toNat hascii hne
    rw [Char.ofNat_toNat] at hupper
    exact fun h => hupper (List.mem_singleton.1 h).symm
  · unfold mapCase
    split
    · rename_i ns hlookup
      have htable : ∀ e ∈ upperExpansions, '\n' ∉ e.2.map Char.ofNat := by decide +kernel
      obtain ⟨earlier, later, heq, -⟩ := List.lookup_eq_some_iff.1 hlookup
      exact htable (c.toNat, ns) (by simp [heq])
    · intro h
      have hshift := List.mem_singleton.1 h
      unfold shiftBy at hshift
      split at hshift
      · rename_i s hs
        have htable : ∀ s ∈ upperShifts, 10 < (s.run.first : Int) + s.offset := by decide +kernel
        have hoffset := htable s (List.mem_of_find?_eq_some hs)
        have hcontains := List.find?_some hs
        simp only [CharRun.contains, Bool.and_eq_true, decide_eq_true_eq] at hcontains
        have hvalue : ∀ n, (Char.ofNat n).toNat = n ∨ (Char.ofNat n).toNat = 0 := by
          intro n
          by_cases hn : n.isValidChar
          · exact .inl (by rw [Char.ofNat, dif_pos hn]; rfl)
          · exact .inr (by rw [Char.ofNat, dif_neg hn]; rfl)
        have hfeed : ('\n' : Char).toNat = 10 := rfl
        have := hvalue ((c.toNat : Int) + s.offset).toNat
        rw [← hshift, hfeed] at this
        omega
      · exact hc hshift.symm

/-- The name of a constant is written on one line. -/
theorem shoutyCase_inline (s : String) : '\n' ∉ (shoutyCase s).toList := by
  refine inline_intercalate (by decide) fun t ht => ?_
  obtain ⟨piece, hpiece, rfl⟩ := List.mem_map.1 ht
  obtain ⟨run, hrun, hpiece⟩ := List.mem_flatMap.1 hpiece
  rw [String.toList_ofList]
  intro h
  obtain ⟨c, hc, hfeed⟩ := List.mem_flatMap.1 h
  have hmem := (mem_of_mem_splitByCase hpiece hc).resolve_left List.not_mem_nil
  have halphanumeric := isAlphanumeric_of_mem_runs (List.forall_mem_nil _) hrun c hmem
  refine feed_notMem_upperChar ?_ hfeed
  rintro rfl
  exact absurd halphanumeric (by decide)

/-- The words of a text are written on one line. -/
theorem collapseBlanks_inline (cs : List Char) : '\n' ∉ collapseBlanks cs := by
  have hjoin : ∀ gap cs, '\n' ∉ joinWords gap cs := by
    intro gap cs
    fun_induction joinWords gap cs with
    | case1 => exact List.not_mem_nil
    | case2 gap c cs hblank ih => exact ih
    | case3 gap c cs hblank ih =>
      have hc : c ≠ '\n' := fun h => hblank (h ▸ rfl)
      cases gap <;> simp [ih, hc.symm]
  exact hjoin _ _

/-! ### Records -/

/-- A record whose name and fields are written on one line. -/
structure SourceRecord.Inline (r : SourceRecord) : Prop where
  name : '\n' ∉ r.name.toList
  fields : ∀ f ∈ r.fields, f.Inline

section

variable {l : Lines}

theorem declaredField?_inline {field : Field} {f : DeclaredField} (hfield : field.name.Inline)
    (h : declaredField? l field = some f) : f.Inline := by
  unfold declaredField? at h
  split at h
  · cases h
  · cases h
    refine ⟨hfield, ?_, shoutyCase_inline _⟩
    rw [String.toList_ofList]
    exact collapseBlanks_inline _

theorem sourceRecord?_inline {siblings : List Item} {d : DataItem} {r : SourceRecord} (hname : d.name.Inline)
    (hshape : d.shape.Inline) (h : sourceRecord? l siblings d = some r) : r.Inline := by
  unfold sourceRecord? at h
  split at h
  · split at h
    · rename_i fields stop heq
      cases h
      rw [heq] at hshape
      refine ⟨hname, fun f hf => ?_⟩
      obtain ⟨field, hfield, hdeclared⟩ := List.mem_filterMap.1 hf
      exact declaredField?_inline (hshape field hfield) hdeclared
    · cases h
  · cases h

mutual

theorem recordsOfItem_inline : ∀ (i : Item) {siblings : List Item}, i.Inline →
    ∀ r ∈ recordsOfItem l siblings i, r.Inline
  | .data d, siblings, hi, r, hr => by
    rw [recordsOfItem, Option.mem_toList] at hr
    cases hi with
    | data hname hshape => exact sourceRecord?_inline hname hshape hr
  | .module content, siblings, hi, r, hr => by
    rw [recordsOfItem] at hr
    cases hi with
    | module hcontent => exact recordsOfItems_inline content hcontent r hr
  | .implementation i, siblings, _, r, hr => by
    rw [recordsOfItem] at hr
    · cases hr
    all_goals nofun
  | .other, siblings, _, r, hr => by
    rw [recordsOfItem] at hr
    · cases hr
    all_goals nofun

theorem recordsOfItems_inline : ∀ (is : List Item) {siblings : List Item}, (∀ i ∈ is, i.Inline) →
    ∀ r ∈ recordsOfItems l siblings is, r.Inline
  | [], _, _, _, hr => by
    rw [recordsOfItems] at hr
    cases hr
  | i :: is, siblings, his, r, hr => by
    obtain ⟨hi, his⟩ := List.forall_mem_cons.1 his
    rw [recordsOfItems] at hr
    rcases List.mem_append.1 hr with hr | hr
    · exact recordsOfItem_inline i hi r hr
    · exact recordsOfItems_inline is his r hr

end

/-- The records of a file are written on one line, each name and type by itself. -/
theorem sourceRecords?_inline {records : List SourceRecord} (h : sourceRecords? l = some records) :
    ∀ r ∈ records, r.Inline := by
  obtain ⟨items, hitems, rfl⟩ := Option.map_eq_some_iff.1 h
  exact recordsOfItems_inline items (parseItems?_inline hitems)

end

end RecordSql.Generate
