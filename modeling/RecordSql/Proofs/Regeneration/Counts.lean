import Mathlib.Algebra.Order.BigOperators.Group.List
import Mathlib.Algebra.Order.Ring.Nat
import RecordSql.Proofs.Regeneration.Rereading

/-!
# One region of each kind

A rewrite looks for the regions of a record in one of its bodies. If both of them stand there, or none does, or only
one does and the other one is missing, the record has one region of each kind afterwards, and both are up to date. If
they stand in two bodies, the one that is not found is written a second time, and the stale one is left behind.

- `closedRegions`, `regionCount`: how many regions some markers, a body and a record have.
- `SourceRecord.UpToDate`: a record has one region of a kind, and it is up to date.
- `SourceRecord.Together`: the two regions of a record do not stand in two different bodies.
- `Settled.single`: a body that is settled has one region of each kind.
- `regions_upToDate`: a record is brought up to date exactly if its regions stand together.
-/

namespace RecordSql.Generate

open RecordSql.Source RecordSql.Text

/-! ### Counting regions -/

/-- How many regions some markers close; `isOpen` says that one has been opened in front of them. -/
def closedRegions : (isOpen : Bool) → List Side → Nat
  | _, [] => 0
  | _, .start :: more => closedRegions true more
  | true, .stop :: more => closedRegions false more + 1
  | false, .stop :: more => closedRegions false more

/-- How many regions of a kind stand between the braces of a body. -/
def regionCount (l : Lines) (k : Region) (b : Body) : Nat :=
  closedRegions false (sides k (between (rows (innerText l b))))

/-- How many regions of a kind the bodies of a record have together. -/
def SourceRecord.regionCount (l : Lines) (k : Region) (r : SourceRecord) : Nat :=
  (r.bodies.map (Generate.regionCount l k)).sum

/-- What stands between the markers of a region. -/
def contentsOf (l : Lines) (pair : MarkedLines) : List Char :=
  l.slice (l.start (pair.start + 1)) (l.start pair.stop)

/-- A record has one region of a kind, and there stands what is written for its fields. -/
structure SourceRecord.UpToDate (l : Lines) (k : Region) (r : SourceRecord) : Prop where
  single : r.regionCount l k = 1
  current : ∀ b ∈ r.bodies, ∀ pair ∈ regionIn? l b k,
    contentsOf l pair = (k.body (indentOf l pair.start) r.fields).toList

/-- The two regions of a record do not stand in two different bodies. -/
def SourceRecord.Together (l : Lines) (r : SourceRecord) : Prop :=
  ∀ b ∈ r.bodies, ∀ c ∈ r.bodies, regionIn? l b .fields ≠ none → regionIn? l c .methods ≠ none → b = c

instance (l : Lines) (r : SourceRecord) : Decidable (r.Together l) :=
  inferInstanceAs (Decidable (∀ b ∈ r.bodies, ∀ c ∈ r.bodies, _))

section

variable {isOpen : Bool} {s t : List Side}

/-- One region more is closed at most if one has been opened before. -/
theorem closedRegions_open (s : List Side) :
    closedRegions false s ≤ closedRegions true s ∧ closedRegions true s ≤ closedRegions false s + 1 := by
  match s with
  | [] => exact ⟨Nat.le_refl _, Nat.zero_le _⟩
  | .start :: more => exact ⟨Nat.le_refl _, Nat.le_succ _⟩
  | .stop :: more => exact ⟨Nat.le_succ _, Nat.le_refl _⟩

/-- Markers that are removed do not make more regions. -/
theorem closedRegions_sublist (h : s.Sublist t) (isOpen : Bool) : closedRegions isOpen s ≤ closedRegions isOpen t := by
  induction h generalizing isOpen with
  | slnil => exact Nat.le_refl _
  | @cons s t side h ih =>
    have hopen := closedRegions_open s
    cases side with
    | start => cases isOpen with
      | false => exact Nat.le_trans hopen.1 (ih true)
      | true => exact ih true
    | stop => cases isOpen with
      | false => exact ih false
      | true => exact Nat.le_trans hopen.2 (Nat.succ_le_succ (ih false))
  | @cons_cons s t side h ih =>
    cases side with
    | start => cases isOpen <;> exact ih true
    | stop => cases isOpen with
      | false => exact ih false
      | true => exact Nat.succ_le_succ (ih false)

/-- A pair of markers at the end is one region more. -/
theorem closedRegions_concat (isOpen : Bool) (s : List Side) :
    closedRegions isOpen (s ++ [.start, .stop]) = closedRegions isOpen s + 1 := by
  fun_induction closedRegions isOpen s with
  | case1 isOpen => cases isOpen <;> rfl
  | case2 isOpen more ih => cases isOpen <;> exact ih
  | case3 more ih => exact congrArg (· + 1) ih
  | case4 more ih => exact ih

/-- Markers in front of the first start close nothing. -/
theorem closedRegions_stops (h : .start ∉ s) (t : List Side) : closedRegions false (s ++ t) = closedRegions false t := by
  induction s with
  | nil => rfl
  | cons side s ih =>
    cases side with
    | start => exact absurd List.mem_cons_self h
    | stop => exact ih fun hmem => h (List.mem_cons_of_mem _ hmem)

/-- What closes a region is a stop. -/
theorem stop_mem_of_closedRegions (h : closedRegions isOpen s ≠ 0) : .stop ∈ s := by
  by_contra hnot
  refine h ?_
  clear h
  induction s generalizing isOpen with
  | nil => cases isOpen <;> rfl
  | cons side s ih =>
    cases side with
    | start => cases isOpen <;> exact ih fun hmem => hnot (List.mem_cons_of_mem _ hmem)
    | stop => exact absurd List.mem_cons_self hnot

end

section

variable {k : Region} {rs rs' : List (List Char)} {fields : List DeclaredField}

/-- Rows have a region exactly if their markers close one. -/
theorem found_iff_closedRegions : Found k rs ↔ closedRegions false (sides k (between rs)) ≠ 0 := by
  constructor
  · rintro ⟨o, rfl, hmarks⟩
    have hrows : [o.opening, o.closing].Sublist (between o.rows) := by
      rw [o.between_rows]
      refine .trans ?_ (List.sublist_append_right _ _)
      exact (List.singleton_sublist.2 (by simp)).cons_cons _
    have hsides : sides k [o.opening, o.closing] = [.start, .stop] := by
      rw [sides_cons_some hmarks.opens, sides_cons_some hmarks.closes]
      rfl
    have hsublist := hrows.filterMap (sideOf? k)
    have hle := closedRegions_sublist hsublist false
    rw [show [o.opening, o.closing].filterMap (sideOf? k) = [.start, .stop] from hsides] at hle
    exact Nat.ne_of_gt hle
  · intro hclosed
    have hstart : .start ∈ sides k (between rs) := by
      by_contra hnot
      have hnone := closedRegions_stops hnot []
      rw [List.append_nil] at hnone
      exact hclosed hnone
    obtain ⟨front, opening, back, hbetween, hopens, hfirst⟩ := exists_firstMarker hstart
    have hstops : .start ∉ sides k front := fun hmem => by
      obtain ⟨row, hrow, hside⟩ := List.mem_filterMap.1 hmem
      exact hfirst row hrow hside
    rw [hbetween, sides_append, closedRegions_stops hstops, sides_cons_some hopens] at hclosed
    obtain ⟨contents, closing, more, rfl, hcloses, hwithin⟩ :=
      exists_firstMarker (stop_mem_of_closedRegions (show closedRegions true _ ≠ 0 from hclosed))
    exact .of_between hbetween hopens hcloses hfirst hwithin

/-- Rows that are settled have one region of each kind if they had no more before. -/
theorem Settled.single (h : Settled fields rs rs') (hle : closedRegions false (sides k (between rs)) ≤ 1) :
    closedRegions false (sides k (between rs')) = 1 := by
  have hfound : closedRegions false (sides k (between rs')) ≠ 0 := by
    obtain ⟨o, ho, hmarks, -⟩ := h.current k
    exact found_iff_closedRegions.1 ⟨o, ho, hmarks⟩
  have hmost : closedRegions false (sides k (between rs')) ≤ 1 := by
    by_cases hold : Found k rs
    · exact Nat.le_trans (closedRegions_sublist (h.kept k hold).sublist false) hle
    · have hnone : closedRegions false (sides k (between rs)) = 0 := by
        by_contra hsome
        exact hold (found_iff_closedRegions.2 hsome)
      cases k with
      | fields =>
        have hmore := closedRegions_sublist (h.prepended hold).sublist false
        rwa [show closedRegions false ([.start, .stop] ++ sides .fields (between rs)) =
          closedRegions false (sides .fields (between rs)) + 1 from rfl, hnone] at hmore
      | methods =>
        have hmore := closedRegions_sublist (h.appended hold).sublist false
        rwa [closedRegions_concat, hnone] at hmore
  omega

end

/-! ### Regions of a body -/

namespace Encloses

variable {text front inner back : List Char} {b : Body} {k : Region} {fields : List DeclaredField}

theorem regionCount_eq (h : Encloses text b front inner back) (k : Region) :
    regionCount (.ofText text) k b = closedRegions false (sides k (between (rows inner))) := by
  rw [regionCount, h.innerText_eq]

/-- A body without a region of a kind has none to count. -/
theorem regionCount_eq_zero (h : Encloses text b front inner back) :
    regionCount (.ofText text) k b = 0 ↔ regionIn? (.ofText text) b k = none := by
  have hfound := found_iff_closedRegions.symm.trans (h.found_iff (k := k))
  rw [h.regionCount_eq]
  exact not_iff_not.1 hfound

/-- In a region that is up to date stands what is written for its fields. -/
theorem contentsOf_current (h : Encloses text b front inner back) (hcurrent : Current k fields (rows inner))
    {pair : MarkedLines} (hpair : regionIn? (.ofText text) b k = some pair) :
    contentsOf (.ofText text) pair = (k.body (indentOf (.ofText text) pair.start) fields).toList := by
  obtain ⟨o, ho, hmarks, hcontents⟩ := hcurrent
  have hfirst := h.regionIn?_eq_some_iff.2 ⟨o, ho.symm, hmarks, rfl⟩
  obtain rfl := Option.some_inj.1 (hpair.symm.trans hfirst)
  have hedit : replaceRegion (.ofText text) k _ fields = o.replacement front k fields :=
    h.replaceRegion_eq ho.symm hmarks
  have hstart := congrArg Edit.start hedit
  have hstop := congrArg Edit.stop hedit
  have hwritten := congrArg Edit.text hedit
  simp only [replaceRegion, Outline.replacement] at hstart hstop hwritten
  rw [contentsOf, hstart, hstop, Lines.slice, h.text_outline ho.symm, dropBytes_byteLength, Nat.add_sub_cancel_left,
    takeBytes_byteLength, hcontents, hwritten]

end Encloses

/-! ### Regions of a record -/

section

variable {l : Lines} {k : Region} {b c : Body} {bodies : List Body}

/-- If any body has a region, so does the one in which regions are written. -/
theorem chosenBody?_found (hchosen : chosenBody? l bodies = some b) (hc : c ∈ bodies)
    (hfound : regionIn? l c k ≠ none) : ∃ k', regionIn? l b k' ≠ none := by
  rcases chosenBody?_eq_some hchosen with hfirst | ⟨hnone, -⟩
  · have hb := List.find?_some hfirst
    rcases Bool.or_eq_true_iff.1 hb with hb | hb
    · exact ⟨.fields, Option.isSome_iff_ne_none.1 hb⟩
    · exact ⟨.methods, Option.isSome_iff_ne_none.1 hb⟩
  · have hsome := Option.isSome_iff_ne_none.2 hfound
    have hnot := List.find?_eq_none.1 hnone c hc
    cases k <;> simp [hsome] at hnot

end

section

variable {text : List Char} {records : List SourceRecord} {r : SourceRecord} {b c : Body} {k : Region}

namespace Writable

variable (h : Writable text records) (hr : r ∈ records)

include h hr

theorem regionCount_eq_zero (hb : b ∈ r.bodies) :
    regionCount (.ofText text) k b = 0 ↔ regionIn? (.ofText text) b k = none := by
  obtain ⟨front, inner, back, hbody⟩ := h.encloses hr hb
  exact hbody.regionCount_eq_zero

/-- If a record has one region of a kind at most, only one of its bodies has one. -/
theorem eq_of_found (hle : r.regionCount (.ofText text) k ≤ 1) (hb : b ∈ r.bodies) (hc : c ∈ r.bodies)
    (hfound : regionIn? (.ofText text) b k ≠ none) (hfound' : regionIn? (.ofText text) c k ≠ none) : b = c := by
  by_contra hne
  have hother : c ∈ r.bodies.erase b := (List.mem_erase_of_ne (Ne.symm hne)).2 hc
  have hsum := List.sum_map_erase (regionCount (.ofText text) k) hb
  have hmore := List.le_sum_of_mem (List.mem_map_of_mem (f := regionCount (.ofText text) k) hother)
  have hfirst := mt (h.regionCount_eq_zero (k := k) hr hb).1 hfound
  have hsecond := mt (h.regionCount_eq_zero (k := k) hr hc).1 hfound'
  rw [SourceRecord.regionCount] at hle
  omega

/-- The regions of a record stand together exactly if they all stand in the body in which regions are written. -/
theorem together_iff (hchosen : chosenBody? (.ofText text) r.bodies = some b)
    (hle : ∀ k, r.regionCount (.ofText text) k ≤ 1) :
    r.Together (.ofText text) ↔ ∀ k, ∀ c ∈ r.bodies, c ≠ b → regionIn? (.ofText text) c k = none := by
  have hb := chosenBody?_mem hchosen
  constructor
  · intro htogether k c hc hne
    by_contra hfound
    obtain ⟨k', hfound'⟩ := chosenBody?_found hchosen hc hfound
    cases k <;> cases k'
    · exact hne (h.eq_of_found hr (hle .fields) hc hb hfound hfound')
    · exact hne (htogether c hc b hb hfound hfound')
    · exact hne (htogether b hb c hc hfound' hfound).symm
    · exact hne (h.eq_of_found hr (hle .methods) hc hb hfound hfound')
  · intro hnone c hc d hd hfound hfound'
    have hfirst : c = b := by
      by_contra hne
      exact hfound (hnone .fields c hc hne)
    have hsecond : d = b := by
      by_contra hne
      exact hfound' (hnone .methods d hd hne)
    rw [hfirst, hsecond]

end Writable

variable {parts : List Part}

namespace Writable

variable (h : Writable text records) (hbefore : textBefore parts = text)
  (hchanges : changes 0 parts = (backToFront (records.flatMap (editsOf (.ofText text)))).reverse)
  (hr : r ∈ records)

include h hbefore hchanges hr

/-- The body in which regions are written has one region of each kind afterwards. -/
theorem regionCount_chosen (hchosen : chosenBody? (.ofText text) r.bodies = some b)
    (hle : r.regionCount (.ofText text) k ≤ 1) :
    regionCount (.ofText (textAfter parts)) k (b.moved (records.flatMap (editsOf (.ofText text)))) = 1 := by
  have hb := chosenBody?_mem hchosen
  obtain ⟨front, inner, back, front', inner', back', hold, hnew, hsettled, -⟩ := h.body_moved hbefore hchanges hr hb
  rw [hnew.regionCount_eq]
  refine (hsettled hchosen).single ?_
  rw [← hold.regionCount_eq]
  exact Nat.le_trans (List.le_sum_of_mem (List.mem_map_of_mem hb)) hle

/-- The other bodies have the regions that they had. -/
theorem regionCount_other (hchosen : chosenBody? (.ofText text) r.bodies = some b) (hc : c ∈ r.bodies) (hne : c ≠ b) :
    regionCount (.ofText (textAfter parts)) k (c.moved (records.flatMap (editsOf (.ofText text)))) =
      regionCount (.ofText text) k c := by
  obtain ⟨front, inner, back, front', inner', back', hold, hnew, -, hkept⟩ := h.body_moved hbefore hchanges hr hc
  have hsame : inner' = inner := hkept fun heq => hne (Option.some_inj.1 (heq.symm.trans hchosen))
  rw [hnew.regionCount_eq, hold.regionCount_eq, hsame]

/-- A record has one region of a kind afterwards exactly if no other body had one. -/
theorem single_iff (hchosen : chosenBody? (.ofText text) r.bodies = some b)
    (hle : r.regionCount (.ofText text) k ≤ 1) :
    (r.moved (records.flatMap (editsOf (.ofText text)))).regionCount (.ofText (textAfter parts)) k = 1 ↔
      ∀ c ∈ r.bodies, c ≠ b → regionIn? (.ofText text) c k = none := by
  have hb := chosenBody?_mem hchosen
  have hnodup := sourceRecords?_bodies_nodup h.read hr
  let after := fun c : Body =>
    regionCount (.ofText (textAfter parts)) k (c.moved (records.flatMap (editsOf (.ofText text))))
  have hsum : (r.moved (records.flatMap (editsOf (.ofText text)))).regionCount (.ofText (textAfter parts)) k =
      1 + ((r.bodies.erase b).map after).sum := by
    have hall : (r.bodies.map after).sum = after b + ((r.bodies.erase b).map after).sum :=
      (List.sum_map_erase after hb).symm
    have hone : after b = 1 := h.regionCount_chosen hbefore hchanges hr hchosen hle
    rw [SourceRecord.regionCount, SourceRecord.moved_bodies (List.ne_nil_of_mem hb), List.map_map, ← hone]
    exact hall
  have hzero : ((r.bodies.erase b).map after).sum = 0 ↔
      ∀ c ∈ r.bodies, c ≠ b → regionIn? (.ofText text) c k = none := by
    simp only [List.sum_eq_zero_iff, List.forall_mem_map, hnodup.mem_erase_iff]
    constructor
    · intro hnone c hc hne
      have hafter := hnone c ⟨hne, hc⟩
      rw [show after c = _ from h.regionCount_other hbefore hchanges hr hchosen hc hne] at hafter
      exact (h.regionCount_eq_zero hr hc).1 hafter
    · rintro hnone c ⟨hne, hc⟩
      exact (h.regionCount_other hbefore hchanges hr hchosen hc hne).trans
        ((h.regionCount_eq_zero hr hc).2 (hnone c hc hne))
  rw [hsum, ← hzero]
  omega

/-- A record that has its regions in one body is brought up to date. -/
theorem upToDate_chosen (hchosen : chosenBody? (.ofText text) r.bodies = some b)
    (hle : r.regionCount (.ofText text) k ≤ 1)
    (hnone : ∀ c ∈ r.bodies, c ≠ b → regionIn? (.ofText text) c k = none) :
    (r.moved (records.flatMap (editsOf (.ofText text)))).UpToDate (.ofText (textAfter parts)) k := by
  refine ⟨(h.single_iff hbefore hchanges hr hchosen hle).2 hnone, ?_⟩
  have hb := chosenBody?_mem hchosen
  rw [SourceRecord.moved_bodies (List.ne_nil_of_mem hb), SourceRecord.moved_fields]
  intro b' hb' pair hpair
  obtain ⟨c, hc, rfl⟩ := List.mem_map.1 hb'
  obtain ⟨front, inner, back, front', inner', back', -, hnew, hsettled, -⟩ := h.body_moved hbefore hchanges hr hc
  by_cases hne : c = b
  · subst hne
    exact hnew.contentsOf_current ((hsettled hchosen).current k) hpair
  · have hcount : regionCount (.ofText text) k c = 0 := (h.regionCount_eq_zero hr hc).2 (hnone c hc hne)
    rw [← h.regionCount_other hbefore hchanges hr hchosen hc hne, hnew.regionCount_eq_zero] at hcount
    exact absurd hpair (by rw [hcount]; nofun)

/-- A record without a body has one region of each kind afterwards. -/
theorem upToDate_bodiless (hnone : r.bodies = []) :
    (r.moved (records.flatMap (editsOf (.ofText text)))).UpToDate (.ofText (textAfter parts)) k := by
  obtain ⟨front, inner, back, hbody, hcurrent, hsides⟩ := h.body_inserted hbefore hchanges hr hnone
  constructor
  · rw [SourceRecord.regionCount, SourceRecord.moved_bodiless hnone, List.map_singleton, List.sum_singleton,
      hbody.regionCount_eq, hsides]
    rfl
  · rw [SourceRecord.moved_bodiless hnone, SourceRecord.moved_fields]
    intro b hb pair hpair
    obtain rfl := List.mem_singleton.1 hb
    exact hbody.contentsOf_current (hcurrent k) hpair

/-- The bodies of a record stand between braces afterwards. -/
theorem encloses_moved (hb : b ∈ (r.moved (records.flatMap (editsOf (.ofText text)))).bodies) :
    ∃ front inner back, Encloses (textAfter parts) b front inner back := by
  by_cases hnone : r.bodies = []
  · rw [SourceRecord.moved_bodiless hnone] at hb
    obtain rfl := List.mem_singleton.1 hb
    obtain ⟨front, inner, back, hbody, -⟩ := h.body_inserted hbefore hchanges hr hnone
    exact ⟨front, inner, back, hbody⟩
  · rw [SourceRecord.moved_bodies hnone] at hb
    obtain ⟨c, hc, rfl⟩ := List.mem_map.1 hb
    obtain ⟨-, -, -, front, inner, back, -, hbody, -⟩ := h.body_moved hbefore hchanges hr hc
    exact ⟨front, inner, back, hbody⟩

end Writable

end

/-! ### One region of each kind -/

section

variable {text : List Char} {output : Option (List Char)} {records : List SourceRecord} {r : SourceRecord}

/-- What a run makes of a file with records is what their edits make of it. -/
theorem regenerated?_applied (hrecords : sourceRecords? (.ofText text) = some records) (hne : records ≠ [])
    (h : regenerated? text = .ok output) :
    applyEdits? (records.flatMap (editsOf (.ofText text))) text = some (output.getD text) := by
  rw [regenerated?_eq hrecords, if_neg hne] at h
  unfold updateRegions at h
  split at h
  · cases h
  · split at h
    · rename_i hedits
      simp only [Except.map, Except.ok.injEq] at h
      refine hedits.trans (congrArg some ?_)
      split at h <;> rw [← h]
      · assumption
      · rfl
    · cases h

/-- A record that has one region of each kind at most is brought up to date exactly if its regions do not stand in two
different bodies: then it has one region of each kind, and both hold what is written for its fields. -/
theorem regions_upToDate (h : Writable text records) (hrun : regenerated? text = .ok output) (hr : r ∈ records)
    (hle : ∀ k, r.regionCount (.ofText text) k ≤ 1) :
    (∀ b ∈ (r.moved (records.flatMap (editsOf (.ofText text)))).bodies,
      ∃ front inner back, Encloses (output.getD text) b front inner back) ∧
    ((∀ k, (r.moved (records.flatMap (editsOf (.ofText text)))).UpToDate (.ofText (output.getD text)) k) ↔
      r.Together (.ofText text)) := by
  have hseparate := sourceRecords?_separate h.read
  have hedits := regenerated?_applied h.read (List.ne_nil_of_mem hr) hrun
  obtain ⟨parts, hbefore, hafter, hchanges⟩ :=
    applyEdits?_spliced (edits_le hseparate) (edits_apart hseparate h.apart) hedits
  rw [← hafter]
  refine ⟨fun b hb => h.encloses_moved hbefore hchanges hr hb, ?_⟩
  cases hchosen : chosenBody? (.ofText text) r.bodies with
  | none =>
    have hnone := chosenBody?_eq_none hchosen
    refine iff_of_true (fun k => h.upToDate_bodiless hbefore hchanges hr hnone) fun b hb => ?_
    rw [hnone] at hb
    cases hb
  | some b =>
    rw [h.together_iff hr hchosen hle]
    constructor
    · intro hcurrent k
      exact (h.single_iff hbefore hchanges hr hchosen (hle k)).1 (hcurrent k).single
    · intro hnone k
      exact h.upToDate_chosen hbefore hchanges hr hchosen (hle k) (hnone k)

end

/-! ### Shelves -/

set_option maxRecDepth 4000 in
/-- A shelf whose constructor of keys was stale has one region of each kind afterwards. -/
theorem staleShelf_upToDate :
    Writable staleShelf [staleShelfRecord] ∧ regenerated? staleShelf = .ok (some freshShelf) ∧
      (∀ k, staleShelfRecord.regionCount (.ofText staleShelf) k ≤ 1) ∧
      staleShelfRecord.Together (.ofText staleShelf) ∧
      ∀ k, (staleShelfRecord.moved ([staleShelfRecord].flatMap (editsOf (.ofText staleShelf)))).UpToDate
        (.ofText freshShelf) k := by
  obtain ⟨hwritable, hcounts, htogether⟩ : Writable staleShelf [staleShelfRecord] ∧
      (∀ k, staleShelfRecord.regionCount (.ofText staleShelf) k ≤ 1) ∧
      staleShelfRecord.Together (.ofText staleShelf) := by
    unfold staleShelf shelfOpening shelfMarker staleKeys shelfClosing
    simp only [String.toList_append]
    iterate 4 rewrite [String.toList_ofList]
    decide +kernel
  have hcurrent := (regions_upToDate hwritable staleShelf_regenerated List.mem_cons_self hcounts).2.2 htogether
  rw [Option.getD_some] at hcurrent
  exact ⟨hwritable, staleShelf_regenerated, hcounts, htogether, hcurrent⟩

/-- A body with a stale constructor of keys. -/
def staleBody : List Char :=
  "impl Shelf \x7b\n    // AUTO-GENERATED: METHODS START\n    fn f() \x7b\x7d\n".toList ++
  "    // AUTO-GENERATED: METHODS END\n\x7d\n".toList

/-- A file with a record whose two regions stand in two bodies. -/
def splitShelf : List Char :=
  "#[derive(PersistentRecord)]\nstruct Shelf \x7b\x7d\nimpl Shelf \x7b\n".toList ++
  "    // AUTO-GENERATED: FIELDS START\n    // AUTO-GENERATED: FIELDS END\n\x7d\n".toList ++ staleBody

/-- A file with a record whose two regions stand in one body. -/
def joinedShelf : List Char :=
  "#[derive(PersistentRecord)]\nstruct Shelf \x7b\x7d\nimpl Shelf \x7b\n".toList ++
  "    // AUTO-GENERATED: FIELDS START\n    // AUTO-GENERATED: FIELDS END\n\n".toList ++
  "    // AUTO-GENERATED: METHODS START\n    // AUTO-GENERATED: METHODS END\n\x7d\n".toList

/-- The record with two bodies. -/
def splitShelfRecord : SourceRecord := ⟨"Shelf", [], 43, [⟨55, 127⟩, ⟨140, 228⟩]⟩

set_option maxRecDepth 8000 in
/-- The constructor of keys is written a second time, into the body with the field names, and the stale one is left
behind. -/
theorem splitShelf_outdated :
    sourceRecords? (.ofText splitShelf) = some [splitShelfRecord] ∧
      regenerated? splitShelf = .ok (some (joinedShelf ++ staleBody)) ∧
      (∀ k, splitShelfRecord.regionCount (.ofText splitShelf) k ≤ 1) ∧
      sourceRecords? (.ofText (joinedShelf ++ staleBody)) =
        some (movedRecords (.ofText splitShelf) [splitShelfRecord]) ∧
      ∀ r ∈ movedRecords (.ofText splitShelf) [splitShelfRecord],
        r.regionCount (.ofText (joinedShelf ++ staleBody)) .methods = 2 ∧
          ¬ r.UpToDate (.ofText (joinedShelf ++ staleBody)) .methods := by
  have hrecords : sourceRecords? (.ofText splitShelf) = some [splitShelfRecord] := by
    unfold splitShelf staleBody
    iterate 4 rewrite [String.toList_ofList]
    decide +kernel
  have hrun : regenerated? splitShelf = .ok (some (joinedShelf ++ staleBody)) := by
    rewrite [regenerated?_eq hrecords]
    unfold splitShelf joinedShelf staleBody
    iterate 6 rewrite [String.toList_ofList]
    decide +kernel
  have hcounts : ∀ k, splitShelfRecord.regionCount (.ofText splitShelf) k ≤ 1 := by
    unfold splitShelf staleBody
    iterate 4 rewrite [String.toList_ofList]
    decide +kernel
  have hreread : sourceRecords? (.ofText (joinedShelf ++ staleBody)) =
      some (movedRecords (.ofText splitShelf) [splitShelfRecord]) := by
    unfold splitShelf joinedShelf staleBody
    iterate 6 rewrite [String.toList_ofList]
    decide +kernel
  have htwice : ∀ r ∈ movedRecords (.ofText splitShelf) [splitShelfRecord],
      r.regionCount (.ofText (joinedShelf ++ staleBody)) .methods = 2 := by
    unfold splitShelf joinedShelf staleBody
    iterate 6 rewrite [String.toList_ofList]
    decide +kernel
  refine ⟨hrecords, hrun, hcounts, hreread, fun r hr => ⟨htwice r hr, fun hcurrent => ?_⟩⟩
  have hone := hcurrent.single
  rw [htwice r hr] at hone
  cases hone

end RecordSql.Generate
