import RecordSql.Proofs.Regeneration.Settling

/-!
# A second run

A rewrite moves the records of a file. If the file was in order, the markers of what comes out are still balanced,
every record has both regions in the body in which they were written, and there is nothing left to replace. A second
run therefore changes nothing, provided that it can read what the first one has written.

- `SourceRecord.moved`: where a record is to be found in a rewritten file.
- `Encloses.regionEdit_idle`: a region that is up to date is replaced by itself.
- `Writable.body_moved`, `Writable.body_inserted`: the bodies of a rewritten file.
- `Orderly.updateRegions_moved`: in a rewritten file nothing is left to replace.
- `regenerated?_idempotent`: a second run that reads the moved records changes nothing.
- `keywordShelf_unreadable`: a file whose rewrite cannot be read.
-/

namespace RecordSql.Generate

open RecordSql.Source RecordSql.Text

/-! ### Records that move -/

/-- Where a body is to be found after some edits. -/
def Body.moved (edits : List Edit) (b : Body) : Body := ⟨landing edits b.opening, landing edits b.closing⟩

/-- The body of the implementation of a record that ends at an offset. -/
def SourceRecord.insertedBody (r : SourceRecord) (stop : Nat) : Body where
  opening := stop - byteLength (implementationText r.name r.fields).toList +
    byteLength ("impl " ++ r.name ++ " ").toList
  closing := stop - 1

/-- A record as it is to be found after some edits. One without a body has the body that is inserted behind it. -/
def SourceRecord.moved (edits : List Edit) (r : SourceRecord) : SourceRecord :=
  let stop := landing edits r.stop
  match r.bodies with
  | [] => { r with stop := stop - byteLength r.insertion.text, bodies := [r.insertedBody stop] }
  | bodies => { r with stop := stop, bodies := bodies.map (Body.moved edits) }

/-- The records of a file as they are to be found after a rewrite. -/
def movedRecords (l : Lines) (records : List SourceRecord) : List SourceRecord :=
  records.map (SourceRecord.moved (records.flatMap (editsOf l)))

section

variable {edits : List Edit} {r : SourceRecord}

theorem SourceRecord.moved_fields : (r.moved edits).fields = r.fields := by
  unfold moved
  split <;> rfl

theorem SourceRecord.moved_bodies (h : r.bodies ≠ []) :
    (r.moved edits).bodies = r.bodies.map (Body.moved edits) := by
  unfold moved
  split
  · rename_i hnone
    exact absurd hnone h
  · rfl

theorem SourceRecord.moved_bodiless (h : r.bodies = []) :
    (r.moved edits).bodies = [r.insertedBody (landing edits r.stop)] := by
  rw [moved, h]

end

/-! ### Regions that are up to date -/

namespace Encloses

variable {text front inner back : List Char} {b : Body} {k : Region} {fields : List DeclaredField}

/-- A region that is up to date is found. -/
theorem found (h : Encloses text b front inner back) (hcurrent : Current k fields (rows inner)) :
    regionIn? (.ofText text) b k ≠ none := by
  obtain ⟨o, ho, hmarks, -⟩ := hcurrent
  exact h.found_iff.1 ⟨o, ho, hmarks⟩

/-- A region that is up to date is replaced by itself. -/
theorem regionEdit_idle (h : Encloses text b front inner back) (hcurrent : Current k fields (rows inner)) :
    (regionEdit (.ofText text) b k fields).replaceIn? text = some text := by
  obtain ⟨o, ho, hmarks, hcontents⟩ := hcurrent
  have hpair := h.regionIn?_eq_some_iff.2 ⟨o, ho.symm, hmarks, rfl⟩
  have hedit : regionEdit (.ofText text) b k fields = o.replacement front k fields := by
    simp only [regionEdit, hpair, h.replaceRegion_eq ho.symm hmarks]
  have hsame := Outline.replacement_apply hcontents front back
  rw [hedit, h.text_eq, Outline.eq_text ho.symm]
  exact hsame

end Encloses

/-! ### The body in which regions are written -/

section

variable {l : Lines} {b : Body} {bodies earlier later : List Body} {k : Region}

/-- No body in front of the one in which regions are written has a region. -/
theorem chosenBody?_split (h : chosenBody? l bodies = some b) :
    ∃ earlier later, bodies = earlier ++ b :: later ∧ ∀ c ∈ earlier, c ≠ b ∧ ∀ k, regionIn? l c k = none := by
  rcases chosenBody?_eq_some h with h | ⟨-, h⟩
  · obtain ⟨hfound, earlier, later, rfl, hearlier⟩ := List.find?_eq_some_iff_append.1 h
    refine ⟨earlier, later, rfl, fun c hc => ⟨?_, fun k => ?_⟩⟩
    · rintro rfl
      exact absurd hfound (by simpa using hearlier c hc)
    · have hnone := hearlier c hc
      cases k <;> simp_all
  · obtain ⟨later, rfl⟩ := List.head?_eq_some_iff.1 h
    exact ⟨[], later, rfl, List.forall_mem_nil _⟩

/-- The first body that has a region is the one in which regions are written. -/
theorem chosenBody?_of_found (hearlier : ∀ c ∈ earlier, ∀ k, regionIn? l c k = none)
    (hfound : regionIn? l b k ≠ none) : chosenBody? l (earlier ++ b :: later) = some b := by
  have hfirst : (earlier ++ b :: later).find? (fun c => (regionIn? l c .fields).isSome ||
      (regionIn? l c .methods).isSome) = some b := by
    refine List.find?_eq_some_iff_append.2 ⟨?_, earlier, later, rfl, fun c hc => ?_⟩
    · have hsome := Option.isSome_iff_ne_none.2 hfound
      cases k <;> simp [hsome]
    · simp [hearlier c hc]
  rw [chosenBody?, hfirst]
  rfl

end

/-! ### Bodies of a rewritten file -/

section

variable {text output : List Char} {records : List SourceRecord} {r : SourceRecord} {b : Body} {parts : List Part}

theorem edits_perm (hchanges : changes 0 parts = (backToFront (records.flatMap (editsOf (.ofText text)))).reverse) :
    (records.flatMap (editsOf (.ofText text))).Perm (changes 0 parts) := by
  rw [hchanges]
  exact ((List.reverse_perm _).trans (backToFront_perm _)).symm

namespace Writable

variable (h : Writable text records) (hbefore : textBefore parts = text)
  (hchanges : changes 0 parts = (backToFront (records.flatMap (editsOf (.ofText text)))).reverse)

include h hbefore hchanges

/-- The parts of a whole rewrite. -/
theorem beginning : Beginning text records parts := by
  refine ⟨⟨[], by rw [hbefore, List.append_nil]⟩, fun r hr b hb => .inr ?_, [], by rw [hchanges, List.append_nil], nofun⟩
  obtain ⟨front, inner, back, hbody⟩ := h.encloses hr hb
  rw [hbefore, ← hbody.byteLength_inner]
  refine byteLength_lt_of_front ⟨'\x7d' :: back, ?_⟩ ?_
  · rw [hbody.text_eq]
    simp
  · rw [hbody.text_eq]
    simp

/-- A body moves with its braces. It is settled if regions are written there, and it is kept otherwise. -/
theorem body_moved (hr : r ∈ records) (hb : b ∈ r.bodies) :
    ∃ front inner back front' inner' back', Encloses text b front inner back ∧
      Encloses (textAfter parts) (b.moved (records.flatMap (editsOf (.ofText text)))) front' inner' back' ∧
      (chosenBody? (.ofText text) r.bodies = some b → Settled r.fields (rows inner) (rows inner')) ∧
      (chosenBody? (.ofText text) r.bodies ≠ some b → inner' = inner) := by
  obtain ⟨front, inner, back, hbody⟩ := h.encloses hr hb
  have w := h.beginning hbefore hchanges
  have hperm := edits_perm hchanges
  have hin : b.closing < byteLength (textBefore parts) := (w.outside r hr b hb).resolve_left fun hle => by
    have hall := congrArg byteLength hbody.text_eq
    rw [hbefore, hall, byteLength_append, byteLength_cons, hbody.opening_eq] at hle
    have := ('\x7b' : Char).utf8Size_pos
    omega
  obtain ⟨qs, ms, rest, hqs, hms, hwindow, hsettled, hkept⟩ := w.window h hr hb hbody hin
  refine ⟨front, inner, back, textAfter qs, textAfter ms, textAfter rest, hbody, ⟨hwindow.after, ?_, ?_⟩, hsettled, hkept⟩
  · have hlanding := landing_changes (hwindow.changes ▸ hperm) fun e he => ?_
    · rwa [hqs, ← hbody.opening_eq] at hlanding
    · rw [hqs, ← hbody.opening_eq]
      rcases List.mem_append.1 he with he | he
      · have := changes_bounds he
        omega
      · have := changes_bounds he
        have := hbody.opening_eq ▸ hbody.closing_eq
        omega
  · have hsplit : changes 0 (qs ++ .kept ['\x7b'] :: ms) = changes 0 qs ++ changes (b.opening + 1) ms := by
      rw [changes_append, changes, hqs, Nat.zero_add, hbody.opening_eq]
      rfl
    have htext : textBefore (qs ++ .kept ['\x7b'] :: ms) = front ++ '\x7b' :: inner := by
      rw [textBefore_append, hqs, ← hms]
      rfl
    have hall := hwindow.changes
    rw [← List.append_assoc, ← hsplit] at hall
    have hlanding := landing_changes (hall ▸ hperm) fun e he => ?_
    · rw [htext, hbody.byteLength_inner, textAfter_append] at hlanding
      rw [Body.moved, hlanding, byteLength_append, Nat.add_assoc]
      rfl
    · have := changes_bounds he
      rw [htext, hbody.byteLength_inner]
      omega

/-- The implementation that is inserted behind a record has both regions up to date, and no other ones. -/
theorem body_inserted (hr : r ∈ records) (hnone : r.bodies = []) :
    ∃ front inner back, Encloses (textAfter parts)
        (r.insertedBody (landing (records.flatMap (editsOf (.ofText text))) r.stop)) front inner back ∧
      (∀ k, Current k r.fields (rows inner)) ∧ ∀ k, sides k (between (rows inner)) = [.start, .stop] := by
  have w := h.beginning hbefore hchanges
  have hperm := edits_perm hchanges
  have he : r.insertion ∈ changes 0 parts := by
    refine hperm.mem_iff.1 (List.mem_flatMap.2 ⟨r, hr, ?_⟩)
    rw [editsOf_bodiless hnone]
    exact List.mem_cons_self
  obtain ⟨qs, rest, hqs, -, hafter, hall, hbehind⟩ := w.insertion h hr he
  obtain ⟨inner, himplementation, hcurrent, hsides⟩ := (sourceRecords?_inline h.read r hr).implementation
  have hlanding : landing (records.flatMap (editsOf (.ofText text))) r.stop =
      byteLength (textAfter qs ++ r.insertion.text) := by
    have hsplit : changes 0 (qs ++ [Part.changed [] r.insertion.text]) = changes 0 qs ++ [r.insertion] := by
      rw [changes_append, changes, changes, hqs, Nat.zero_add]
      rfl
    have htext : byteLength (textBefore (qs ++ [Part.changed [] r.insertion.text])) = r.stop := by
      rw [textBefore_append, byteLength_append, hqs]
      rfl
    rw [List.append_cons, ← hsplit] at hall
    have hchanged := landing_changes (hall ▸ hperm) fun e he => by
      rw [htext]
      exact hbehind e he
    rw [htext, textAfter_append] at hchanged
    simpa [textAfter, Part.after] using hchanged
  have hfeeds : "\n\n".toList = ['\n', '\n'] := rfl
  have htext : r.insertion.text = '\n' :: '\n' :: (implementationText r.name r.fields).toList := by
    simp [SourceRecord.insertion, Edit.insert, hfeeds]
  have hsizes : ('\n' : Char).utf8Size = 1 ∧ ('\x7b' : Char).utf8Size = 1 ∧ ('\x7d' : Char).utf8Size = 1 :=
    ⟨rfl, rfl, rfl⟩
  rw [htext] at hlanding hafter
  refine ⟨textAfter qs ++ '\n' :: '\n' :: ("impl " ++ r.name ++ " ").toList, inner, textAfter rest, ⟨?_, ?_, ?_⟩, hcurrent,
    hsides⟩
  · rw [hafter, himplementation]
    simp
  · simp only [SourceRecord.insertedBody, hlanding, byteLength_append, byteLength_cons, hsizes]
    omega
  · simp only [SourceRecord.insertedBody, hlanding, himplementation, byteLength_append, byteLength_cons, byteLength_nil,
      hsizes]
    omega

end Writable

end

/-! ### A second run -/

section

variable {text output : List Char} {records : List SourceRecord} {r : SourceRecord} {parts : List Part}

theorem anyImbalance?_eq_none {l : Lines} : anyImbalance? l = none ↔ ∀ k, openAtEnd k l.text = some false := by
  rw [anyImbalance?, Option.orElse_eq_orElse, Option.orElse_eq_or, Option.or_eq_none_iff, imbalance?_eq_none,
    imbalance?_eq_none]
  exact ⟨fun h k => by cases k; exacts [h.1, h.2], fun h => ⟨h .fields, h .methods⟩⟩

/-- In a rewritten file no record has anything to replace. -/
theorem Orderly.editsOf_idle (h : Orderly text records) (hbefore : textBefore parts = text)
    (hchanges : changes 0 parts = (backToFront (records.flatMap (editsOf (.ofText text)))).reverse) (hr : r ∈ records) :
    ∀ e ∈ editsOf (.ofText (textAfter parts)) (r.moved (records.flatMap (editsOf (.ofText text)))),
      e.replaceIn? (textAfter parts) = some (textAfter parts) := by
  have hidle : ∀ {b front inner back},
      chosenBody? (.ofText (textAfter parts)) (r.moved (records.flatMap (editsOf (.ofText text)))).bodies = some b →
      Encloses (textAfter parts) b front inner back → (∀ k, Current k r.fields (rows inner)) →
      ∀ e ∈ editsOf (.ofText (textAfter parts)) (r.moved (records.flatMap (editsOf (.ofText text)))),
        e.replaceIn? (textAfter parts) = some (textAfter parts) := by
    intro b front inner back hchosen hbody hcurrent e he
    rw [editsOf_chosen hchosen, SourceRecord.moved_fields] at he
    rcases List.mem_pair.1 he with rfl | rfl
    · exact hbody.regionEdit_idle (hcurrent .fields)
    · exact hbody.regionEdit_idle (hcurrent .methods)
  cases hchosen : chosenBody? (.ofText text) r.bodies with
  | none =>
    have hnone := chosenBody?_eq_none hchosen
    obtain ⟨front, inner, back, hbody, hcurrent, -⟩ := h.writable.body_inserted hbefore hchanges hr hnone
    refine hidle ?_ hbody hcurrent
    rw [SourceRecord.moved_bodiless hnone]
    show chosenBody? _ ([] ++ _ :: []) = some _
    exact chosenBody?_of_found (List.forall_mem_nil _) (hbody.found (hcurrent .fields))
  | some b =>
    have hb := chosenBody?_mem hchosen
    obtain ⟨_, _, _, front, inner, back, -, hbody, hsettled, -⟩ :=
      h.writable.body_moved hbefore hchanges hr hb
    have hcurrent := (hsettled hchosen).current
    refine hidle ?_ hbody hcurrent
    obtain ⟨earlier, later, hsplit, hearlier⟩ := chosenBody?_split hchosen
    rw [SourceRecord.moved_bodies (List.ne_nil_of_mem hb), hsplit, List.map_append, List.map_cons]
    refine chosenBody?_of_found (fun c' hc' k => ?_) (hbody.found (hcurrent .fields))
    obtain ⟨c, hc, rfl⟩ := List.mem_map.1 hc'
    obtain ⟨hne, hnone⟩ := hearlier c hc
    obtain ⟨_, inner, _, _, inner', _, hold, hnew, -, hkept⟩ :=
      h.writable.body_moved hbefore hchanges hr (hsplit ▸ List.mem_append_left _ hc)
    obtain rfl := hkept fun heq => hne (Option.some_inj.1 (heq.symm.trans hchosen))
    by_contra hfound
    exact hold.found_iff.1 (hnew.found_iff.2 hfound) (hnone k)

/-- Nothing is left to replace in a rewritten file: if the file was in order, all markers have their counterparts, and
the regions of its records, where they have moved to, are up to date. -/
theorem Orderly.updateRegions_moved (h : Orderly text records) (hrun : regenerated? text = .ok (some output)) :
    updateRegions (.ofText output) (movedRecords (.ofText text) records) = .ok output := by
  obtain ⟨hbalanced, hedits⟩ := regenerated?_eq_some h.read hrun
  have hseparate := sourceRecords?_separate h.read
  obtain ⟨parts, hbefore, rfl, hchanges⟩ :=
    applyEdits?_spliced (edits_le hseparate) (edits_apart hseparate h.apart) hedits
  refine updateRegions_eq_ok.2 ⟨anyImbalance?_eq_none.2 fun k => ?_, applyEdits?_idle fun e he => ?_⟩
  · have hsame := (h.writable.beginning hbefore hchanges).openAtEnd_eq h k []
    rw [List.append_nil, List.append_nil, hbefore] at hsame
    exact hsame.trans (anyImbalance?_eq_none.1 hbalanced k)
  · obtain ⟨s, hs, he⟩ := List.mem_flatMap.1 he
    obtain ⟨r, hr, rfl⟩ := List.mem_map.1 hs
    exact h.editsOf_idle hbefore hchanges hr e he

/-- A second run over a rewritten file changes nothing if it reads the records where they have moved to. That it can
read them does not follow from the file being in order: names that are keywords are written as they are. -/
theorem regenerated?_idempotent (h : Orderly text records) (hrun : regenerated? text = .ok (some output))
    (hreread : sourceRecords? (.ofText output) = some (movedRecords (.ofText text) records)) :
    regenerated? output = .ok none := by
  rw [regenerated?_eq hreread, h.updateRegions_moved hrun]
  split
  · rfl
  · simp [Except.map]

end

/-! ### Shelves -/

set_option maxRecDepth 4000 in
/-- A shelf whose constructor of keys was stale is not rewritten twice. -/
theorem staleShelf_idempotent :
    Orderly staleShelf [staleShelfRecord] ∧ regenerated? staleShelf = .ok (some freshShelf) ∧
      sourceRecords? (.ofText freshShelf) = some (movedRecords (.ofText staleShelf) [staleShelfRecord]) ∧
      regenerated? freshShelf = .ok none := by
  have horderly : Orderly staleShelf [staleShelfRecord] := by
    unfold staleShelf shelfOpening shelfMarker staleKeys shelfClosing
    simp only [String.toList_append]
    iterate 4 rewrite [String.toList_ofList]
    decide +kernel
  have hreread : sourceRecords? (.ofText freshShelf) = some (movedRecords (.ofText staleShelf) [staleShelfRecord]) := by
    simp only [movedRecords, List.flatMap_singleton, staleShelf_edits]
    unfold freshShelf shelfOpening shelfNames shelfMarker shelfKeys shelfClosing
    simp only [String.toList_append]
    iterate 11 rewrite [String.toList_ofList]
    decide +kernel
  exact ⟨horderly, staleShelf_regenerated, hreread, regenerated?_idempotent horderly staleShelf_regenerated hreread⟩

/-- A file with a record of which the key field is named like a keyword. -/
def keywordShelf : List Char := "#[derive(PersistentRecord)]\nstruct Shelf \x7b #[depot(id)] r#in: u8 \x7d".toList

/-- The record of this file. -/
def keywordShelfRecord : SourceRecord := ⟨"Shelf", [⟨"in", "u8", true⟩], 66, []⟩

/-- What is written for this record. The name is used for a parameter as it is. -/
def keywordImplementation : String :=
  "impl Shelf \x7b\n    // AUTO-GENERATED: FIELDS START\n    pub const IN: &'static str = \"in\";\n\n" ++
  "    pub fn in_c() -> ::depot::ColumnExp \x7b\n        ::depot::ColumnExp::new::<Self>(Self::IN)\n    \x7d\n" ++
  "    // AUTO-GENERATED: FIELDS END\n\n    // AUTO-GENERATED: METHODS START\n" ++
  "    pub fn get_key(in: u8) -> ::depot::Key \x7b\n" ++
  "        ::depot::Key::new::<Self>(vec![(Self::IN, ::depot::Value::from(in))])\n    \x7d\n" ++
  "    // AUTO-GENERATED: METHODS END\n\x7d"

theorem keywordShelf_records : sourceRecords? (.ofText keywordShelf) = some [keywordShelfRecord] := by
  unfold keywordShelf
  rewrite [String.toList_ofList]
  decide +kernel

set_option maxRecDepth 4000 in
theorem keywordShelf_regenerated :
    regenerated? keywordShelf = .ok (some (keywordShelf ++ ("\n\n" ++ keywordImplementation).toList)) := by
  have hbalanced : anyImbalance? (.ofText keywordShelf) = none := by
    unfold keywordShelf
    rewrite [String.toList_ofList]
    decide +kernel
  have hlength : byteLength keywordShelf = 66 := by
    unfold keywordShelf
    rewrite [String.toList_ofList]
    decide +kernel
  have hwritten : implementationText "Shelf" [⟨"in", "u8", true⟩] = keywordImplementation := by decide +kernel
  have hinsertion : keywordShelfRecord.insertion = .insert 66 ("\n\n" ++ keywordImplementation).toList := by
    rw [← hwritten]
    rfl
  have happly : applyEdits? ([keywordShelfRecord].flatMap (editsOf (.ofText keywordShelf))) keywordShelf =
      some (keywordShelf ++ ("\n\n" ++ keywordImplementation).toList) := by
    rw [List.flatMap_singleton, editsOf_bodiless rfl, applyEdits?_singleton, hinsertion]
    refine Edit.replaceIn?_eq_some.2 ⟨keywordShelf, [], [], by simp, hlength.symm, hlength.symm, ?_⟩
    rw [List.append_nil, Edit.insert]
  rw [regenerated?_eq keywordShelf_records, updateRegions_eq_ok.2 ⟨hbalanced, happly⟩]
  simp [Except.map]

/-- The rewrite of this file cannot be read. -/
theorem keywordShelf_unreadable :
    regenerated? keywordShelf = .ok (some (keywordShelf ++ ("\n\n" ++ keywordImplementation).toList)) ∧
      regenerated? (keywordShelf ++ ("\n\n" ++ keywordImplementation).toList) = .error .malformed := by
  refine ⟨keywordShelf_regenerated, ?_⟩
  unfold keywordShelf keywordImplementation
  simp only [String.toList_append]
  iterate 8 rewrite [String.toList_ofList]
  decide +kernel

end RecordSql.Generate
