import RecordSql.Proofs.Regeneration.Regions

/-!
# What a rewrite leaves alone

A rewrite of a file changes the lines between the markers of its regions, and inserts regions and
implementations that are missing. Everything else stays as it is, provided that no two regions that are
replaced share a line: an edit of shared lines would use offsets that another edit has moved.

- `RecordChange`, `editsOf_change`: what is done for one record.
- `replacedRegions`, `RegionsApart`: the regions that are replaced, and that they share no line.
- `edits_apart`, `edits_fit`: the edits of a file lie apart, and their offsets lie between characters.
- `regenerated?_frame`: a rewrite is a splice of these edits, which spares the markers, and there is always
  one unless a byte order mark moves the offsets of the first line.
-/

namespace RecordSql.Generate

open RecordSql.Source RecordSql.Text

/-! ### Records -/

/-- What is done for a record: an implementation is inserted behind it, or its two regions are changed in one
of its bodies. -/
inductive RecordChange (l : Lines) (r : SourceRecord) : List Edit → Prop
  | implementation (hnone : r.bodies = []) :
      RecordChange l r [.insert r.stop ("\n\n".toList ++ (implementationText r.name r.fields).toList)]
  | regions {b : Body} {e e' : Edit} (hb : b ∈ r.bodies) (hchosen : chosenBody? l r.bodies = some b)
      (hfields : RegionChange l b .fields r.fields e) (hmethods : RegionChange l b .methods r.fields e') :
      RecordChange l r [e, e']

/-- The regions of a record that are replaced. -/
def replacedRegions (l : Lines) (r : SourceRecord) : List MarkedLines :=
  (chosenBody? l r.bodies).toList.flatMap fun b =>
    (regionIn? l b .fields).toList ++ (regionIn? l b .methods).toList

/-- No two regions that are replaced share a line. -/
def RegionsApart (l : Lines) (records : List SourceRecord) : Prop :=
  (records.flatMap (replacedRegions l)).Pairwise fun p q => p.stop < q.start ∨ q.stop < p.start

instance (l : Lines) (records : List SourceRecord) : Decidable (RegionsApart l records) :=
  inferInstanceAs (Decidable (List.Pairwise _ _))

section

variable {l : Lines} {r s : SourceRecord} {b : Body} {bodies : List Body} {k : Region}
  {pair : MarkedLines} {e : Edit}

/-- Regions are written in the first body that has one, or in the first body if none has. -/
theorem chosenBody?_eq_some (h : chosenBody? l bodies = some b) :
    bodies.find? (fun c => (regionIn? l c .fields).isSome || (regionIn? l c .methods).isSome) = some b ∨
      bodies.find? (fun c => (regionIn? l c .fields).isSome || (regionIn? l c .methods).isSome) = none ∧
        bodies.head? = some b := by
  rw [chosenBody?, Option.orElse_eq_orElse, Option.orElse_eq_or] at h
  exact Option.or_eq_some_iff.1 h

theorem chosenBody?_mem (h : chosenBody? l bodies = some b) : b ∈ bodies := by
  rcases chosenBody?_eq_some h with h | ⟨-, h⟩
  · exact List.mem_of_find?_eq_some h
  · exact List.mem_of_head? h

theorem chosenBody?_eq_none (h : chosenBody? l bodies = none) : bodies = [] := by
  rw [chosenBody?, Option.orElse_eq_orElse, Option.orElse_eq_or] at h
  exact List.head?_eq_none_iff.1 (Option.or_eq_none_iff.1 h).2

/-- The edits of a record do what is to be done for it. -/
theorem editsOf_change (hb : ∀ b ∈ r.bodies, b.opening < b.closing) : RecordChange l r (editsOf l r) := by
  unfold editsOf
  split
  · rename_i hnone
    have h := RecordChange.implementation (l := l) (chosenBody?_eq_none hnone)
    simpa using h
  · rename_i b hchosen
    have hmem := chosenBody?_mem hchosen
    exact .regions hmem hchosen (regionEdit_change (hb b hmem) _ _) (regionEdit_change (hb b hmem) _ _)

/-- An edit of a record is an insertion behind it, or what is done for a region of a body. -/
theorem mem_editsOf (hb : ∀ b ∈ r.bodies, b.opening < b.closing) (he : e ∈ editsOf l r) :
    (∃ text, e = .insert r.stop text) ∨
      ∃ b k, b ∈ r.bodies ∧ chosenBody? l r.bodies = some b ∧ RegionChange l b k r.fields e := by
  have hchange := editsOf_change (l := l) hb
  generalize editsOf l r = edits at he hchange
  cases hchange with
  | implementation => exact .inl ⟨_, List.mem_singleton.1 he⟩
  | @regions b e₁ e₂ hmem hchosen hfields hmethods =>
    rcases List.mem_cons.1 he with rfl | he
    · exact .inr ⟨b, _, hmem, hchosen, hfields⟩
    · obtain rfl := List.mem_singleton.1 he
      exact .inr ⟨b, _, hmem, hchosen, hmethods⟩

theorem mem_replacedRegions : pair ∈ replacedRegions l r ↔
    ∃ b k, chosenBody? l r.bodies = some b ∧ regionIn? l b k = some pair := by
  unfold replacedRegions
  simp only [List.mem_flatMap, Option.mem_toList, List.mem_append]
  constructor
  · rintro ⟨b, hb, h | h⟩
    · exact ⟨b, .fields, hb, h⟩
    · exact ⟨b, .methods, hb, h⟩
  · rintro ⟨b, k, hb, h⟩
    cases k with
    | fields => exact ⟨b, hb, .inl h⟩
    | methods => exact ⟨b, hb, .inr h⟩

end

/-! ### Files -/

section

variable {l : Lines} {records : List SourceRecord} {r s : SourceRecord}

/-- The edits of one record lie apart if its regions do. -/
theorem record_edits_apart (hb : ∀ b ∈ r.bodies, b.opening < b.closing)
    (hregions : (replacedRegions l r).Pairwise fun p q => p.stop < q.start ∨ q.stop < p.start) :
    (editsOf l r).Pairwise Apart := by
  have hchange := editsOf_change (l := l) hb
  generalize editsOf l r = edits at hchange
  cases hchange with
  | implementation => exact List.pairwise_singleton _ _
  | @regions b e e' hmem hchosen hfields hmethods =>
    refine List.pairwise_pair.2 (hfields.apart hmethods fun pair pair' hpair hpair' => ?_)
    rw [replacedRegions, hchosen, Option.toList_some, List.flatMap_singleton, hpair, hpair'] at hregions
    exact List.pairwise_pair (R := fun p q : MarkedLines => p.stop < q.start ∨ q.stop < p.start).1 hregions

/-- The edits of two records lie apart if their regions do. -/
theorem records_edits_apart (hseparate : Separate l records) (hr : r ∈ records) (hs : s ∈ records)
    (hregions : ∀ p ∈ replacedRegions l r, ∀ q ∈ replacedRegions l s,
      p.stop < q.start ∨ q.stop < p.start) :
    ∀ e ∈ editsOf l r, ∀ e' ∈ editsOf l s, Apart e e' := by
  intro e he e' he'
  rcases mem_editsOf (hseparate.nonempty r hr) he with ⟨text, rfl⟩ | ⟨b, k, hb, hchosen, hchange⟩
  · rcases mem_editsOf (hseparate.nonempty s hs) he' with ⟨text', rfl⟩ | ⟨c, k', hc, hchosen', hchange'⟩
    · exact ⟨Nat.le_total _ _, fun _ => ⟨rfl, rfl⟩⟩
    · have hbounds := hchange'.bounds
      have houtside := hseparate.outside r hr s hs c hc
      constructor <;> simp only [Edit.insert] <;> omega
  · have hbounds := hchange.bounds
    rcases mem_editsOf (hseparate.nonempty s hs) he' with ⟨text', rfl⟩ | ⟨c, k', hc, hchosen', hchange'⟩
    · have houtside := hseparate.outside s hs r hr b hb
      constructor <;> simp only [Edit.insert] <;> omega
    · rcases hseparate.bodies r hr s hs b hb c hc with rfl | hsides
      · refine hchange.apart hchange' fun pair pair' hpair hpair' => hregions pair ?_ pair' ?_
        · exact mem_replacedRegions.2 ⟨b, k, hchosen, hpair⟩
        · exact mem_replacedRegions.2 ⟨b, k', hchosen', hpair'⟩
      · have hbounds' := hchange'.bounds
        constructor <;> omega

/-- The edits of a file lie apart if its regions do. -/
theorem edits_apart (hseparate : Separate l records) (hapart : RegionsApart l records) :
    (records.flatMap (editsOf l)).Pairwise Apart := by
  obtain ⟨hone, htwo⟩ := List.pairwise_flatMap.1 hapart
  refine List.pairwise_flatMap.2 ⟨fun r hr => ?_, htwo.imp_of_mem fun hr hs => ?_⟩
  · exact record_edits_apart (hseparate.nonempty r hr) (hone r hr)
  · exact records_edits_apart hseparate hr hs

/-- No edit ends in front of where it starts. -/
theorem edits_le (hseparate : Separate l records) :
    ∀ e ∈ records.flatMap (editsOf l), e.start ≤ e.stop := by
  intro e he
  obtain ⟨r, hr, he⟩ := List.mem_flatMap.1 he
  rcases mem_editsOf (hseparate.nonempty r hr) he with ⟨text, rfl⟩ | ⟨b, k, -, -, hchange⟩
  · exact Nat.le_refl _
  · exact hchange.bounds.2.1

/-- An edit of a region can be carried out if one can write behind the opening brace. -/
theorem regionEdit_cuts {b : Body} (k : Region) (fields : List DeclaredField)
    (hopens : Cuts (b.opening + 1) l.text) (hcloses : Cuts b.closing l.text) :
    Cuts (regionEdit l b k fields).start l.text ∧ Cuts (regionEdit l b k fields).stop l.text := by
  unfold regionEdit
  split
  · exact ⟨l.cuts_start _, l.cuts_start _⟩
  · split
    · exact ⟨hopens, hopens⟩
    · unfold insertMethods
      split
      · exact ⟨l.cuts_start _, l.cuts_start _⟩
      · exact ⟨hcloses, hcloses⟩

/-- The offsets of the edits of a file lie between characters if one can write behind all opening braces. -/
theorem edits_fit (hseparate : Separate l records)
    (hopens : ∀ r ∈ records, ∀ b ∈ r.bodies, Cuts (b.opening + 1) l.text) :
    ∀ e ∈ records.flatMap (editsOf l), e.Fits l.text := by
  intro e he
  refine ⟨edits_le hseparate e he, ?_⟩
  obtain ⟨r, hr, he⟩ := List.mem_flatMap.1 he
  unfold editsOf at he
  split at he
  · obtain rfl := List.mem_singleton.1 he
    exact ⟨hseparate.cuts_stop r hr, hseparate.cuts_stop r hr⟩
  · rename_i b hchosen
    have hb := chosenBody?_mem hchosen
    have hcuts := fun k => regionEdit_cuts k r.fields (hopens r hr b hb) (hseparate.cuts_closing r hr b hb)
    rcases List.mem_cons.1 he with rfl | he
    · exact hcuts .fields
    · obtain rfl := List.mem_singleton.1 he
      exact hcuts .methods

/-- All edits of a file spare the markers of the regions that are replaced. -/
theorem edits_spare (hseparate : Separate l records) (hapart : RegionsApart l records) :
    ∀ p ∈ records.flatMap (replacedRegions l), ∀ e ∈ records.flatMap (editsOf l),
      e.Spares l p.start ∧ e.Spares l p.stop := by
  intro p hp e he
  obtain ⟨r, hr, hp⟩ := List.mem_flatMap.1 hp
  obtain ⟨s, hs, he⟩ := List.mem_flatMap.1 he
  obtain ⟨b, k, hchosen, hpair⟩ := mem_replacedRegions.1 hp
  have hb := chosenBody?_mem hchosen
  rcases mem_editsOf (hseparate.nonempty s hs) he with ⟨text, rfl⟩ | ⟨c, k', hc, hchosen', hchange⟩
  · exact spares_of_outside hpair (hseparate.outside s hs r hr b hb)
  · rcases hseparate.bodies r hr s hs b hb c hc with rfl | hsides
    · refine hchange.spares hpair fun pair' hpair' => ?_
      have hmem := mem_replacedRegions.2 ⟨b, k', hchosen', hpair'⟩
      have hall := List.Pairwise.forall_of_forall_of_flip
        (R := fun p q : MarkedLines => p = q ∨ p.stop < q.start ∨ q.stop < p.start)
        (fun _ _ => .inl rfl) (hapart.imp fun h => .inr h) (hapart.imp fun h => .inr h.symm)
      exact hall (List.mem_flatMap.2 ⟨r, hr, hp⟩) (List.mem_flatMap.2 ⟨s, hs, hmem⟩)
    · have hbounds := hchange.bounds
      exact spares_of_outside hpair (by omega)

end

/-! ### Rewrites -/

section

variable {text output : List Char} {records : List SourceRecord}

/-- A file with records is rewritten unless this changes nothing. -/
theorem regenerated?_eq (hrecords : sourceRecords? (.ofText text) = some records) :
    regenerated? text = if records = [] then .ok none else
      (updateRegions (.ofText text) records).map fun output =>
        if output = text then none else some output := by
  unfold regenerated? regenerate
  cases records with
  | nil => simp [hrecords, Except.map]
  | cons r rs =>
    rw [if_neg (List.cons_ne_nil r rs)]
    cases hupdate : updateRegions (.ofText text) (r :: rs) with
    | error f => simp [hrecords, hupdate, Except.map]
    | ok output => by_cases hsame : output = text <;> simp [hrecords, hupdate, hsame, Except.map]

/-- Regions are brought up to date by the edits of their records, if all markers have their counterparts. -/
theorem updateRegions_eq_ok : updateRegions (.ofText text) records = .ok output ↔
    anyImbalance? (.ofText text) = none ∧
      applyEdits? (records.flatMap (editsOf (.ofText text))) text = some output := by
  have htext : (Lines.ofText text).text = text := rfl
  rw [updateRegions, htext]
  cases anyImbalance? (.ofText text) with
  | some i => simp
  | none => cases applyEdits? (records.flatMap (editsOf (.ofText text))) text <;> simp

/-- A rewrite is what the edits of the records make of a file. -/
theorem regenerated?_eq_some (hrecords : sourceRecords? (.ofText text) = some records)
    (h : regenerated? text = .ok (some output)) :
    anyImbalance? (.ofText text) = none ∧
      applyEdits? (records.flatMap (editsOf (.ofText text))) text = some output := by
  rw [regenerated?_eq hrecords] at h
  split at h
  · cases h
  · refine updateRegions_eq_ok.1 ?_
    cases hupdate : updateRegions (.ofText text) records with
    | error f => simp [hupdate, Except.map] at h
    | ok updated =>
      simp only [hupdate, Except.map, Except.ok.injEq, Option.ite_none_left_eq_some, Option.some.injEq] at h
      rw [h.2]

/-- Edits of a file that cannot be carried out. -/
theorem applyEdits?_eq_none (hrecords : sourceRecords? (.ofText text) = some records)
    (h : regenerated? text = .error .overlapping) :
    applyEdits? (records.flatMap (editsOf (.ofText text))) text = none := by
  rw [regenerated?_eq hrecords] at h
  split at h
  · cases h
  · unfold updateRegions at h
    split at h
    · cases h
    · split at h
      · cases h
      · assumption

/-- If no two regions that are replaced share a line, a rewrite changes these regions and inserts what is
missing, and leaves everything else as it is, the markers of the regions included. -/
theorem regenerated?_frame (hrecords : sourceRecords? (.ofText text) = some records)
    (hapart : RegionsApart (.ofText text) records) :
    (text.head? ≠ some byteOrderMark → regenerated? text ≠ .error .overlapping) ∧
      ∀ output, regenerated? text = .ok (some output) →
        ∃ parts, textBefore parts = text ∧ textAfter parts = output ∧
          (changes 0 parts).Perm (records.flatMap (editsOf (.ofText text))) ∧
          (∀ r ∈ records, RecordChange (.ofText text) r (editsOf (.ofText text) r)) ∧
          ∀ p ∈ records.flatMap (replacedRegions (.ofText text)), ∀ e ∈ changes 0 parts,
            e.Spares (.ofText text) p.start ∧ e.Spares (.ofText text) p.stop := by
  have hseparate := sourceRecords?_separate hrecords
  have hedits := edits_apart hseparate hapart
  refine ⟨fun hhead herror => ?_, fun output h => ?_⟩
  · have hfit := edits_fit hseparate fun r hr b hb => sourceRecords?_opens hrecords hhead hr hb
    obtain ⟨output, houtput⟩ := applyEdits?_isSome hfit hedits
    exact Option.some_ne_none output (houtput.symm.trans (applyEdits?_eq_none hrecords herror))
  · obtain ⟨parts, hbefore, hafter, hchanges⟩ :=
      applyEdits?_spliced (edits_le hseparate) hedits (regenerated?_eq_some hrecords h).2
    have hperm : (changes 0 parts).Perm (records.flatMap (editsOf (.ofText text))) := by
      rw [hchanges]
      exact (List.reverse_perm _).trans (backToFront_perm _)
    refine ⟨parts, hbefore, hafter, hperm, fun r hr => editsOf_change (hseparate.nonempty r hr), ?_⟩
    exact fun p hp e he => edits_spare hseparate hapart p hp e (hperm.mem_iff.1 he)

end

/-! ### Shelves -/

/-- The declaration of a record with a key field and another one, and the opening of its body. -/
def shelfOpening : String :=
  "#[derive(PersistentRecord)]\nstruct Shelf \x7b #[depot(id)] room: u8, size: u8 \x7d\nimpl Shelf \x7b"

/-- The region with the names of its fields. -/
def shelfNames : String :=
  "    // AUTO-GENERATED: FIELDS START\n    pub const ROOM: &'static str = \"room\";\n" ++
  "    pub const SIZE: &'static str = \"size\";\n\n    pub fn room_c() -> ::depot::ColumnExp \x7b\n" ++
  "        ::depot::ColumnExp::new::<Self>(Self::ROOM)\n    \x7d\n\n" ++
  "    pub fn size_c() -> ::depot::ColumnExp \x7b\n        ::depot::ColumnExp::new::<Self>(Self::SIZE)\n" ++
  "    \x7d\n    // AUTO-GENERATED: FIELDS END\n"

/-- The marker in front of its constructor of keys. -/
def shelfMarker : String := "\n    // AUTO-GENERATED: METHODS START\n"

/-- A stale constructor of keys. -/
def staleKeys : String := "    fn f() \x7b\x7d\n"

/-- The constructor of keys. -/
def shelfKeys : String :=
  "    pub fn get_key(room: u8) -> ::depot::Key \x7b\n" ++
  "        ::depot::Key::new::<Self>(vec![(Self::ROOM, ::depot::Value::from(room))])\n    \x7d\n"

/-- The marker behind it, and the closing of the body. -/
def shelfClosing : String := "    // AUTO-GENERATED: METHODS END\n\x7d\n"

/-- A file with a record of which the constructor of keys is stale. -/
def staleShelf : List Char := (shelfOpening ++ shelfMarker ++ staleKeys ++ shelfClosing).toList

/-- The record of this file. -/
def staleShelfRecord : SourceRecord :=
  ⟨"Shelf", [⟨"room", "u8", true⟩, ⟨"size", "u8", false⟩], 76, [⟨88, 176⟩]⟩

/-- The file with both regions. -/
def freshShelf : List Char :=
  (shelfOpening ++ "\n" ++ shelfNames ++ shelfMarker ++ shelfKeys ++ shelfClosing).toList

set_option maxRecDepth 4000 in
theorem staleShelf_records : sourceRecords? (.ofText staleShelf) = some [staleShelfRecord] := by
  unfold staleShelf shelfOpening shelfMarker staleKeys shelfClosing
  simp only [String.toList_append]
  iterate 4 rewrite [String.toList_ofList]
  decide +kernel

set_option maxRecDepth 4000 in
/-- The names are inserted behind the opening brace, and the constructor is replaced. -/
theorem staleShelf_edits : editsOf (.ofText staleShelf) staleShelfRecord =
    [.insert 89 ("\n" ++ shelfNames).toList, ⟨127, 141, shelfKeys.toList⟩] := by
  have hnames : regionText .fields indentUnit staleShelfRecord.fields = shelfNames := by decide +kernel
  have hkeys : Region.methods.body indentUnit staleShelfRecord.fields = shelfKeys := by decide +kernel
  have hlines : regionIn? (.ofText staleShelf) ⟨88, 176⟩ .fields = none ∧
      regionIn? (.ofText staleShelf) ⟨88, 176⟩ .methods = some ⟨3, 5⟩ ∧
      innerIndent (.ofText staleShelf) ⟨88, 176⟩ = indentUnit ∧ indentOf (.ofText staleShelf) 3 = indentUnit ∧
      (Lines.ofText staleShelf).start 4 = 127 ∧ (Lines.ofText staleShelf).start 5 = 141 := by
    unfold staleShelf shelfOpening shelfMarker staleKeys shelfClosing
    simp only [String.toList_append]
    iterate 4 rewrite [String.toList_ofList]
    decide +kernel
  obtain ⟨hfields, hmethods, hinner, houter, hstart, hstop⟩ := hlines
  have hchosen : chosenBody? (.ofText staleShelf) staleShelfRecord.bodies = some ⟨88, 176⟩ := by
    simp [chosenBody?, staleShelfRecord, hmethods]
  have hinserted : regionEdit (.ofText staleShelf) ⟨88, 176⟩ .fields staleShelfRecord.fields =
      .insert 89 ("\n" ++ shelfNames).toList := by
    rw [regionEdit, hfields, ← hnames, ← hinner]
    rfl
  have hreplaced : regionEdit (.ofText staleShelf) ⟨88, 176⟩ .methods staleShelfRecord.fields =
      ⟨127, 141, shelfKeys.toList⟩ := by
    rw [regionEdit, hmethods, ← hkeys, ← houter, ← hstart, ← hstop]
    rfl
  rw [editsOf, hchosen, ← hinserted, ← hreplaced]

set_option maxRecDepth 4000 in
theorem staleShelf_regenerated : regenerated? staleShelf = .ok (some freshShelf) := by
  have hbalanced : anyImbalance? (.ofText staleShelf) = none := by
    unfold staleShelf shelfOpening shelfMarker staleKeys shelfClosing
    simp only [String.toList_append]
    iterate 4 rewrite [String.toList_ofList]
    decide +kernel
  have hlengths : byteLength shelfOpening.toList = 89 ∧ byteLength shelfMarker.toList = 38 ∧
      byteLength staleKeys.toList = 14 := by
    unfold shelfOpening shelfMarker staleKeys
    iterate 3 rewrite [String.toList_ofList]
    decide +kernel
  obtain ⟨hopening, hmarker, hkeys⟩ := hlengths
  have hreplaced : Edit.replaceIn? ⟨127, 141, shelfKeys.toList⟩ staleShelf =
      some (shelfOpening ++ shelfMarker ++ shelfKeys ++ shelfClosing).toList := by
    refine Edit.replaceIn?_eq_some.2 ⟨(shelfOpening ++ shelfMarker).toList, staleKeys.toList, shelfClosing.toList, ?_⟩
    simp only [staleShelf, String.toList_append, byteLength_append, hopening, hmarker, hkeys, and_self]
  have hinserted : (Edit.insert 89 ("\n" ++ shelfNames).toList).replaceIn?
      (shelfOpening ++ shelfMarker ++ shelfKeys ++ shelfClosing).toList = some freshShelf := by
    refine Edit.replaceIn?_eq_some.2
      ⟨shelfOpening.toList, [], (shelfMarker ++ shelfKeys ++ shelfClosing).toList, ?_⟩
    simp only [freshShelf, Edit.insert, String.toList_append, byteLength_nil, hopening, List.append_nil,
      List.append_assoc, Nat.add_zero, and_self]
  have hedits : applyEdits? (editsOf (.ofText staleShelf) staleShelfRecord) staleShelf = some freshShelf := by
    rw [staleShelf_edits]
    exact applyEdits?_pair (by decide) hreplaced hinserted
  have hchanged : freshShelf ≠ staleShelf := by
    simp only [freshShelf, staleShelf, String.toList_append, List.append_assoc, ne_eq, List.append_cancel_left_eq]
    unfold shelfNames shelfMarker
    simp only [String.toList_append]
    iterate 7 rewrite [String.toList_ofList]
    exact fun h => absurd (congrArg (·[24]?) h) (by decide +kernel)
  rw [regenerated?_eq staleShelf_records, updateRegions_eq_ok.2 ⟨hbalanced, by rwa [List.flatMap_singleton]⟩]
  simp [Except.map, hchanged]

set_option maxRecDepth 4000 in
/-- A stale constructor is replaced, a missing region is inserted, and the rest is kept. -/
theorem staleShelf_frame :
    sourceRecords? (.ofText staleShelf) = some [staleShelfRecord] ∧
      RegionsApart (.ofText staleShelf) [staleShelfRecord] ∧
      regenerated? staleShelf ≠ .error .overlapping ∧ regenerated? staleShelf = .ok (some freshShelf) ∧
      ∃ parts, textBefore parts = staleShelf ∧ textAfter parts = freshShelf ∧
        (changes 0 parts).Perm (editsOf (.ofText staleShelf) staleShelfRecord) := by
  have hapart : RegionsApart (.ofText staleShelf) [staleShelfRecord] := by
    unfold staleShelf shelfOpening shelfMarker staleKeys shelfClosing
    simp only [String.toList_append]
    iterate 4 rewrite [String.toList_ofList]
    decide +kernel
  obtain ⟨hdone, hframe⟩ := regenerated?_frame staleShelf_records hapart
  obtain ⟨parts, hbefore, hafter, hchanges, -⟩ := hframe freshShelf staleShelf_regenerated
  refine ⟨staleShelf_records, hapart, hdone ?_, staleShelf_regenerated, parts, hbefore, hafter,
    by simpa using hchanges⟩
  unfold staleShelf shelfOpening shelfMarker staleKeys shelfClosing
  simp only [String.toList_append]
  iterate 4 rewrite [String.toList_ofList]
  decide

/-- The declarations of one record for two builds, and the beginning of its body. -/
def declaredTwice : List Char :=
  "#[cfg(a)]\n#[derive(PersistentRecord)]\nstruct Shelf \x7b\x7d\n#[cfg(b)]\n".toList ++
  "#[derive(PersistentRecord)]\nstruct Shelf \x7b\x7d\nimpl Shelf \x7b\n".toList ++
  "    // AUTO-GENERATED: FIELDS START\n    // AUTO-GENERATED: FIELDS END\n".toList

/-- A file with two declarations of one record, of which each build has one. -/
def sharedShelf : List Char :=
  declaredTwice ++ "    // AUTO-GENERATED: METHODS START\n    fn f() \x7b\x7d\n".toList ++
  "    // AUTO-GENERATED: METHODS END\n    fn g() \x7b\x7d\n\x7d\n".toList

/-- What is written by hand in this file. -/
def sharedShelfKept : List Char :=
  declaredTwice ++ "    // AUTO-GENERATED: METHODS START\n".toList ++
  "    // AUTO-GENERATED: METHODS END\n    fn g() \x7b\x7d\n\x7d\n".toList

/-- What becomes of this file. -/
def sharedShelfTorn : List Char :=
  declaredTwice ++ "    // AUTO-GENERATED: METHODS START\n".toList ++
  "NERATED: METHODS END\n    fn g() \x7b\x7d\n\x7d\n".toList

set_option maxRecDepth 4000 in
/-- Both declarations replace the constructor of keys. The second one takes text that it does not own: the
marker behind the region loses its beginning. -/
theorem sharedShelf_torn :
    regenerated? sharedShelf = .ok (some sharedShelfTorn) ∧ ¬ sharedShelfKept.Sublist sharedShelfTorn := by
  unfold sharedShelf sharedShelfKept sharedShelfTorn declaredTwice
  iterate 7 rewrite [String.toList_ofList]
  exact ⟨by decide +kernel, fun h => absurd (h.count_le 'U') (by decide +kernel)⟩

end RecordSql.Generate
