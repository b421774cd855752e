import RecordSql.Proofs.Regeneration.Names
import RecordSql.Proofs.Regeneration.Orderly
import RecordSql.Proofs.Regeneration.Windows

/-!
# A rewrite body by body

The edits of a file that can be brought up to date fall into groups: those of one body stand between its braces, and an implementation
is inserted behind a record without one. So a rewrite can be looked at one body at a time.

- `Beginning`: what has been done in front of some place of a file.
- `Beginning.window`: a body is settled if a record has its regions there, and it is kept otherwise.
- `Beginning.insertion`: the implementation of a record without a body.
- `Beginning.openAtEnd_eq`: a rewrite opens and closes regions as the file did.
-/

namespace RecordSql.Generate

open RecordSql.Source RecordSql.Text

/-! ### Edits of a body -/

/-- An edit stands between the braces of a body. -/
def Edit.Within (e : Edit) (b : Body) : Prop := b.opening < e.start ∧ e.stop ≤ b.closing

instance (e : Edit) (b : Body) : Decidable (e.Within b) := inferInstanceAs (Decidable (_ ∧ _))

/-- The edit that inserts an implementation behind a record. -/
def SourceRecord.insertion (r : SourceRecord) : Edit :=
  .insert r.stop ("\n\n" ++ implementationText r.name r.fields).toList

section

variable {text : List Char} {records : List SourceRecord} {r s : SourceRecord} {b c : Body} {e : Edit}

theorem editsOf_chosen {l : Lines} (hchosen : chosenBody? l r.bodies = some b) :
    editsOf l r = [regionEdit l b .fields r.fields, regionEdit l b .methods r.fields] := by
  rw [editsOf, hchosen]

theorem editsOf_bodiless {l : Lines} (hnone : r.bodies = []) : editsOf l r = [r.insertion] := by
  rw [editsOf, hnone]
  rfl

namespace Writable

variable (h : Writable text records)

include h

theorem within_chosen (hr : r ∈ records) (hchosen : chosenBody? (.ofText text) r.bodies = some b)
    (he : e ∈ editsOf (.ofText text) r) : e.Within b ∧ e.start ≤ e.stop := by
  have hlt := (sourceRecords?_separate h.read).nonempty r hr b (chosenBody?_mem hchosen)
  have hbounds := fun k => (regionEdit_change (l := .ofText text) hlt k r.fields).bounds
  rw [editsOf_chosen hchosen] at he
  rcases List.mem_pair.1 he with rfl | rfl
  · exact ⟨⟨(hbounds .fields).1, (hbounds .fields).2.2⟩, (hbounds .fields).2.1⟩
  · exact ⟨⟨(hbounds .methods).1, (hbounds .methods).2.2⟩, (hbounds .methods).2.1⟩

/-- Two bodies are one body of one record, or they lie apart. -/
theorem bodies_apart (hr : r ∈ records) (hs : s ∈ records) (hb : b ∈ r.bodies) (hc : c ∈ s.bodies) :
    b = c ∧ r = s ∨ b.closing < c.opening ∨ c.closing < b.opening := by
  rcases (sourceRecords?_separate h.read).bodies r hr s hs b hb c hc with rfl | hapart
  · refine .inl ⟨rfl, ?_⟩
    have hall := List.Pairwise.forall_of_forall_of_flip
      (R := fun r s : SourceRecord => r = s ∨ ∀ b ∈ r.bodies, b ∉ s.bodies) (fun _ _ => .inl rfl)
      (h.unshared.imp fun hrs => .inr hrs) (h.unshared.imp fun hrs => .inr fun b hs hr => hrs b hr hs)
    exact (hall hr hs).resolve_right fun hnot => hnot b hb hc
  · exact .inr hapart

/-- Records end at different places. -/
theorem eq_of_stop (hr : r ∈ records) (hs : s ∈ records) (hstop : r.stop = s.stop) : r = s := by
  have hstops := (sourceRecords?_separate h.read).stops
  have hall := List.Pairwise.forall_of_forall_of_flip
    (R := fun r s : SourceRecord => r = s ∨ r.stop ≠ s.stop) (fun _ _ => .inl rfl)
    (hstops.imp fun hlt => .inr (Nat.ne_of_lt hlt)) (hstops.imp fun hlt => .inr (Nat.ne_of_gt hlt))
  exact (hall hr hs).resolve_right fun hne => hne hstop

/-- An edit of a record inserts its implementation, or it stands within the body in which regions are written. -/
theorem edit_cases (hr : r ∈ records) (he : e ∈ editsOf (.ofText text) r) :
    (r.bodies = [] ∧ e = r.insertion) ∨
      ∃ b ∈ r.bodies, chosenBody? (.ofText text) r.bodies = some b ∧ e.Within b ∧ e.start ≤ e.stop := by
  cases hchosen : chosenBody? (.ofText text) r.bodies with
  | none =>
    have hnone := chosenBody?_eq_none hchosen
    rw [editsOf_bodiless hnone] at he
    exact .inl ⟨hnone, List.mem_singleton.1 he⟩
  | some b => exact .inr ⟨b, chosenBody?_mem hchosen, rfl, h.within_chosen hr hchosen he⟩

/-- Every edit stands in front of a body, within it or behind it. -/
theorem edit_sides (he : e ∈ records.flatMap (editsOf (.ofText text))) (hr : r ∈ records) (hb : b ∈ r.bodies) :
    e.stop ≤ b.opening ∨ e.Within b ∨ b.closing < e.start := by
  obtain ⟨s, hs, he⟩ := List.mem_flatMap.1 he
  rcases h.edit_cases hs he with ⟨-, rfl⟩ | ⟨c, hc, -, ⟨hopening, hclosing⟩, -⟩
  · rcases (sourceRecords?_separate h.read).outside s hs r hr b hb with hfront | hbehind
    · exact .inl hfront
    · exact .inr (.inr hbehind)
  · rcases h.bodies_apart hr hs hb hc with ⟨rfl, -⟩ | hapart | hapart
    · exact .inr (.inl ⟨hopening, hclosing⟩)
    · exact .inr (.inr (Nat.lt_trans hapart hopening))
    · exact .inl (Nat.le_trans hclosing (Nat.le_of_lt hapart))

/-- An edit within a body is one of its record. -/
theorem edit_owner (hr : r ∈ records) (hb : b ∈ r.bodies) (hs : s ∈ records) (he : e ∈ editsOf (.ofText text) s)
    (hwithin : e.Within b) : s = r ∧ chosenBody? (.ofText text) r.bodies = some b := by
  obtain ⟨hopening, hclosing⟩ := hwithin
  rcases h.edit_cases hs he with ⟨-, rfl⟩ | ⟨c, hc, hchosen, ⟨hopening', hclosing'⟩, hle⟩
  · have houtside := (sourceRecords?_separate h.read).outside s hs r hr b hb
    simp only [SourceRecord.insertion, Edit.insert] at hopening hclosing
    omega
  · rcases h.bodies_apart hr hs hb hc with ⟨rfl, rfl⟩ | hapart
    · exact ⟨rfl, hchosen⟩
    · omega

/-- The edits within a body are those of its record, if it is the body in which regions are written. -/
theorem edits_within (hr : r ∈ records) (hb : b ∈ r.bodies) :
    (records.flatMap (editsOf (.ofText text))).filter (fun e => e.Within b) =
      if chosenBody? (.ofText text) r.bodies = some b then editsOf (.ofText text) r else [] := by
  have hown : (editsOf (.ofText text) r).filter (fun e => e.Within b) =
      if chosenBody? (.ofText text) r.bodies = some b then editsOf (.ofText text) r else [] := by
    split
    · rename_i hchosen
      exact List.filter_eq_self.2 fun e he => decide_eq_true (h.within_chosen hr hchosen he).1
    · rename_i hchosen
      refine List.filter_eq_nil_iff.2 fun e he hwithin => hchosen ?_
      exact (h.edit_owner hr hb hr he (of_decide_eq_true hwithin)).2
  have hstops := (sourceRecords?_separate h.read).stops
  obtain ⟨earlier, later, hsplit⟩ := List.append_of_mem hr
  have hothers : ∀ rs : List SourceRecord, (∀ s ∈ rs, s ∈ records ∧ s ≠ r) →
      (rs.flatMap (editsOf (.ofText text))).filter (fun e => e.Within b) = [] := by
    intro rs hrs
    refine List.filter_eq_nil_iff.2 fun e he hwithin => ?_
    obtain ⟨s, hs, he⟩ := List.mem_flatMap.1 he
    exact (hrs s hs).2 (h.edit_owner hr hb (hrs s hs).1 he (of_decide_eq_true hwithin)).1
  rw [hsplit] at hstops
  obtain ⟨-, hbehind, hfront⟩ := List.pairwise_append.1 hstops
  have hearlier := hothers earlier fun s hs =>
    ⟨hsplit ▸ List.mem_append_left _ hs, fun heq => absurd (hfront s hs r List.mem_cons_self) (by rw [heq]; omega)⟩
  have hlater := hothers later fun s hs =>
    ⟨hsplit ▸ List.mem_append_right _ (List.mem_cons_of_mem _ hs),
      fun heq => absurd ((List.pairwise_cons.1 hbehind).1 s hs) (by rw [heq]; omega)⟩
  rw [hsplit, List.flatMap_append, List.flatMap_cons, List.filter_append, List.filter_append, hearlier, hlater, hown,
    List.nil_append, List.append_nil]

end Writable

end

/-! ### What is written -/

section

variable {text front inner inner' back : List Char} {b : Body} {fields : List DeclaredField} {r : SourceRecord}
  {ms : List Part}

/-- The changes in a body settle its rows if they are its two edits. -/
theorem Encloses.settled (h : Encloses text b front inner back) (hfields : ∀ f ∈ fields, f.Inline)
    (hready : Ready (rows inner)) (hms : textBefore ms = inner)
    (hchanges : changes (b.opening + 1) ms = (backToFront [regionEdit (.ofText text) b .fields fields,
      regionEdit (.ofText text) b .methods fields]).reverse) : Settled fields (rows inner) (rows (textAfter ms)) := by
  obtain ⟨inner', hsettled, happly⟩ := h.body_settled hfields hready
  have hrun := replaceAll?_changes ms (front ++ ['\x7b']) ('\x7d' :: back)
  rw [h.byteLength_opening, hchanges, List.reverse_reverse, List.append_assoc, List.append_assoc, hms] at hrun
  have hboth := Option.some_inj.1 (hrun.symm.trans (happly back))
  have hafter : textAfter ms ++ '\x7d' :: back = inner' ++ '\x7d' :: back := by
    simpa using hboth
  have hinner := List.append_cancel_right hafter
  rwa [hinner]

/-- An implementation is written with both regions up to date. -/
theorem SourceRecord.Inline.implementation (hr : r.Inline) :
    ∃ inner, (implementationText r.name r.fields).toList =
        ("impl " ++ r.name ++ " ").toList ++ '\x7b' :: (inner ++ ['\x7d']) ∧
      (∀ k, Current k r.fields (rows inner)) ∧ ∀ k, sides k (between (rows inner)) = [.start, .stop] := by
  have hunit : IsIndent indentUnit := by
    have hblanks : indentUnit.toList = List.replicate 4 ' ' := rfl
    refine ⟨fun c hc => ?_, by rw [hblanks]; decide⟩
    rw [hblanks] at hc
    rw [List.eq_of_mem_replicate hc]
    rfl
  obtain ⟨opening, contents, closing, hfields, htext⟩ := regionText_fresh .fields hunit hr.fields
  obtain ⟨opening', contents', closing', hmethods, htext'⟩ := regionText_fresh .methods hunit hr.fields
  let upper := opening :: (contents ++ [closing])
  let lower := opening' :: (contents' ++ [closing'])
  have hrows : rows ('\n' :: wholeLines upper ++ '\n' :: wholeLines lower) = [] :: (upper ++ [] :: (lower ++ [[]])) := by
    have hinline : ∀ row ∈ [] :: (upper ++ [] :: lower), '\n' ∉ row := by
      refine List.forall_mem_cons.2 ⟨List.not_mem_nil, List.forall_mem_append.2 ⟨hfields.inline, ?_⟩⟩
      exact List.forall_mem_cons.2 ⟨List.not_mem_nil, hmethods.inline⟩
    simpa using rows_wholeLines_last hinline List.not_mem_nil
  refine ⟨'\n' :: wholeLines upper ++ '\n' :: wholeLines lower, ?_, fun k => ?_, fun k => ?_⟩
  · have hfeed : "\n".toList = ['\n'] := rfl
    have hopen : " \x7b\n".toList = [' ', '\x7b', '\n'] := rfl
    have hclose : "\x7d".toList = ['\x7d'] := rfl
    have hblank : " ".toList = [' '] := rfl
    simp only [implementationText, String.toList_append, htext, htext', hfeed, hopen, hclose, hblank]
    simp [upper, lower]
  · rw [hrows]
    cases k with
    | fields => exact hfields.current_front (List.cons_ne_nil _ _) []
    | methods =>
      have hlower : Current .methods r.fields ([] :: (lower ++ [[]])) :=
        hmethods.current_front (List.cons_ne_nil _ _) []
      refine hlower.insert_front (hfields.not_start nofun) (fun row hrow => ?_) []
      obtain rfl := Option.some_inj.1 hrow
      rw [sideOf?_blank (List.forall_mem_nil _)]
      nofun
  · have hbetween : between ([] :: (upper ++ [] :: (lower ++ [[]]))) = upper ++ [] :: lower := by
      have hsplit : upper ++ [] :: (lower ++ [[]]) = (upper ++ [] :: lower) ++ [[]] := by simp
      rw [hsplit, between_cons_concat]
    rw [hrows, hbetween, sides_append, sides_cons_none (sideOf?_blank (List.forall_mem_nil _) k)]
    cases k with
    | fields =>
      have hother : sides .fields lower = [] := hmethods.sides_other nofun
      rw [hother, List.append_nil]
      exact hfields.sides_self
    | methods =>
      have hother : sides .methods upper = [] := hfields.sides_other nofun
      rw [hother, List.nil_append]
      exact hmethods.sides_self

end

/-! ### Regions that are open -/

/-- Whether a region is open at the end of a text; nothing if its markers do not alternate. -/
def openAtEnd (k : Region) (text : List Char) : Option Bool := runSides false (sides k (rows text))

section

variable {text front inner inner' back : List Char} {b : Body} {fields : List DeclaredField} {r : SourceRecord}
  {records : List SourceRecord}

/-- A body that is settled opens and closes regions as it did, whatever stands behind it. -/
theorem Encloses.openAtEnd_settled (h : Encloses text b front inner back) (htidy : Tidy (.ofText text) b)
    (hsettled : Settled fields (rows inner) (rows inner')) (k : Region) (later : List Char) :
    openAtEnd k (front ++ '\x7b' :: (inner' ++ '\x7d' :: later)) =
      openAtEnd k (front ++ '\x7b' :: (inner ++ '\x7d' :: later)) := by
  obtain ⟨earlier, row, hfront⟩ := exists_lastRow front
  obtain ⟨row', more, hlater⟩ := exists_firstRow later
  have hsides : ∀ inner, sides k (rows (front ++ '\x7b' :: (inner ++ '\x7d' :: later))) =
      sides k earlier ++ (sides k (between (rows inner)) ++ sides k more) := fun inner =>
    (⟨rfl, rfl, rfl⟩ : Encloses _ ⟨byteLength front, byteLength front + 1 + byteLength inner⟩
      front inner later).sides_text hfront hlater k
  rw [openAtEnd, openAtEnd, hsides, hsides]
  have hclean := h.clean htidy
  by_cases hfound : Found k (rows inner)
  · rw [(hsettled.kept k hfound).same hclean]
  · have hmissing := h.regionIn?_of_missing hfound
    cases k with
    | fields =>
      have hclosed := closedBefore_iff.1 (htidy.fields hmissing)
      rw [h.opening_eq, Lines.take_lineOf _ h.text_eq hfront] at hclosed
      rw [(hsettled.prepended hfound).same hclean, List.append_assoc, ← List.append_assoc, runSides_insert hclosed]
    | methods =>
      have hclosed := closedBefore_iff.1 (htidy.methods hmissing)
      rw [show (Lines.ofText text).text = text from rfl, h.sides_beforeClosing hfront] at hclosed
      rw [(hsettled.appended hfound).same hclean, List.append_assoc, ← List.append_assoc, ← List.append_assoc,
        runSides_insert hclosed, List.append_assoc]

/-- So does an implementation that is inserted behind a record. -/
theorem Orderly.openAtEnd_insertion (h : Orderly text records) (hr : r ∈ records) (hnone : r.bodies = [])
    (htext : text = front ++ back) (hstop : r.stop = byteLength front) (k : Region) (later : List Char) :
    openAtEnd k (front ++ (r.insertion.text ++ later)) = openAtEnd k (front ++ later) := by
  obtain ⟨front₀, back₀, htext₀, hstop₀⟩ := sourceRecords?_stop h.read h.head hr
  obtain ⟨rfl, rfl⟩ : front = front₀ ++ ['\x7d'] ∧ back = back₀ := by
    refine eq_of_byteLength_eq ?_ ?_
    · rw [← htext, htext₀, List.append_cons]
    · rw [← hstop, hstop₀, byteLength_append]
      rfl
  obtain ⟨earlier, row, hfront₀⟩ := exists_lastRow front₀
  have hfront : rows (front₀ ++ ['\x7d']) = earlier ++ [row ++ ['\x7d']] :=
    rows_append hfront₀ (rows_of_notMem (by decide))
  obtain ⟨row', more, hlater⟩ := exists_firstRow later
  obtain ⟨inner, himplementation, -, hinner⟩ := (sourceRecords?_inline h.read r hr).implementation
  generalize hlead : ("impl " ++ r.name ++ " ").toList = lead at himplementation
  have hinline : '\n' ∉ lead :=
    hlead ▸ inline_append (inline_append (by decide) (sourceRecords?_inline h.read r hr).name) (by decide)
  have hbefore : rows (front₀ ++ ['\x7d'] ++ '\n' :: '\n' :: lead) =
      (earlier ++ [row ++ ['\x7d'], []]) ++ [lead] := by
    have hfeed : rows ('\n' :: lead) = [] :: rows lead := rows_append_feed [] lead
    rw [rows_append_feed, hfront, hfeed, rows_of_notMem hinline]
    simp
  have hafter : front₀ ++ ['\x7d'] ++ (r.insertion.text ++ later) =
      (front₀ ++ ['\x7d'] ++ '\n' :: '\n' :: lead) ++ '\x7b' :: (inner ++ '\x7d' :: later) := by
    have hfeeds : "\n\n".toList = ['\n', '\n'] := rfl
    simp [SourceRecord.insertion, Edit.insert, himplementation, hfeeds]
  have hbody : Encloses ((front₀ ++ ['\x7d'] ++ '\n' :: '\n' :: lead) ++ '\x7b' :: (inner ++ '\x7d' :: later))
      ⟨_, _⟩ _ inner later := ⟨rfl, rfl, rfl⟩
  have hbrace : sides k [row ++ ['\x7d'], []] = [] := sides_eq_nil fun row hrow => by
    rcases List.mem_pair.1 hrow with rfl | rfl
    · exact sideOf?_brace (.inr (by simp)) k
    · exact sideOf?_blank (List.forall_mem_nil _) k
  have hclosed := closedBefore_iff.1 (h.closed r hr hnone k)
  rw [hstop, Lines.take_lineOf _ htext hfront] at hclosed
  rw [openAtEnd, openAtEnd, hafter, hbody.sides_text hbefore hlater k, hinner k, rows_append hfront hlater,
    sides_append, hbrace, List.append_nil, ← List.append_assoc, runSides_insert hclosed, sides_append,
    sides_cons_none (sideOf?_brace (.inr (by simp)) k)]

end

/-! ### The beginning of a rewrite -/

/-- Some parts are what has been done in front of some place of a file outside of all bodies. -/
structure Beginning (text : List Char) (records : List SourceRecord) (ps : List Part) : Prop where
  front : ∃ back, text = textBefore ps ++ back
  outside : ∀ r ∈ records, ∀ b ∈ r.bodies,
    byteLength (textBefore ps) ≤ b.opening ∨ b.closing < byteLength (textBefore ps)
  edits : ∃ later, (backToFront (records.flatMap (editsOf (.ofText text)))).reverse = changes 0 ps ++ later ∧
    ∀ e ∈ later, byteLength (textBefore ps) ≤ e.start

/-- Some changes are undone that open and close regions as the file did there. -/
structure Undone (text : List Char) (records : List SourceRecord) (ps qs : List Part) : Prop where
  beginning : Beginning text records qs
  fewer : (changes 0 qs).length < (changes 0 ps).length
  regions : ∃ more more', textBefore ps = textBefore qs ++ more ∧ textAfter ps = textAfter qs ++ more' ∧
    ∀ k later, openAtEnd k (textBefore qs ++ (more' ++ later)) = openAtEnd k (textBefore qs ++ (more ++ later))

/-- Parts fall into those in front of a body, those between its braces, and those behind it. -/
structure Window (b : Body) (ps qs ms rest : List Part) : Prop where
  before : textBefore ps = textBefore qs ++ '\x7b' :: (textBefore ms ++ '\x7d' :: textBefore rest)
  after : textAfter ps = textAfter qs ++ '\x7b' :: (textAfter ms ++ '\x7d' :: textAfter rest)
  changes : changes 0 ps = changes 0 qs ++ (changes (b.opening + 1) ms ++ changes (b.closing + 1) rest)

namespace Beginning

variable {text front inner back : List Char} {records : List SourceRecord} {r : SourceRecord} {b : Body} {e : Edit}
  {ps qs : List Part}

theorem mem (w : Beginning text records ps) (he : e ∈ changes 0 ps) :
    e ∈ records.flatMap (editsOf (.ofText text)) := by
  obtain ⟨later, hedits, -⟩ := w.edits
  have hmem := hedits.symm ▸ List.mem_append_left later he
  exact (backToFront_perm _).mem_iff.1 (List.mem_reverse.1 hmem)

/-- What has been done further in front. -/
theorem of_append (w : Beginning text records ps) {rest : List Char} {later : List Edit}
    (hbefore : textBefore ps = textBefore qs ++ rest) (hchanges : changes 0 ps = changes 0 qs ++ later)
    (hlater : ∀ e ∈ later, byteLength (textBefore qs) ≤ e.start)
    (houtside : ∀ r ∈ records, ∀ b ∈ r.bodies,
      byteLength (textBefore qs) ≤ b.opening ∨ b.closing < byteLength (textBefore qs)) :
    Beginning text records qs := by
  obtain ⟨back, hback⟩ := w.front
  obtain ⟨more, hedits, hmore⟩ := w.edits
  refine ⟨⟨rest ++ back, by rw [hback, hbefore, List.append_assoc]⟩, houtside, later ++ more, ?_, ?_⟩
  · rw [hedits, hchanges, List.append_assoc]
  · refine List.forall_mem_append.2 ⟨hlater, fun e he => Nat.le_trans ?_ (hmore e he)⟩
    rw [hbefore]
    exact byteLength_le_of_front (List.prefix_append _ _)

/-- Of all edits, those within a body are the changes between its braces. -/
theorem changes_within (w : Beginning text records ps) (h : Writable text records) (hr : r ∈ records)
    (hb : b ∈ r.bodies) (hbody : Encloses text b front inner back) {ms more : List Part}
    (hqs : textBefore qs = front) (hms : textBefore ms = inner)
    (hchanges : changes 0 ps = changes 0 qs ++ changes (b.opening + 1) ms ++ changes b.closing more)
    (hbehind : ∀ e ∈ changes b.closing more, b.closing < e.start)
    (hin : b.closing < byteLength (textBefore ps)) :
    changes (b.opening + 1) ms = (backToFront
      (if chosenBody? (.ofText text) r.bodies = some b then editsOf (.ofText text) r else [])).reverse := by
  obtain ⟨later, hedits, hlater⟩ := w.edits
  have hnone : ∀ es : List Edit, (∀ e ∈ es, e.start ≤ e.stop ∧ (e.stop ≤ b.opening ∨ b.closing < e.start)) →
      es.filter (fun e => e.Within b) = [] := fun es hes => List.filter_eq_nil_iff.2 fun e he hwithin => by
    obtain ⟨hopening, hclosing⟩ := of_decide_eq_true hwithin
    have := hes e he
    omega
  have hfront := hnone (changes 0 qs) fun e he => by
    have := changes_bounds he
    rw [hqs, ← hbody.opening_eq] at this
    omega
  have hmiddle : (changes (b.opening + 1) ms).filter (fun e => e.Within b) = changes (b.opening + 1) ms :=
    List.filter_eq_self.2 fun e he => by
      have := changes_bounds he
      have hlength := hbody.closing_eq
      rw [← hbody.opening_eq] at hlength
      rw [hms] at this
      exact decide_eq_true ⟨by omega, by omega⟩
  have hback := hnone (changes b.closing more) fun e he => ⟨(changes_bounds he).2.1, .inr (hbehind e he)⟩
  have hrest := hnone later fun e he => by
    have hmem : e ∈ records.flatMap (editsOf (.ofText text)) :=
      (backToFront_perm _).mem_iff.1 (List.mem_reverse.1 (hedits ▸ List.mem_append_right _ he))
    have hle := edits_le (sourceRecords?_separate h.read) e hmem
    have := hlater e he
    omega
  have hall := congrArg (List.filter fun e => e.Within b) hedits
  rw [hchanges, List.filter_append, List.filter_append, List.filter_append, hfront, hmiddle, hback, hrest,
    List.nil_append, List.append_nil, List.append_nil, List.filter_reverse, backToFront_filter,
    h.edits_within hr hb] at hall
  exact hall.symm

/-- What becomes of a body. -/
theorem window (w : Beginning text records ps) (h : Writable text records) (hr : r ∈ records) (hb : b ∈ r.bodies)
    (hbody : Encloses text b front inner back) (hin : b.closing < byteLength (textBefore ps)) :
    ∃ qs ms rest, textBefore qs = front ∧ textBefore ms = inner ∧ Window b ps qs ms rest ∧
      (chosenBody? (.ofText text) r.bodies = some b → Settled r.fields (rows inner) (rows (textAfter ms))) ∧
      (chosenBody? (.ofText text) r.bodies ≠ some b → textAfter ms = inner) := by
  have hone : byteLength ['\x7d'] = 1 := rfl
  obtain ⟨rest', htext⟩ := w.front
  have hsplit : ((front ++ '\x7b' :: inner) ++ ['\x7d']) ++ back = textBefore ps ++ rest' := by
    rw [← htext, hbody.text_eq]
    simp
  obtain ⟨rest, hrest⟩ := prefix_of_byteLength_le hsplit
    (by rw [byteLength_append, hbody.byteLength_inner, hone]; omega)
  have hbefore : textBefore ps = front ++ '\x7b' :: (inner ++ '\x7d' :: rest) := by
    rw [← hrest]
    simp
  have hcut : ∀ e ∈ changes 0 ps, e.stop ≤ byteLength front ∨
      (byteLength (front ++ ['\x7b']) ≤ e.start ∧ e.stop ≤ byteLength (front ++ '\x7b' :: inner)) ∨
      byteLength (front ++ '\x7b' :: inner) < e.start := by
    rw [hbody.byteLength_opening, hbody.byteLength_inner, ← hbody.opening_eq]
    exact fun e he => h.edit_sides (w.mem he) hr hb
  obtain ⟨qs, ms, more, hqs, hms, hmore, hafter, hchanges, hbehind⟩ := exists_window hbefore hcut
  rw [hbody.byteLength_opening, hbody.byteLength_inner] at hchanges
  rw [hbody.byteLength_inner] at hbehind
  obtain ⟨rest₁, hrest₁, hafter₁, hchanges₁⟩ := exists_kept (n := b.closing)
    (show textBefore more = ['\x7d'] ++ rest from hmore) fun e he => by rw [hone]; exact hbehind e he
  have hfilter := w.changes_within h hr hb hbody hqs hms hchanges hbehind hin
  refine ⟨qs, ms, rest₁, hqs, hms, ⟨?_, ?_, ?_⟩, fun hchosen => ?_, fun hnot => ?_⟩
  · rw [hbefore, hqs, hms, hrest₁]
  · rw [hafter, hafter₁]
    rfl
  · rw [hchanges, hchanges₁, hone, List.append_assoc]
  · rw [if_pos hchosen, editsOf_chosen hchosen] at hfilter
    exact hbody.settled (sourceRecords?_inline h.read r hr).fields (h.ready hr hchosen hbody) hms hfilter
  · rw [if_neg hnot] at hfilter
    rw [textAfter_eq hfilter, hms]

/-- What becomes of the place behind a record without a body. -/
theorem insertion (w : Beginning text records ps) (h : Writable text records) (hr : r ∈ records)
    (he : r.insertion ∈ changes 0 ps) :
    ∃ qs rest, byteLength (textBefore qs) = r.stop ∧ textBefore ps = textBefore qs ++ textBefore rest ∧
      textAfter ps = textAfter qs ++ (r.insertion.text ++ textAfter rest) ∧
      changes 0 ps = changes 0 qs ++ r.insertion :: changes r.stop rest ∧
      ∀ e ∈ changes r.stop rest, r.stop < e.stop := by
  have hseparate := sourceRecords?_separate h.read
  obtain ⟨back, htext⟩ := w.front
  obtain ⟨front₀, back₀, htext₀, hstop₀⟩ := sourceRecords?_stop h.read h.head hr
  have hlength : byteLength (front₀ ++ ['\x7d']) = r.stop := by
    rw [byteLength_append, hstop₀]
    rfl
  have hsplit : (front₀ ++ ['\x7d']) ++ back₀ = textBefore ps ++ back := by
    rw [← htext, htext₀]
    simp
  have hwithin := changes_bounds he
  simp only [SourceRecord.insertion, Edit.insert] at hwithin
  obtain ⟨rest₀, hrest⟩ := prefix_of_byteLength_le hsplit (by omega)
  have hbounds : ∀ e ∈ changes 0 ps, e = r.insertion ∨ e.stop < r.stop ∨ r.stop < e.stop ∧ r.stop ≤ e.start := by
    intro e he
    obtain ⟨s, hs, he⟩ := List.mem_flatMap.1 (w.mem he)
    rcases h.edit_cases hs he with ⟨-, rfl⟩ | ⟨c, hc, -, ⟨hopening, hclosing⟩, hle⟩
    · rcases Nat.lt_trichotomy s.stop r.stop with hlt | heq | hgt
      · exact .inr (.inl hlt)
      · exact .inl (congrArg SourceRecord.insertion (h.eq_of_stop hs hr heq))
      · exact .inr (.inr ⟨hgt, Nat.le_of_lt hgt⟩)
    · have houtside := hseparate.outside r hr s hs c hc
      omega
  obtain ⟨qs, rest, hqs, hrest₁, hafter, hchanges, hbehind⟩ := exists_split (n := 0) hrest.symm fun e he => by
    have := hbounds e he
    rcases this with rfl | this
    · exact .inl (by simp only [SourceRecord.insertion, Edit.insert]; omega)
    · omega
  rw [Nat.zero_add, hlength] at hchanges hbehind
  have hfront : r.insertion ∈ changes 0 qs := by
    rw [hchanges] at he
    exact (List.mem_append.1 he).resolve_right fun hmem => Nat.lt_irrefl _ (hbehind _ hmem)
  obtain ⟨qs', hqs', hafter', hchanges'⟩ := exists_insertion hfront (by rw [hqs, hlength, Nat.zero_add]; rfl)
    fun d hd => by
      have hstop := (changes_bounds hd).2.2
      rw [hqs, hlength] at hstop
      rcases hbounds d (hchanges ▸ List.mem_append_left _ hd) with rfl | hlt | hgt
      · exact .inl rfl
      · exact .inr hlt
      · omega
  refine ⟨qs', rest, by rw [hqs', hqs, hlength], by rw [hqs', hqs, hrest₁, hrest], ?_, ?_, hbehind⟩
  · rw [hafter, hafter', List.append_assoc]
  · rw [hchanges, hchanges', List.append_assoc]
    rfl

theorem eq_nil_of_last {earlier es ds : List Edit} (h : earlier ++ [e] = es ++ ds) (he : e ∉ ds) : ds = [] := by
  rcases List.eq_nil_or_concat' ds with rfl | ⟨ds, d, rfl⟩
  · rfl
  · rw [← List.append_assoc] at h
    obtain ⟨-, hlast⟩ := List.append_inj' h rfl
    exact absurd (List.mem_append_right ds (hlast ▸ List.mem_cons_self)) he

/-- The last change is undone if it inserts an implementation. -/
theorem undo_insertion (w : Beginning text records ps) (h : Orderly text records) (hr : r ∈ records)
    (hnone : r.bodies = []) {earlier : List Edit} (hlast : changes 0 ps = earlier ++ [r.insertion]) :
    ∃ qs, Undone text records ps qs := by
  have he : r.insertion ∈ changes 0 ps := hlast ▸ List.mem_append_right _ List.mem_cons_self
  obtain ⟨back, htext⟩ := w.front
  obtain ⟨qs, rest, hqs, hbefore, hafter, hchanges, hbehind⟩ := w.insertion h.writable hr he
  have hrest : changes r.stop rest = [] := by
    rw [hlast, List.append_cons (changes 0 qs)] at hchanges
    exact eq_nil_of_last hchanges fun hmem => Nat.lt_irrefl r.stop (hbehind r.insertion hmem)
  rw [hrest] at hchanges
  refine ⟨qs, w.of_append hbefore hchanges (List.forall_mem_singleton.2 (Nat.le_of_eq hqs)) ?_, ?_,
    textBefore rest, r.insertion.text ++ textBefore rest, hbefore, ?_, fun k later => ?_⟩
  · rw [hqs]
    exact (sourceRecords?_separate h.read).outside r hr
  · rw [hchanges, List.length_append]
    exact Nat.lt_add_one _
  · rw [hafter, textAfter_eq hrest]
  · rw [List.append_assoc]
    exact h.openAtEnd_insertion hr hnone (htext.trans (by rw [hbefore, List.append_assoc])) hqs.symm k _

/-- The last changes are undone if they stand within a body. -/
theorem undo_window (w : Beginning text records ps) (h : Orderly text records) (hr : r ∈ records)
    (hb : b ∈ r.bodies) (hchosen : chosenBody? (.ofText text) r.bodies = some b) (hwithin : e.Within b)
    {earlier : List Edit} (hlast : changes 0 ps = earlier ++ [e]) : ∃ qs, Undone text records ps qs := by
  have he : e ∈ changes 0 ps := hlast ▸ List.mem_append_right _ List.mem_cons_self
  obtain ⟨hopening, hclosing⟩ := hwithin
  have hend := changes_bounds he
  obtain ⟨front, inner, behind, hbody⟩ := h.writable.encloses hr hb
  obtain ⟨qs, ms, rest, hqs, hms, hwindow, hsettled, -⟩ :=
    w.window h.writable hr hb hbody ((w.outside r hr b hb).resolve_left (by omega))
  have hchanges := hwindow.changes
  have hrest : changes (b.closing + 1) rest = [] := by
    rw [hlast, ← List.append_assoc] at hchanges
    refine eq_nil_of_last hchanges fun hmem => ?_
    have := changes_bounds hmem
    omega
  have hfront : byteLength (textBefore qs) = b.opening := by rw [hqs, hbody.opening_eq]
  rw [hrest, List.append_nil] at hchanges
  refine ⟨qs, w.of_append hwindow.before hchanges (fun d hd => ?_) (fun s hs c hc => ?_), ?_,
    '\x7b' :: (inner ++ '\x7d' :: textBefore rest), '\x7b' :: (textAfter ms ++ '\x7d' :: textBefore rest), ?_, ?_,
    fun k later => ?_⟩
  · have := changes_bounds hd
    omega
  · rw [hfront]
    rcases h.writable.bodies_apart hr hs hb hc with ⟨rfl, -⟩ | hapart | hapart
    · exact .inl (Nat.le_refl _)
    · omega
    · exact .inr hapart
  · have hmiddle : e ∈ changes (b.opening + 1) ms := by
      rw [hchanges] at he
      refine (List.mem_append.1 he).resolve_left fun hmem => ?_
      have := changes_bounds hmem
      omega
    rw [hchanges, List.length_append]
    exact Nat.lt_add_of_pos_right (List.length_pos_of_mem hmiddle)
  · rw [hwindow.before, hms]
  · rw [hwindow.after, textAfter_eq hrest]
  · have hsame := hbody.openAtEnd_settled (h.tidy r hr b hchosen) (hsettled hchosen) k (textBefore rest ++ later)
    rw [hqs]
    simpa using hsame

/-- A rewrite opens and closes regions as the file did, whatever stands behind it. The induction is on the changes;
the last ones are undone first, so that they stand behind the file as it was. -/
theorem openAtEnd_eq (w : Beginning text records ps) (h : Orderly text records) (k : Region) (later : List Char) :
    openAtEnd k (textAfter ps ++ later) = openAtEnd k (textBefore ps ++ later) := by
  induction hn : (changes 0 ps).length using Nat.strong_induction_on generalizing ps later with
  | _ n ih =>
    rcases List.eq_nil_or_concat' (changes 0 ps) with hnil | ⟨earlier, e, hlast⟩
    · rw [textAfter_eq hnil]
    · obtain ⟨r, hr, he⟩ := List.mem_flatMap.1 (w.mem (hlast ▸ List.mem_append_right _ List.mem_cons_self))
      obtain ⟨qs, hundone⟩ : ∃ qs, Undone text records ps qs := by
        rcases h.writable.edit_cases hr he with ⟨hnone, rfl⟩ | ⟨b, hb, hchosen, hwithin, -⟩
        · exact w.undo_insertion h hr hnone hlast
        · exact w.undo_window h hr hb hchosen hwithin hlast
      obtain ⟨more, more', hbefore, hafter, hmore⟩ := hundone.regions
      calc openAtEnd k (textAfter ps ++ later)
          = openAtEnd k (textAfter qs ++ (more' ++ later)) := by rw [hafter, List.append_assoc]
        _ = openAtEnd k (textBefore qs ++ (more' ++ later)) := ih _ (hn ▸ hundone.fewer) hundone.beginning _ rfl
        _ = openAtEnd k (textBefore qs ++ (more ++ later)) := hmore k later
        _ = openAtEnd k (textBefore ps ++ later) := by rw [hbefore, List.append_assoc]

end Beginning

end RecordSql.Generate
