import RecordSql.Generate.SourceRecord
import RecordSql.Proofs.Placement.Files

/-!
# Where text can be generated

Text for a record is generated behind its fields, or in a body that is implemented for it. These places lie
in order in the file, whatever module a record is in.

- `Located`: the places of a record are those of blocks of the file.
- `sourceRecords?_located`: this holds for all records of a file.
- `Separate`: what is known of the places of records.
- `sourceRecords?_separate`: the places of the records of a file are separate.
- `sourceRecords?_bodies_nodup`: no body of a record is listed twice.
-/

namespace RecordSql.Generate

open RecordSql.Source RecordSql.Text

/-! ### Blocks of records -/

/-- The places of a record are those of some blocks. -/
structure Located (l : Lines) (bs : List Block) (r : SourceRecord) : Prop where
  stop : ∃ stop, .fields stop ∈ bs ∧ r.stop = l.offset stop
  bodies : ∀ b ∈ r.bodies, ∃ span, .body span ∈ bs ∧ b = ⟨l.offset span.start, l.closing span⟩

section

variable {l : Lines} {bs : List Block} {siblings : List Item}

theorem mem_blocksOfItems {items : List Item} {i : Item} (h : i ∈ items) :
    i.blocks ⊆ blocksOfItems items := by
  intro b hb
  rw [blocksOfItems_eq]
  exact List.mem_flatMap.2 ⟨i, h, hb⟩

/-- A body is found where an implementation has its braces. -/
theorem bodyOf?_located {name : String} {i : Item} {b : Body} (h : bodyOf? l name i = some b) :
    ∃ span, .body span ∈ i.blocks ∧ b = ⟨l.offset span.start, l.closing span⟩ := by
  cases i with
  | implementation i =>
    simp only [bodyOf?, Option.ite_none_right_eq_some, Option.some.injEq] at h
    exact ⟨i.body, List.mem_singleton_self _, h.2.symm⟩
  | data | module | other => cases h

theorem sourceRecord?_located {d : DataItem} {r : SourceRecord} (hd : d.shape.blocks ⊆ bs)
    (hsiblings : blocksOfItems siblings ⊆ bs) (h : sourceRecord? l siblings d = some r) :
    Located l bs r := by
  unfold sourceRecord? at h
  split at h
  · split at h
    · rename_i hshape
      cases h
      rw [hshape] at hd
      refine ⟨⟨_, hd (List.mem_singleton_self _), rfl⟩, fun b hb => ?_⟩
      obtain ⟨i, hi, hbody⟩ := List.mem_filterMap.1 hb
      obtain ⟨span, hspan, heq⟩ := bodyOf?_located hbody
      exact ⟨span, hsiblings (mem_blocksOfItems hi hspan), heq⟩
    · cases h
  · cases h

mutual

theorem recordsOfItem_located : ∀ (i : Item) {siblings : List Item}, i.blocks ⊆ bs →
    blocksOfItems siblings ⊆ bs → ∀ r ∈ recordsOfItem l siblings i, Located l bs r
  | .data d, siblings, hi, hsiblings, r, hr => by
    rw [Item.blocks] at hi
    rw [recordsOfItem, Option.mem_toList] at hr
    exact sourceRecord?_located hi hsiblings hr
  | .module content, siblings, hi, _, r, hr => by
    rw [Item.blocks] at hi
    rw [recordsOfItem] at hr
    exact recordsOfItems_located content hi hi r hr
  | .implementation i, siblings, _, _, r, hr => by
    rw [recordsOfItem] at hr
    · cases hr
    all_goals nofun
  | .other, siblings, _, _, r, hr => by
    rw [recordsOfItem] at hr
    · cases hr
    all_goals nofun

theorem recordsOfItems_located : ∀ (is : List Item) {siblings : List Item}, blocksOfItems is ⊆ bs →
    blocksOfItems siblings ⊆ bs → ∀ r ∈ recordsOfItems l siblings is, Located l bs r
  | [], _, _, _, _, hr => by
    rw [recordsOfItems] at hr
    cases hr
  | i :: is, siblings, his, hsiblings, r, hr => by
    rw [blocksOfItems] at his
    obtain ⟨hi, his⟩ := List.append_subset.1 his
    rw [recordsOfItems] at hr
    rcases List.mem_append.1 hr with hr | hr
    · exact recordsOfItem_located i hi hsiblings r hr
    · exact recordsOfItems_located is his hsiblings r hr

end

end

/-! ### Order of records -/

/-- Where a block ends if it holds fields. -/
def Block.stopOfFields? (l : Lines) : Block → Option Nat
  | .fields stop => some (l.offset stop)
  | .body _ => none

section

variable {l : Lines}

theorem sourceRecord?_stop {siblings : List Item} (d : DataItem) :
    ((sourceRecord? l siblings d).toList.map SourceRecord.stop).Sublist
      (d.shape.blocks.filterMap (Block.stopOfFields? l)) := by
  cases h : sourceRecord? l siblings d with
  | none => exact List.nil_sublist _
  | some r =>
    unfold sourceRecord? at h
    split at h
    · split at h
      · rename_i hshape
        cases h
        rw [hshape]
        exact .refl _
      · cases h
    · cases h

mutual

theorem recordsOfItem_stops : ∀ (i : Item) (siblings : List Item),
    ((recordsOfItem l siblings i).map SourceRecord.stop).Sublist (i.blocks.filterMap (Block.stopOfFields? l))
  | .data d, siblings => by
    rw [recordsOfItem, Item.blocks]
    exact sourceRecord?_stop d
  | .module content, _ => by
    rw [recordsOfItem, Item.blocks]
    exact recordsOfItems_stops content content
  | .implementation i, _ => by
    rw [recordsOfItem]
    · exact List.nil_sublist _
    all_goals nofun
  | .other, _ => by
    rw [recordsOfItem]
    · exact List.nil_sublist _
    all_goals nofun

/-- Records end one behind the other. -/
theorem recordsOfItems_stops : ∀ (is siblings : List Item),
    ((recordsOfItems l siblings is).map SourceRecord.stop).Sublist
      ((blocksOfItems is).filterMap (Block.stopOfFields? l))
  | [], _ => by
    rw [recordsOfItems]
    exact List.nil_sublist _
  | i :: is, siblings => by
    rw [recordsOfItems, blocksOfItems, List.map_append, List.filterMap_append]
    exact (recordsOfItem_stops i siblings).append (recordsOfItems_stops is siblings)

end

end

/-! ### Order of bodies -/

section

variable {l : Lines}

/-- The bodies for a type stand one behind the other, as the items do that they belong to. -/
theorem bodyOf?_ordered {siblings : List Item} (name : String)
    (h : (blocksOfItems siblings).Pairwise fun b c => b.stopIn l < c.stopIn l) :
    (siblings.filterMap (bodyOf? l name)).Pairwise fun b c => b.closing < c.closing := by
  rw [blocksOfItems_eq] at h
  refine List.Pairwise.filterMap _ (fun i j hlt b hb c hc => ?_) (List.pairwise_flatMap.1 h).2
  obtain ⟨span, hspan, rfl⟩ := bodyOf?_located hb
  obtain ⟨place, hplace, rfl⟩ := bodyOf?_located hc
  exact Nat.lt_of_succ_lt_succ (hlt _ hspan _ hplace)

theorem sourceRecord?_ordered {siblings : List Item} {d : DataItem} {r : SourceRecord}
    (hsiblings : (blocksOfItems siblings).Pairwise fun b c => b.stopIn l < c.stopIn l)
    (h : sourceRecord? l siblings d = some r) : r.bodies.Pairwise fun b c => b.closing < c.closing := by
  unfold sourceRecord? at h
  split at h
  · split at h
    · cases h
      exact bodyOf?_ordered _ hsiblings
    · cases h
  · cases h

mutual

theorem recordsOfItem_ordered : ∀ (i : Item) {siblings : List Item},
    i.blocks.Pairwise (fun b c => b.stopIn l < c.stopIn l) →
    (blocksOfItems siblings).Pairwise (fun b c => b.stopIn l < c.stopIn l) →
    ∀ r ∈ recordsOfItem l siblings i, r.bodies.Pairwise fun b c => b.closing < c.closing
  | .data d, siblings, _, hsiblings, r, hr => by
    rw [recordsOfItem, Option.mem_toList] at hr
    exact sourceRecord?_ordered hsiblings hr
  | .module content, siblings, hi, _, r, hr => by
    rw [Item.blocks] at hi
    rw [recordsOfItem] at hr
    exact recordsOfItems_ordered content hi hi r hr
  | .implementation i, siblings, _, _, r, hr => by
    rw [recordsOfItem] at hr
    · cases hr
    all_goals nofun
  | .other, siblings, _, _, r, hr => by
    rw [recordsOfItem] at hr
    · cases hr
    all_goals nofun

/-- The bodies of a record stand one behind the other. -/
theorem recordsOfItems_ordered : ∀ (is : List Item) {siblings : List Item},
    (blocksOfItems is).Pairwise (fun b c => b.stopIn l < c.stopIn l) →
    (blocksOfItems siblings).Pairwise (fun b c => b.stopIn l < c.stopIn l) →
    ∀ r ∈ recordsOfItems l siblings is, r.bodies.Pairwise fun b c => b.closing < c.closing
  | [], _, _, _, _, hr => by
    rw [recordsOfItems] at hr
    cases hr
  | i :: is, siblings, his, hsiblings, r, hr => by
    rw [blocksOfItems] at his
    obtain ⟨hi, his, -⟩ := List.pairwise_append.1 his
    rw [recordsOfItems] at hr
    rcases List.mem_append.1 hr with hr | hr
    · exact recordsOfItem_ordered i hi hsiblings r hr
    · exact recordsOfItems_ordered is his hsiblings r hr

end

end

/-! ### Places of records -/

/-- The places of records lie between characters and do not touch each other, except that records of one
name share their bodies. -/
structure Separate (l : Lines) (records : List SourceRecord) : Prop where
  cuts_stop : ∀ r ∈ records, Cuts r.stop l.text
  cuts_closing : ∀ r ∈ records, ∀ b ∈ r.bodies, Cuts b.closing l.text
  nonempty : ∀ r ∈ records, ∀ b ∈ r.bodies, b.opening < b.closing
  bodies : ∀ r ∈ records, ∀ s ∈ records, ∀ b ∈ r.bodies, ∀ c ∈ s.bodies,
    b = c ∨ b.closing < c.opening ∨ c.closing < b.opening
  outside : ∀ r ∈ records, ∀ s ∈ records, ∀ b ∈ s.bodies, r.stop ≤ b.opening ∨ b.closing < r.stop
  stops : records.Pairwise fun r s => r.stop < s.stop

section

variable {text : List Char} {records : List SourceRecord}

/-- The places of the records of a file are those of its blocks. -/
theorem sourceRecords?_located (h : sourceRecords? (.ofText text) = some records) :
    ∃ items, parseItems? text = some items ∧
      ∀ r ∈ records, Located (.ofText text) (blocksOfItems items) r := by
  obtain ⟨items, hitems, rfl⟩ := Option.map_eq_some_iff.1 h
  exact ⟨items, hitems, recordsOfItems_located items (fun _ h => h) fun _ h => h⟩

/-- The places of the records of a file are separate. -/
theorem sourceRecords?_separate (h : sourceRecords? (.ofText text) = some records) :
    Separate (.ofText text) records := by
  obtain ⟨items, hitems, hlocated⟩ := sourceRecords?_located h
  have harranged := parseItems?_arranged hitems
  constructor
  · intro r hr
    obtain ⟨stop, -, hstop⟩ := (hlocated r hr).stop
    exact hstop ▸ Lines.cuts_offset _ _
  · intro r hr b hb
    obtain ⟨span, -, rfl⟩ := (hlocated r hr).bodies b hb
    exact Lines.cuts_offset _ _
  · intro r hr b hb
    obtain ⟨span, hspan, rfl⟩ := (hlocated r hr).bodies b hb
    exact harranged.nonempty span hspan
  · intro r hr s hs b hb c hc
    obtain ⟨span, hspan, rfl⟩ := (hlocated r hr).bodies b hb
    obtain ⟨place, hplace, rfl⟩ := (hlocated s hs).bodies c hc
    rcases harranged.compare hspan hplace with heq | hcompare
    · cases heq
      exact .inl rfl
    · exact .inr hcompare
  · intro r hr s hs b hb
    obtain ⟨stop, hstop, heq⟩ := (hlocated r hr).stop
    obtain ⟨span, hspan, rfl⟩ := (hlocated s hs).bodies b hb
    rw [heq]
    exact (harranged.compare hstop hspan).resolve_left nofun
  · obtain ⟨items', hitems', rfl⟩ := Option.map_eq_some_iff.1 h
    obtain rfl : items' = items := Option.some_inj.1 (hitems'.symm.trans hitems)
    have hstops : ((blocksOfItems items').filterMap (Block.stopOfFields? (.ofText text))).Pairwise (· < ·) := by
      refine List.Pairwise.filterMap _ (fun b c hlt => ?_) harranged.stops
      cases b <;> cases c <;> simp_all [Block.stopOfFields?, Block.stopIn]
    exact List.pairwise_map.1 (hstops.sublist (recordsOfItems_stops items' items'))

/-- No body of a record is listed twice. -/
theorem sourceRecords?_bodies_nodup (h : sourceRecords? (.ofText text) = some records) {r : SourceRecord}
    (hr : r ∈ records) : r.bodies.Nodup := by
  obtain ⟨items, hitems, rfl⟩ := Option.map_eq_some_iff.1 h
  have hstops := (parseItems?_arranged hitems).stops
  refine (recordsOfItems_ordered items hstops hstops r hr).imp fun hlt heq => ?_
  rw [heq] at hlt
  exact Nat.lt_irrefl _ hlt

/-- A body of a record stands between its braces in a text without a byte order mark. -/
theorem sourceRecords?_body (h : sourceRecords? (.ofText text) = some records)
    (hhead : text.head? ≠ some byteOrderMark) {r : SourceRecord} (hr : r ∈ records) {b : Body}
    (hb : b ∈ r.bodies) :
    ∃ front inner back, text = front ++ '\x7b' :: (inner ++ '\x7d' :: back) ∧
      b.opening = byteLength front ∧ b.closing = byteLength front + 1 + byteLength inner := by
  obtain ⟨items, hitems, hlocated⟩ := sourceRecords?_located h
  obtain ⟨span, hspan, rfl⟩ := (hlocated r hr).bodies b hb
  exact parseItems?_body hitems hhead hspan

/-- One can write behind an opening brace of a text without a byte order mark. -/
theorem sourceRecords?_opens (h : sourceRecords? (.ofText text) = some records)
    (hhead : text.head? ≠ some byteOrderMark) {r : SourceRecord} (hr : r ∈ records) {b : Body}
    (hb : b ∈ r.bodies) : Cuts (b.opening + 1) text := by
  obtain ⟨front, inner, back, htext, hopening, -⟩ := sourceRecords?_body h hhead hr hb
  refine ⟨front ++ ['\x7b'], inner ++ '\x7d' :: back, by simp [htext], ?_⟩
  rw [hopening, byteLength_append]
  rfl

/-- The fields of a record end behind a closing brace in a text without a byte order mark. -/
theorem sourceRecords?_stop (h : sourceRecords? (.ofText text) = some records)
    (hhead : text.head? ≠ some byteOrderMark) {r : SourceRecord} (hr : r ∈ records) :
    ∃ front back, text = front ++ '\x7d' :: back ∧ r.stop = byteLength front + 1 := by
  obtain ⟨items, hitems, hlocated⟩ := sourceRecords?_located h
  obtain ⟨stop, hstop, heq⟩ := (hlocated r hr).stop
  rw [heq]
  exact parseItems?_fields hitems hhead hstop

end

end RecordSql.Generate
