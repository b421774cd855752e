import RecordSql.Proofs.Regeneration.Markers
import RecordSql.Proofs.Regeneration.Regions

/-!
# Paired markers

Two passes have to see the same regions. The check of a file goes through all its markers once; the search for
a region looks for a start among some lines, and from there for a stop. These lines may begin within a region
or end within one.

- `Paired`, `Unpaired`: markers that form regions one after the other, and a marker that spoils this.
- `imbalanceIn?_none_iff_paired`, `imbalanceIn?_eq_some`: the check finds the first marker without counterpart.
- `Paired.inner`: there is no marker between a start and the first stop behind it.
- `FirstRegion`: what the first region among some lines is.
- `markers_agree`: the check and the search agree.
-/

namespace RecordSql.Generate

open RecordSql.Source RecordSql.Text

/-- Markers that form regions, one after the other. -/
inductive Paired : List (Nat × Side) → Prop
  | nil : Paired []
  | region {ms : List (Nat × Side)} (first last : Nat) (h : Paired ms) :
      Paired ((first, .start) :: (last, .stop) :: ms)

/-- A marker without its counterpart, by the markers behind it: a stop where no region is open, or a start that
another start or nothing follows. -/
inductive Unpaired : Nat × Side → List (Nat × Side) → Prop
  | unopened (line : Nat) (ms : List (Nat × Side)) : Unpaired (line, .stop) ms
  | reopened (line again : Nat) (ms : List (Nat × Side)) : Unpaired (line, .start) ((again, .start) :: ms)
  | unclosed (line : Nat) : Unpaired (line, .start) []

/-! ### The check -/

section

variable {k : Region} {ms front back : List (Nat × Side)} {m : Nat × Side} {i : Imbalance}

/-- Some markers are paired, or there is a first one that is not. -/
theorem paired_or_unpaired :
    ∀ ms : List (Nat × Side),
      Paired ms ∨ ∃ front m back, ms = front ++ m :: back ∧ Paired front ∧ Unpaired m back
  | [] => .inl .nil
  | (line, .stop) :: ms => .inr ⟨[], _, ms, rfl, .nil, .unopened line ms⟩
  | [(line, .start)] => .inr ⟨[], _, [], rfl, .nil, .unclosed line⟩
  | (line, .start) :: (again, .start) :: ms => .inr ⟨[], _, _, rfl, .nil, .reopened line again ms⟩
  | (first, .start) :: (last, .stop) :: ms => by
    rcases paired_or_unpaired ms with h | ⟨front, m, back, rfl, hfront, hm⟩
    · exact .inl (h.region first last)
    · exact .inr ⟨_ :: _ :: front, m, back, rfl, hfront.region first last, hm⟩

/-- The check passes over regions. -/
theorem imbalanceIn?_append (h : Paired front) (back : List (Nat × Side)) :
    imbalanceIn? k none (front ++ back) = imbalanceIn? k none back := by
  induction h with
  | nil => rfl
  | region first last h ih =>
    rw [List.cons_append, List.cons_append, imbalanceIn?, imbalanceIn?]
    exact ih

/-- The check stops at a marker without its counterpart. -/
theorem imbalanceIn?_unpaired (h : Unpaired m back) :
    imbalanceIn? k none (m :: back) = some ⟨k, m.2, m.1⟩ := by
  cases h <;> rfl

theorem imbalanceIn?_paired (h : Paired ms) : imbalanceIn? k none ms = none := by
  have hpassed := imbalanceIn?_append (k := k) h []
  rw [List.append_nil] at hpassed
  rw [hpassed]
  rfl

theorem imbalanceIn?_offender (hfront : Paired front) (hm : Unpaired m back) :
    imbalanceIn? k none (front ++ m :: back) = some ⟨k, m.2, m.1⟩ := by
  rw [imbalanceIn?_append hfront, imbalanceIn?_unpaired hm]

/-- The check succeeds exactly on markers that are paired. -/
theorem imbalanceIn?_none_iff_paired : imbalanceIn? k none ms = none ↔ Paired ms := by
  constructor
  · intro h
    rcases paired_or_unpaired ms with hms | ⟨front, m, back, rfl, hfront, hm⟩
    · exact hms
    · rw [imbalanceIn?_offender hfront hm] at h
      cases h
  · exact imbalanceIn?_paired

/-- The check finds the first marker without its counterpart. -/
theorem imbalanceIn?_eq_some :
    imbalanceIn? k none ms = some i ↔ i.region = k ∧
      ∃ front back, ms = front ++ (i.line, i.found) :: back ∧ Paired front ∧ Unpaired (i.line, i.found) back := by
  constructor
  · intro h
    rcases paired_or_unpaired ms with hms | ⟨front, m, back, rfl, hfront, hm⟩
    · rw [imbalanceIn?_paired hms] at h
      cases h
    · rw [imbalanceIn?_offender hfront hm] at h
      cases h
      exact ⟨rfl, front, back, rfl, hfront, hm⟩
  · rintro ⟨rfl, front, back, rfl, hfront, hm⟩
    exact imbalanceIn?_offender hfront hm

end

/-! ### The markers of a text -/

section

variable {l : Lines} {k : Region} {s : Side} {first stop n : Nat} {ms : List (Nat × Side)}

/-- The markers of a text are the lines that mark a side. -/
theorem mem_markers : (n, s) ∈ markers l k ↔ sideOf? k (l.line n) = some s := by
  rw [markers, List.mem_filterMap]
  constructor
  · rintro ⟨m, -, h⟩
    obtain ⟨s', hside, heq⟩ := Option.map_eq_some_iff.1 h
    cases heq
    exact hside
  · intro h
    have hn : n < l.count := by
      by_contra hge
      rw [l.line_of_ge (Nat.le_of_not_lt hge), sideOf?_blank (List.forall_mem_nil _)] at h
      cases h
    exact ⟨n, List.mem_range.2 hn, by rw [h, Option.map_some]⟩

/-- The markers of a text are listed from top to bottom. -/
theorem markers_ascending (l : Lines) (k : Region) : (markers l k).Pairwise fun m m' => m.1 < m'.1 := by
  refine List.Pairwise.filterMap _ (fun m m' hlt a ha b hb => ?_) List.pairwise_lt_range
  obtain ⟨s, -, rfl⟩ := Option.map_eq_some_iff.1 ha
  obtain ⟨s', -, rfl⟩ := Option.map_eq_some_iff.1 hb
  exact hlt

/-- There is no marker between a start and the first stop behind it. The start belongs to the first region or to
a later one; in the first case this stop is the one of the same region. -/
theorem Paired.inner (h : Paired ms) (hms : ms.Pairwise fun m m' => m.1 < m'.1)
    (hfirst : (first, .start) ∈ ms) (hstop : (stop, .stop) ∈ ms) (hlt : first < stop)
    (hnone : ∀ n, first < n → n < stop → (n, Side.stop) ∉ ms) :
    ∀ n s, first < n → n < stop → (n, s) ∉ ms := by
  induction h with
  | nil => cases hfirst
  | @region ms a b h ih =>
    obtain ⟨ha, hms⟩ := List.pairwise_cons.1 hms
    obtain ⟨hb, hms⟩ := List.pairwise_cons.1 hms
    have hab : a < b := ha _ List.mem_cons_self
    have hlater : ∀ m ∈ ms, b < m.1 := hb
    have hcases : ∀ m : Nat × Side, m ∈ (a, Side.start) :: (b, Side.stop) :: ms →
        m = (a, .start) ∨ m = (b, .stop) ∨ m ∈ ms := by simp
    intro n s hn hnstop hmem
    rcases hcases _ hfirst with heq | heq | hfirst
    · cases heq
      -- The stop of this region is not behind the one that is given, so all others are behind both.
      have hle : stop ≤ b := by
        by_contra hgt
        exact hnone b hab (by omega) (by simp)
      rcases hcases _ hmem with heq | heq | hmem
      · cases heq
        omega
      · cases heq
        omega
      · have := hlater _ hmem
        dsimp only at this
        omega
    · cases heq
    · have hbfirst := hlater _ hfirst
      dsimp only at hbfirst
      have hin : ∀ {m : Nat × Side}, first < m.1 → m ∈ (a, Side.start) :: (b, Side.stop) :: ms → m ∈ ms := by
        intro m hm hmem
        rcases hcases m hmem with rfl | rfl | hmem
        · dsimp only at hm
          omega
        · dsimp only at hm
          omega
        · exact hmem
      exact ih hms hfirst (hin hlt hstop)
        (fun n hn hlt hmem => hnone n hn hlt (List.mem_cons_of_mem _ (List.mem_cons_of_mem _ hmem)))
        n s hn hnstop (hin hn hmem)

/-- Among some lines a side is found if any of them marks it. -/
theorem exists_findSide? (hfirst : first ≤ n) (hstop : n < stop) (hside : sideOf? k (l.line n) = some s) :
    ∃ m, findSide? l k s first stop = some m ∧ m ≤ n := by
  cases hfound : findSide? l k s first stop with
  | none =>
    have hrange : n ∈ List.range' first (stop - first) := List.mem_range'_1.2 ⟨hfirst, by omega⟩
    have := List.find?_eq_none.1 hfound n hrange
    simp [hside] at this
  | some m =>
    obtain ⟨-, -, -, hearlier⟩ := findSide?_eq_some hfound
    refine ⟨m, rfl, ?_⟩
    by_contra hgt
    exact hearlier n hfirst (by omega) hside

end

/-! ### The search -/

/-- The first region of a kind among the lines from one up to another one. -/
structure FirstRegion (l : Lines) (k : Region) (first stop : Nat) (pair : MarkedLines) : Prop where
  first_le : first ≤ pair.start
  start_lt : pair.start < pair.stop
  stop_lt : pair.stop < stop
  opening : sideOf? k (l.line pair.start) = some .start
  closing : sideOf? k (l.line pair.stop) = some .stop
  inner : ∀ n, pair.start < n → n < pair.stop → sideOf? k (l.line n) = none
  earliest : ∀ a b, first ≤ a → a < b → b < stop → sideOf? k (l.line a) = some .start →
    sideOf? k (l.line b) = some .stop → pair.start ≤ a ∧ pair.stop ≤ b

section

variable {l : Lines} {k : Region} {first stop : Nat} {pair pair' : MarkedLines}

theorem FirstRegion.unique (h : FirstRegion l k first stop pair) (h' : FirstRegion l k first stop pair') :
    pair = pair' := by
  obtain ⟨hstart, hstop⟩ := h.earliest _ _ h'.first_le h'.start_lt h'.stop_lt h'.opening h'.closing
  obtain ⟨hstart', hstop'⟩ := h'.earliest _ _ h.first_le h.start_lt h.stop_lt h.opening h.closing
  obtain ⟨start, last⟩ := pair
  obtain ⟨start', last'⟩ := pair'
  dsimp only at *
  rw [Nat.le_antisymm hstart hstart', Nat.le_antisymm hstop hstop']

/-- A region is found if there are a start and a stop behind it. -/
theorem exists_firstPair? {a b : Nat} (ha : first ≤ a) (hab : a < b) (hb : b < stop)
    (hstart : sideOf? k (l.line a) = some .start) (hstop : sideOf? k (l.line b) = some .stop) :
    ∃ pair, firstPair? l k first stop = some pair := by
  obtain ⟨start, hfound, hle⟩ := exists_findSide? ha (hab.trans hb) hstart
  have hbehind : start + 1 ≤ b := by omega
  obtain ⟨last, hlast, -⟩ := exists_findSide? hbehind hb hstop
  exact ⟨⟨start, last⟩, by simp [firstPair?, hfound, hlast]⟩

/-- What is found in a text that passes the check is the first region. -/
theorem firstPair?_first (hbalanced : imbalance? l k = none) (h : firstPair? l k first stop = some pair) :
    FirstRegion l k first stop pair := by
  obtain ⟨start, hstart, hrest⟩ := Option.bind_eq_some_iff.1 h
  obtain ⟨last, hlast, hpair⟩ := Option.bind_eq_some_iff.1 hrest
  cases hpair
  obtain ⟨hfirst, -, hopening, hearlier⟩ := findSide?_eq_some hstart
  obtain ⟨hlt, hstop, hclosing, hbetween⟩ := findSide?_eq_some hlast
  have hpaired : Paired (markers l k) := imbalanceIn?_none_iff_paired.1 hbalanced
  have hinner := hpaired.inner (markers_ascending l k) (mem_markers.2 hopening) (mem_markers.2 hclosing) hlt
    fun n hn hnstop hmem => hbetween n hn hnstop (mem_markers.1 hmem)
  refine ⟨hfirst, hlt, hstop, hopening, hclosing, fun n hn hnstop => ?_, fun a b ha hab hb hsa hsb => ?_⟩
  · cases hside : sideOf? k (l.line n) with
    | none => rfl
    | some s => exact absurd (mem_markers.2 hside) (hinner n s hn hnstop)
  · have hle : start ≤ a := by
      by_contra hgt
      exact hearlier a ha (by omega) hsa
    refine ⟨hle, ?_⟩
    by_contra hgt
    exact hbetween b (by omega) (Nat.lt_of_not_le hgt) hsb

end

/-- The check of a text and the search in it agree. The check succeeds exactly if the markers are paired from top
to bottom, and else it reports the first one without counterpart by its line, counted from one. In a text that
passes, a region is found among some lines exactly if there is a stop behind a start among them; it is the
first one, and nothing between its markers is a marker. -/
theorem markers_agree (l : Lines) (k : Region) :
    ((∀ n s, (n, s) ∈ markers l k ↔ sideOf? k (l.line n) = some s) ∧
      (markers l k).Pairwise fun m m' => m.1 < m'.1) ∧
    (imbalance? l k = none ↔ Paired (markers l k)) ∧
    (∀ i, imbalance? l k = some i ↔ i.region = k ∧ ∃ front back,
      markers l k = front ++ (i.line, i.found) :: back ∧ Paired front ∧ Unpaired (i.line, i.found) back) ∧
    (∀ i, imbalance? l k = some i → i.message = "found " ++ k.label i.found ++ " marker (at line " ++
      toString (i.line + 1) ++ ") but no " ++ k.label i.found.opposite ++ " marker") ∧
    (imbalance? l k = none → ∀ first stop,
      ((∃ pair, firstPair? l k first stop = some pair) ↔ ∃ a b, first ≤ a ∧ a < b ∧ b < stop ∧
        sideOf? k (l.line a) = some .start ∧ sideOf? k (l.line b) = some .stop) ∧
      ∀ pair, firstPair? l k first stop = some pair ↔ FirstRegion l k first stop pair) := by
  refine ⟨⟨fun n s => mem_markers, markers_ascending l k⟩, imbalanceIn?_none_iff_paired,
    fun i => imbalanceIn?_eq_some, fun i h => ?_, fun hbalanced first stop => ⟨?_, fun pair => ?_⟩⟩
  · rw [Imbalance.message, (imbalanceIn?_eq_some.1 h).1]
  · constructor
    · rintro ⟨pair, h⟩
      have hfirst := firstPair?_first hbalanced h
      exact ⟨pair.start, pair.stop, hfirst.first_le, hfirst.start_lt, hfirst.stop_lt, hfirst.opening,
        hfirst.closing⟩
    · rintro ⟨a, b, ha, hab, hb, hstart, hstop⟩
      exact exists_firstPair? ha hab hb hstart hstop
  · constructor
    · exact firstPair?_first hbalanced
    · intro hpair
      obtain ⟨pair', h⟩ := exists_firstPair? hpair.first_le hpair.start_lt hpair.stop_lt hpair.opening hpair.closing
      rw [h, (firstPair?_first hbalanced h).unique hpair]

/-- Two regions of methods with an empty line in the second one. -/
def twoRegions : List Char :=
  "// AUTO-GENERATED: METHODS START\n// AUTO-GENERATED: METHODS END\nfn f() \x7b\x7d\n".toList ++
  "\t// AUTO-GENERATED: METHODS START \n\n// AUTO-GENERATED: METHODS END".toList

/-- From a line within the first of two regions on, the second one is found. -/
theorem twoRegions_agree :
    imbalance? (.ofText twoRegions) .methods = none ∧
      firstPair? (.ofText twoRegions) .methods 1 6 = some ⟨3, 5⟩ ∧
      FirstRegion (.ofText twoRegions) .methods 1 6 ⟨3, 5⟩ := by
  have hbalanced : imbalance? (.ofText twoRegions) .methods = none := by
    unfold twoRegions
    iterate 2 rewrite [String.toList_ofList]
    decide +kernel
  have hfound : firstPair? (.ofText twoRegions) .methods 1 6 = some ⟨3, 5⟩ := by
    unfold twoRegions
    iterate 2 rewrite [String.toList_ofList]
    decide +kernel
  obtain ⟨-, -, -, -, hsearch⟩ := markers_agree (.ofText twoRegions) .methods
  exact ⟨hbalanced, hfound, ((hsearch hbalanced 1 6).2 ⟨3, 5⟩).1 hfound⟩

end RecordSql.Generate
