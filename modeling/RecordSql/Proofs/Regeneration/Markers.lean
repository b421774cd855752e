import Mathlib.Data.List.TakeWhile
import RecordSql.Generate.Marker
import RecordSql.Proofs.Placement.Rows

/-!
# Markers among rows

A row is a marker if nothing but blanks surrounds the text of the marker, so a row with any other character is
none. Markers are balanced if they alternate from the first one, a start, to the last one, a stop.

- `sideOf?_chomp`, `sideOf?_of_mem`, `sideOf?_marker`: which rows are markers.
- `sides`, `runSides`: the markers among some rows, and whether they alternate.
- `imbalance?_eq_none`: markers are balanced exactly if they alternate.
- `ClosedBefore`: no region is open where a line begins.
-/

namespace RecordSql.Text

variable {cs blanks : List Char} {c : Char}

/-! ### Trimming -/

theorem trimLeft_blank_append (h : ∀ c ∈ blanks, isBlank c) (cs : List Char) :
    trimLeft (blanks ++ cs) = trimLeft cs := List.dropWhile_append_of_pos h

theorem trimRight_append_blank (h : ∀ c ∈ blanks, isBlank c) (cs : List Char) :
    trimRight (cs ++ blanks) = trimRight cs := by
  rw [trimRight, List.reverse_append,
    List.dropWhile_append_of_pos fun c hc => h c (List.mem_reverse.1 hc), trimRight]

/-- Blanks in front do not matter. -/
theorem trim_blank_append (h : ∀ c ∈ blanks, isBlank c) (cs : List Char) :
    trim (blanks ++ cs) = trim cs := by
  rw [trim, trimLeft_blank_append h, trim]

/-- Blanks behind do not matter. -/
theorem trim_append_blank (h : ∀ c ∈ blanks, isBlank c) (cs : List Char) :
    trim (cs ++ blanks) = trim cs := by
  by_cases hcs : ∀ c ∈ cs, isBlank c
  · have hnil : ∀ {bs : List Char}, (∀ c ∈ bs, isBlank c) → trim bs = [] := fun hbs => by
      have := trim_blank_append hbs []
      rwa [List.append_nil] at this
    rw [hnil hcs, hnil (List.forall_mem_append.2 ⟨hcs, h⟩)]
  · have hleft : trimLeft (cs ++ blanks) = trimLeft cs ++ blanks := by
      rw [trimLeft, List.dropWhile_append]
      split
      · rename_i hempty
        exact absurd (List.dropWhile_eq_nil_iff.1 (List.isEmpty_iff.1 hempty)) hcs
      · rfl
    rw [trim, hleft, trimRight_append_blank h, trim]

/-- What is no blank stays. -/
theorem mem_trim (hc : c ∈ cs) (hblank : isBlank c = false) : c ∈ trim cs := by
  have hdrop : ∀ {ds : List Char}, c ∈ ds → c ∈ ds.dropWhile isBlank := by
    intro ds hds
    rw [← List.takeWhile_append_dropWhile (p := isBlank) (l := ds)] at hds
    refine (List.mem_append.1 hds).resolve_left fun htake => ?_
    have hall := List.all_eq_true.1 (List.all_takeWhile (l := ds) (p := isBlank)) c htake
    exact Bool.false_ne_true (hblank.symm.trans hall)
  exact List.mem_reverse.2 (hdrop (List.mem_reverse.2 (hdrop hc)))

/-- What begins with no blank begins a trimmed text. -/
theorem head?_trim (hblanks : ∀ c ∈ blanks, isBlank c) (hblank : isBlank c = false) (cs : List Char) :
    (trim (blanks ++ c :: cs)).head? = some c := by
  have hleft : trimLeft (c :: cs) = c :: cs := List.dropWhile_cons_of_neg (by simp [hblank])
  have hright : trimRight (c :: cs) = c :: trimRight cs := by
    rw [trimRight, List.reverse_cons, List.dropWhile_append]
    split
    · rename_i hempty
      simp [List.dropWhile, hblank, trimRight, List.isEmpty_iff.1 hempty]
    · simp [trimRight]
  rw [trim_blank_append hblanks, trim, hleft, hright, List.head?_cons]

end RecordSql.Text

namespace RecordSql.Generate

open RecordSql.Source RecordSql.Text

/-! ### Rows that are markers -/

section

variable {k k' : Region} {s : Side} {row indent : List Char} {c : Char}

theorem exists_chomp (row : List Char) : ∃ n, row = chomp row ++ List.replicate n '\r' := by
  have htake : row.reverse.takeWhile (· = '\r') =
      List.replicate (row.reverse.takeWhile (· = '\r')).length '\r' :=
    List.eq_replicate_of_mem fun c hc => by
      simpa using List.all_eq_true.1 (List.all_takeWhile (l := row.reverse) (p := (· = '\r'))) c hc
  refine ⟨(row.reverse.takeWhile (· = '\r')).length, ?_⟩
  have hsplit := congrArg List.reverse (List.takeWhile_append_dropWhile (p := (· = '\r')) (l := row.reverse))
  rw [List.reverse_append, List.reverse_reverse, htake, List.reverse_replicate] at hsplit
  exact hsplit.symm

/-- Carriage returns do not make or spoil a marker. -/
theorem sideOf?_chomp (k : Region) (row : List Char) : sideOf? k (chomp row) = sideOf? k row := by
  obtain ⟨n, hn⟩ := exists_chomp row
  have hblank : ∀ c ∈ List.replicate n '\r', isBlank c := fun c hc => by
    rw [List.eq_of_mem_replicate hc]
    rfl
  have htrim : trim row = trim (chomp row) := by
    rw [hn, trim_append_blank hblank, ← hn]
  rw [sideOf?, sideOf?, htrim]

/-- A row with a character that is neither blank nor in a marker is no marker. -/
theorem sideOf?_of_mem (hc : c ∈ row) (hblank : isBlank c = false)
    (hmarker : ∀ k s, c ∉ (Region.marker k s).toList) (k : Region) : sideOf? k row = none := by
  have hmem := mem_trim hc hblank
  have hne : ∀ s, trim row ≠ (k.marker s).toList := fun s h => hmarker k s (h ▸ hmem)
  rw [sideOf?, if_neg (hne _), if_neg (hne _)]

/-- A row whose first character except for blanks is not the one of markers is no marker. -/
theorem sideOf?_of_head (hindent : ∀ c ∈ indent, isBlank c) (hblank : isBlank c = false) (hc : c ≠ '/')
    (row : List Char) (k : Region) : sideOf? k (indent ++ c :: row) = none := by
  have hhead := head?_trim hindent hblank row
  have hne : ∀ s, trim (indent ++ c :: row) ≠ (k.marker s).toList := by
    intro s h
    rw [h] at hhead
    have hslash : ((k.marker s).toList).head? = some '/' := by cases k <;> cases s <;> rfl
    exact hc (Option.some_inj.1 (hhead.symm.trans hslash))
  rw [sideOf?, if_neg (hne _), if_neg (hne _)]

/-- A row of blanks is no marker. -/
theorem sideOf?_blank (h : ∀ c ∈ row, isBlank c) (k : Region) : sideOf? k row = none := by
  have hrow := trim_blank_append h []
  rw [List.append_nil] at hrow
  rw [sideOf?, hrow]
  cases k <;> rfl

/-- A marker behind blanks marks a side of its own region, and of no other. -/
theorem sideOf?_marker (hindent : ∀ c ∈ indent, isBlank c) (k k' : Region) (s : Side) :
    sideOf? k (indent ++ (k'.marker s).toList) = if k = k' then some s else none := by
  rw [sideOf?, trim_blank_append hindent]
  cases k <;> cases k' <;> cases s <;> rfl

end

/-! ### Alternating markers -/

/-- The markers of a region among some rows. -/
def sides (k : Region) (rs : List (List Char)) : List Side := rs.filterMap (sideOf? k)

/-- Whether a region is open behind some markers; nothing if they do not alternate. -/
def runSides : Bool → List Side → Option Bool
  | isOpen, [] => some isOpen
  | false, .start :: more => runSides true more
  | true, .stop :: more => runSides false more
  | true, .start :: _ => none
  | false, .stop :: _ => none

section

variable {k : Region} {isOpen isOpen' : Bool} {front back : List Side} {rs : List (List Char)}

theorem runSides_append (isOpen : Bool) (front back : List Side) :
    runSides isOpen (front ++ back) = (runSides isOpen front).bind fun now => runSides now back := by
  fun_induction runSides isOpen front with
  | case1 => rfl
  | case2 more ih => exact ih
  | case3 more ih => exact ih
  | case4 | case5 => rfl

/-- A whole region more does not matter where no region is open. -/
theorem runSides_insert (h : runSides isOpen front = some false) :
    runSides isOpen (front ++ [Side.start, .stop] ++ back) = runSides isOpen (front ++ back) := by
  rw [List.append_assoc, runSides_append, runSides_append, h]
  rfl

theorem sides_append (k : Region) (rs qs : List (List Char)) : sides k (rs ++ qs) = sides k rs ++ sides k qs :=
  List.filterMap_append

theorem sides_cons_none {row : List Char} (h : sideOf? k row = none) (rs : List (List Char)) :
    sides k (row :: rs) = sides k rs := List.filterMap_cons_none h

theorem sides_cons_some {row : List Char} {s : Side} (h : sideOf? k row = some s) (rs : List (List Char)) :
    sides k (row :: rs) = s :: sides k rs := List.filterMap_cons_some h

theorem sides_eq_nil (h : ∀ row ∈ rs, sideOf? k row = none) : sides k rs = [] :=
  List.filterMap_eq_nil_iff.2 h

/-- Markers are balanced exactly if they alternate. -/
theorem imbalanceIn?_eq_none {opened : Option Nat} {ms : List (Nat × Side)} :
    imbalanceIn? k opened ms = none ↔ runSides opened.isSome (ms.map Prod.snd) = some false := by
  fun_induction imbalanceIn? k opened ms <;> simp_all [runSides]

/-- The markers in front of a line are those among the rows in front of it. -/
theorem markers_before (l : Lines) (k : Region) (n : Nat) :
    ((markers l k).filter fun m => m.1 < n).map Prod.snd = sides k ((rows l.text).take n) := by
  have hrest : ∀ rs qs : List (List Char), rows l.text = qs ++ rs →
      (((List.range' qs.length rs.length).filterMap fun m =>
        (sideOf? k (l.line m)).map fun s => (m, s)).filter fun m => m.1 < n).map Prod.snd =
        sides k (rs.take (n - qs.length)) := by
    intro rs
    induction rs with
    | nil => exact fun _ _ => by simp [sides]
    | cons row rs ih =>
      intro qs h
      have hrow : sideOf? k (l.line qs.length) = sideOf? k row := by rw [l.line_eq h, sideOf?_chomp]
      have hmore := ih (qs ++ [row]) (by simp [h])
      rw [List.length_append, List.length_singleton] at hmore
      rw [List.length_cons, List.range'_succ]
      by_cases hn : qs.length < n
      · obtain ⟨m, hm⟩ : ∃ m, n - qs.length = m + 1 := ⟨n - qs.length - 1, by omega⟩
        rw [show n - (qs.length + 1) = m by omega] at hmore
        rw [hm, List.take_succ_cons]
        cases hside : sideOf? k row with
        | none => simp [hrow, hside, sides_cons_none hside, hmore]
        | some s => simp [hrow, hside, sides_cons_some hside, hmore, hn]
      · rw [show n - (qs.length + 1) = 0 by omega] at hmore
        rw [show n - qs.length = 0 by omega]
        cases hside : sideOf? k row with
        | none => simpa [hrow, hside, sides] using hmore
        | some s => simpa [hrow, hside, sides, hn] using hmore
  have hall := hrest (rows l.text) [] rfl
  rwa [List.length_nil, Nat.sub_zero, ← l.count_eq, ← List.range_eq_range'] at hall

/-- The markers of a text are balanced exactly if they alternate. -/
theorem imbalance?_eq_none {l : Lines} : imbalance? l k = none ↔ runSides false (sides k (rows l.text)) = some false := by
  have hall : (markers l k).filter (fun m => m.1 < l.count) = markers l k := by
    refine List.filter_eq_self.2 fun m hm => ?_
    obtain ⟨n, hn, hm⟩ := List.mem_filterMap.1 hm
    obtain ⟨s, -, rfl⟩ := Option.map_eq_some_iff.1 hm
    simpa using hn
  have hsides := markers_before l k l.count
  rw [hall, l.count_eq, List.take_length] at hsides
  rw [imbalance?, imbalanceIn?_eq_none, hsides]
  rfl

end

/-- No region of a kind is open where a line begins. -/
def ClosedBefore (l : Lines) (k : Region) (line : Nat) : Prop :=
  imbalanceIn? k none ((markers l k).filter fun m => m.1 < line) = none

instance (l : Lines) (k : Region) (line : Nat) : Decidable (ClosedBefore l k line) :=
  inferInstanceAs (Decidable (_ = _))

theorem closedBefore_iff {l : Lines} {k : Region} {line : Nat} :
    ClosedBefore l k line ↔ runSides false (sides k ((rows l.text).take line)) = some false := by
  rw [ClosedBefore, imbalanceIn?_eq_none, markers_before]
  rfl

end RecordSql.Generate
