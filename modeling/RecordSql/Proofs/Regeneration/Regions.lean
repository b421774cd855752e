import RecordSql.Generate.Regeneration
import RecordSql.Proofs.Regeneration.Records
import RecordSql.Proofs.Regeneration.Splice

/-!
# Regions in bodies

A region of a record is searched on the lines between the braces of a body. What is written for it stays
between these braces: either the lines between its markers are replaced, or a region with its markers is
inserted.

- `findSide?_eq_some`, `firstPair?_eq_some`: the lines of the markers that are found.
- `RegionChange`, `regionEdit_change`: what is done for one region.
- `RegionChange.apart`: what is done for two regions of a body lies apart if the regions do.
-/

namespace RecordSql.Generate

open RecordSql.Source RecordSql.Text

/-! ### Searching markers -/

section

variable {l : Lines} {k : Region} {b : Body} {pair : MarkedLines} {first stop n : Nat}

/-- The first line that marks a side of a region. -/
theorem findSide?_eq_some {s : Side} (h : findSide? l k s first stop = some n) :
    first ≤ n ∧ n < stop ∧ sideOf? k (l.line n) = some s ∧
      ∀ m, first ≤ m → m < n → sideOf? k (l.line m) ≠ some s := by
  obtain ⟨hside, hmem, hearlier⟩ := List.find?_range'_eq_some.1 h
  have hn := List.mem_range'_1.1 hmem
  refine ⟨hn.1, by omega, by simpa using hside, fun m hm hmn => ?_⟩
  simpa using hearlier m hm hmn

/-- The markers of a region that is found. -/
theorem firstPair?_eq_some (h : firstPair? l k first stop = some pair) :
    first ≤ pair.start ∧ pair.start < pair.stop ∧ pair.stop < stop ∧
      sideOf? k (l.line pair.start) = some .start ∧ sideOf? k (l.line pair.stop) = some .stop := by
  obtain ⟨start, hstart, h⟩ := Option.bind_eq_some_iff.1 h
  obtain ⟨last, hlast, h⟩ := Option.bind_eq_some_iff.1 h
  cases h
  obtain ⟨hfirst, -, hstart, -⟩ := findSide?_eq_some hstart
  obtain ⟨hle, hstop, hlast, -⟩ := findSide?_eq_some hlast
  exact ⟨hfirst, hle, hstop, hstart, hlast⟩

/-- The lines of a region in a body lie between those of its braces. -/
theorem regionIn?_eq_some (h : regionIn? l b k = some pair) :
    l.lineOf b.opening < pair.start ∧ pair.start < pair.stop ∧ pair.stop < l.lineOf b.closing ∧
      sideOf? k (l.line pair.start) = some .start ∧ sideOf? k (l.line pair.stop) = some .stop :=
  firstPair?_eq_some h

end

/-! ### What is done for a region -/

/-- What is done for a region of a record in a body: the lines between its markers are replaced, or else a
region with its markers is inserted between the braces, behind the opening one or on the line of the closing
one. -/
inductive RegionChange (l : Lines) (b : Body) (k : Region) (fields : List DeclaredField) : Edit → Prop
  | contents {pair : MarkedLines} (hpair : regionIn? l b k = some pair) :
      RegionChange l b k fields ⟨l.start (pair.start + 1), l.start pair.stop,
        (k.body (indentOf l pair.start) fields).toList⟩
  | whole {offset : Nat} (indent : String) (back : List Char) (hnone : regionIn? l b k = none)
      (hopening : b.opening < offset) (hclosing : offset ≤ b.closing)
      (hedge : offset = b.opening + 1 ∨ l.start (l.lineOf b.closing) ≤ offset)
      (hback : ∀ c ∈ back, isBlank c) :
      RegionChange l b k fields (.insert offset ('\n' :: (regionText k indent fields).toList ++ back))

section

variable {l : Lines} {k k' : Region} {b : Body} {pair : MarkedLines} {fields fields' : List DeclaredField}
  {e e' : Edit}

/-- The blanks in front of a line are blank. -/
theorem isBlank_indentOf (line : Nat) : ∀ c ∈ (indentOf l line).toList, isBlank c := by
  intro c hc
  rw [indentOf, String.toList_ofList] at hc
  exact List.all_eq_true.1 (List.all_takeWhile (l := l.line line) (p := isBlank)) c hc

theorem insertFields_change (hb : b.opening < b.closing) (hnone : regionIn? l b .fields = none) :
    RegionChange l b .fields fields (insertFields l b fields) := by
  have h : RegionChange l b .fields fields _ :=
    .whole (innerIndent l b) [] hnone (Nat.lt_succ_self b.opening) hb (.inl rfl) nofun
  simpa [insertFields] using h

theorem insertMethods_change (hb : b.opening < b.closing) (hnone : regionIn? l b .methods = none) :
    RegionChange l b .methods fields (insertMethods l b fields) := by
  have hline := l.start_lineOf_le b.closing
  unfold insertMethods
  split
  · rename_i hown
    simp only [closesOnOwnLine, Bool.and_eq_true, decide_eq_true_eq] at hown
    have h : RegionChange l b .methods fields _ := .whole (innerIndent l b) [] hnone
      (l.lt_start_of_lineOf_lt hown.1 (l.lineOf_lt_count _)) hline (.inr (Nat.le_refl _)) nofun
    simpa using h
  · have h : RegionChange l b .methods fields _ := .whole (innerIndent l b) _ hnone hb
      (Nat.le_refl _) (.inr hline) (isBlank_indentOf (l := l) (l.lineOf b.opening))
    simpa using h

/-- The edit of a region does what is to be done for it. -/
theorem regionEdit_change (hb : b.opening < b.closing) (k : Region) (fields : List DeclaredField) :
    RegionChange l b k fields (regionEdit l b k fields) := by
  unfold regionEdit
  split
  · rename_i hpair
    exact .contents hpair
  · rename_i hnone
    cases k with
    | fields => exact insertFields_change hb hnone
    | methods => exact insertMethods_change hb hnone

/-- The markers of a region stand on lines between its braces. -/
theorem regionIn?_bounds (h : regionIn? l b k = some pair) :
    b.opening < l.start pair.start ∧ l.start pair.start < l.start (pair.start + 1) ∧
      l.start (pair.start + 1) ≤ l.start pair.stop ∧ l.start pair.stop < l.start (pair.stop + 1) ∧
      l.start (pair.stop + 1) ≤ l.start (l.lineOf b.closing) := by
  obtain ⟨hopening, hlt, hclosing, -, -⟩ := regionIn?_eq_some h
  have hcount := l.lineOf_lt_count b.closing
  refine ⟨l.lt_start_of_lineOf_lt hopening (by omega), l.start_lt_start (Nat.lt_add_one _) (by omega),
    l.start_le_start hlt, l.start_lt_start (Nat.lt_add_one _) (by omega), l.start_le_start hclosing⟩

/-- Nothing is changed outside the braces. -/
theorem RegionChange.bounds (h : RegionChange l b k fields e) :
    b.opening < e.start ∧ e.start ≤ e.stop ∧ e.stop ≤ b.closing := by
  cases h with
  | contents hpair =>
    obtain ⟨hopening, hstart, hle, hstop, hclosing⟩ := regionIn?_bounds hpair
    have hline := l.start_lineOf_le b.closing
    dsimp only
    omega
  | whole _ _ hnone hopening hclosing => exact ⟨hopening, Nat.le_refl _, hclosing⟩

/-- What is done for two regions of a body lies apart if the regions do. -/
theorem RegionChange.apart (h : RegionChange l b k fields e) (h' : RegionChange l b k' fields' e')
    (hregions : ∀ pair pair', regionIn? l b k = some pair → regionIn? l b k' = some pair' →
      pair.stop < pair'.start ∨ pair'.stop < pair.start) : Apart e e' := by
  cases h with
  | contents hpair =>
    obtain ⟨hopening, hstart, hle, hstop, hclosing⟩ := regionIn?_bounds hpair
    cases h' with
    | contents hpair' =>
      obtain ⟨hopening', hstart', hle', hstop', hclosing'⟩ := regionIn?_bounds hpair'
      have hlines : ∀ {m n}, m < n → l.start (m + 1) ≤ l.start n := fun h => l.start_le_start h
      rcases hregions _ _ hpair hpair' with hlt | hlt
      · have := hlines hlt
        constructor <;> dsimp only <;> omega
      · have := hlines hlt
        constructor <;> dsimp only <;> omega
    | whole _ _ _ _ _ hedge' => constructor <;> simp only [Edit.insert] <;> omega
  | whole _ _ _ _ _ hedge =>
    cases h' with
    | contents hpair' =>
      obtain ⟨hopening', hstart', hle', hstop', hclosing'⟩ := regionIn?_bounds hpair'
      constructor <;> simp only [Edit.insert] <;> omega
    | whole => exact ⟨Nat.le_total _ _, fun _ => ⟨rfl, rfl⟩⟩

end

/-! ### Lines that are left alone -/

/-- An edit leaves a line alone. -/
def Edit.Spares (e : Edit) (l : Lines) (line : Nat) : Prop :=
  e.stop ≤ l.start line ∨ l.start (line + 1) ≤ e.start

section

variable {l : Lines} {k k' : Region} {b : Body} {pair : MarkedLines} {fields fields' : List DeclaredField}
  {e e' : Edit}

/-- What is done for a region of a body leaves the markers of a region of this body alone, if it is the same
region or one that lies apart. -/
theorem RegionChange.spares (h : RegionChange l b k' fields e) (hpair : regionIn? l b k = some pair)
    (hregions : ∀ pair', regionIn? l b k' = some pair' →
      pair = pair' ∨ pair.stop < pair'.start ∨ pair'.stop < pair.start) :
    e.Spares l pair.start ∧ e.Spares l pair.stop := by
  obtain ⟨hopening, hstart, hle, hstop, hclosing⟩ := regionIn?_bounds hpair
  cases h with
  | @contents pair' hpair' =>
    obtain ⟨hopening', hstart', hle', hstop', hclosing'⟩ := regionIn?_bounds hpair'
    have hlines : ∀ {m n}, m < n → l.start (m + 1) ≤ l.start n := fun h => l.start_le_start h
    rcases hregions pair' hpair' with rfl | hlt | hlt
    · exact ⟨.inr (Nat.le_refl _), .inl (Nat.le_refl _)⟩
    · have := hlines hlt
      exact ⟨.inr (by dsimp only; omega), .inr (by dsimp only; omega)⟩
    · have := hlines hlt
      exact ⟨.inl (by dsimp only; omega), .inl (by dsimp only; omega)⟩
  | whole _ _ _ _ _ hedge => constructor <;> simp only [Edit.Spares, Edit.insert] <;> omega

/-- What is done outside the braces of a body leaves the markers in it alone. -/
theorem spares_of_outside (hpair : regionIn? l b k = some pair)
    (houtside : e.stop ≤ b.opening ∨ b.closing < e.start) :
    e.Spares l pair.start ∧ e.Spares l pair.stop := by
  obtain ⟨hopening, hstart, hle, hstop, hclosing⟩ := regionIn?_bounds hpair
  have hline := l.start_lineOf_le b.closing
  constructor <;> unfold Edit.Spares <;> omega

end

end RecordSql.Generate
