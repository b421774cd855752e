import Mathlib.Data.Finset.Card
import Mathlib.Logic.Relation
import RecordSql.Proofs.Definition.Replacement
import RecordSql.Proofs.Rendering.Simulation.Expressions

/-!
# Writing definitions in place

The definitions in force can be written in place of the columns that they define, and so can the
definitions that come in with them. If no definition leads back to itself, nothing is left to write in
place after as many rounds as there are definitions.

- `Frame.unfolded`: an expression after some rounds; `Frame.inPlace`: after enough of them.
- `Frame.OnlyColumns`: defined fields are named by columns alone, as far as the rounds lead.
- `Frame.Acyclic`: no definition leads back to itself.
- `free_inPlace`: nothing defined is left.
- `Frame.unfolding`, `like_unfolded`: an expression and what it unfolds to are alike.
-/

namespace RecordSql

namespace Frame

/-- What is written in place of a column: the definition of its field, if one is in force. -/
def definiens (f : Frame) (c : FieldRef) : Expr :=
  match f.applied? .plain c with
  | some d => if c.qualifier = none then d.expr else .column c
  | none => .column c

/-- An expression after some rounds of writing definitions in place. -/
def unfolded (f : Frame) (rounds : Nat) (e : Expr) : Expr :=
  (Expr.replace f.definiens)^[rounds] e

/-- The columns that the definitions in force define. -/
def definedColumns (f : Frame) : List FieldRef :=
  f.selects.flatMap fun s => s.2.map fun d => .of s.1 d.field

/-- An expression with all definitions written in place. -/
def inPlace (f : Frame) (e : Expr) : Expr :=
  f.unfolded f.definedColumns.length e

/-- No column of an expression is defined. -/
def Free (f : Frame) (e : Expr) : Prop :=
  ∀ c, .column c ∈ e.occurrences → f.applied? .plain c = none

/-- A place names defined fields by unqualified columns at most. -/
def NamesByColumns (f : Frame) : Occurrence → Prop
  | .column c => c.qualifier = none ∨ f.applied? .plain c = none
  | .reference c => f.applied? .plain c = none
  | .key r => ∀ n ∈ f.registry.keyFields r, f.applied? .key (.of r n) = none
  | .projection r names =>
    ∀ n ∈ f.registry.projected r names, f.applied? .projection (.of r n) = none
  | .definition r field => f.definition? r field = none

/-- Defined fields occur in an expression, and in what its columns stand for, as unqualified columns
only. -/
def OnlyColumns (f : Frame) (e : Expr) : Prop :=
  ∀ rounds, ∀ o ∈ (f.unfolded rounds e).occurrences, f.NamesByColumns o

/-- The definition of one column mentions another one. -/
def Refers (f : Frame) (c c' : FieldRef) : Prop :=
  ∃ d, f.applied? .plain c = some d ∧ .column c' ∈ d.expr.occurrences

/-- No definition leads back to itself. -/
def Acyclic (f : Frame) : Prop :=
  ∀ c, ¬Relation.TransGen f.Refers c c

section Rounds

variable {f : Frame} {e : Expr} {c : FieldRef} {d : Definition}

/-! ### Rounds -/

theorem definiens_of_applied (h : f.applied? .plain c = some d) (hq : c.qualifier = none) :
    f.definiens c = d.expr := by
  rw [definiens, h]
  exact if_pos hq

theorem definiens_of_none (h : f.applied? .plain c = none) : f.definiens c = .column c := by
  rw [definiens, h]

theorem unfolded_succ (rounds : Nat) (e : Expr) :
    f.unfolded (rounds + 1) e = (f.unfolded rounds e).replace f.definiens :=
  Function.iterate_succ_apply' _ _ _

theorem unfolded_add (rounds more : Nat) (e : Expr) :
    f.unfolded (more + rounds) e = f.unfolded more (f.unfolded rounds e) :=
  Function.iterate_add_apply _ _ _ _

/-- An expression unfolds column by column. -/
theorem unfolded_eq (rounds : Nat) (e : Expr) :
    f.unfolded rounds e = e.replace fun c => f.unfolded rounds (.column c) := by
  induction rounds with
  | zero => exact (replace_of_fixed fun _ _ => rfl).symm
  | succ n ih =>
    rw [unfolded_succ, ih, replace_replace]
    simp only [unfolded_succ]

/-- A defined column unfolds to its definition first. -/
theorem unfolded_column (h : f.applied? .plain c = some d) (hq : c.qualifier = none) (rounds : Nat) :
    f.unfolded (rounds + 1) (.column c) = f.unfolded rounds d.expr := by
  rw [unfolded_add]
  show f.unfolded rounds (f.definiens c) = _
  rw [definiens_of_applied h hq]

theorem unfolded_of_free (h : f.Free e) (rounds : Nat) : f.unfolded rounds e = e := by
  induction rounds with
  | zero => rfl
  | succ n ih =>
    rw [unfolded_succ, ih]
    exact replace_of_fixed fun c hc => definiens_of_none (h c hc)

/-- Once nothing defined is left, further rounds change nothing. -/
theorem unfolded_of_le {rounds more : Nat} (h : f.Free (f.unfolded rounds e)) (hle : rounds ≤ more) :
    f.unfolded more e = f.unfolded rounds e := by
  obtain ⟨k, rfl⟩ := Nat.exists_eq_add_of_le' hle
  rw [unfolded_add, unfolded_of_free h]

/-! ### Parts -/

/-- What a column unfolds to is part of what an expression with it unfolds to. -/
theorem mem_unfolded {o : Occurrence} {rounds : Nat} (hc : .column c ∈ e.occurrences)
    (ho : o ∈ (f.unfolded rounds (.column c)).occurrences) : o ∈ (f.unfolded rounds e).occurrences := by
  rw [unfolded_eq]
  exact mem_occurrences_replace.2 (.inr ⟨c, hc, ho⟩)

theorem Free.part {rounds : Nat} (h : f.Free (f.unfolded rounds e)) (hc : .column c ∈ e.occurrences) :
    f.Free (f.unfolded rounds (.column c)) :=
  fun a ha => h a (mem_unfolded hc ha)

theorem OnlyColumns.part (h : f.OnlyColumns e) (hc : .column c ∈ e.occurrences) :
    f.OnlyColumns (.column c) :=
  fun rounds o ho => h rounds o (mem_unfolded hc ho)

theorem OnlyColumns.unqualified (h : f.OnlyColumns (.column c)) (hd : f.applied? .plain c = some d) :
    c.qualifier = none := by
  have hnames : f.NamesByColumns (.column c) := h 0 _ (List.mem_singleton_self _)
  exact hnames.resolve_right (by simp [hd])

/-- What is said of a defined column holds of its definition. -/
theorem OnlyColumns.definition (h : f.OnlyColumns (.column c)) (hd : f.applied? .plain c = some d) :
    f.OnlyColumns d.expr := by
  intro rounds o ho
  rw [← unfolded_column hd (h.unqualified hd)] at ho
  exact h _ o ho

/-! ### The end of the rounds -/

/-- An applied definition is one of those in force. -/
theorem mem_definedColumns (h : f.applied? .plain c = some d) (hq : c.qualifier = none) :
    c ∈ f.definedColumns := by
  obtain ⟨record, field, qualifier⟩ := c
  obtain rfl : qualifier = none := hq
  obtain ⟨s, hs, rfl, hmem, rfl⟩ := Frame.mem_of_applied? h
  exact List.mem_flatMap.2 ⟨s, hs, List.mem_map.2 ⟨d, hmem, rfl⟩⟩

open Classical in
/-- The defined columns that a column leads to. -/
noncomputable def reached (f : Frame) (c : FieldRef) : Finset FieldRef :=
  f.definedColumns.toFinset.filter fun c' => Relation.TransGen f.Refers c c'

open Classical in
/-- A defined column leads to fewer defined columns than there are. -/
theorem reached_lt (hf : f.Acyclic) (hc : c ∈ f.definedColumns) :
    (f.reached c).card < f.definedColumns.length := by
  have hproper : f.reached c ⊂ f.definedColumns.toFinset := by
    refine Finset.filter_ssubset.2 ⟨c, List.mem_toFinset.2 hc, hf c⟩
  exact (Finset.card_lt_card hproper).trans_le f.definedColumns.toFinset_card_le

/-- A defined column leads to fewer defined columns than the column that mentions it. -/
theorem reached_lt_reached {c' : FieldRef} (hf : f.Acyclic) (h : f.Refers c c')
    (hc' : c' ∈ f.definedColumns) : (f.reached c').card < (f.reached c).card := by
  classical
  refine Finset.card_lt_card (Finset.ssubset_iff_of_subset ?_ |>.2 ⟨c', ?_, ?_⟩)
  · intro a ha
    obtain ⟨hmem, hreach⟩ := Finset.mem_filter.1 ha
    exact Finset.mem_filter.2 ⟨hmem, .head h hreach⟩
  · exact Finset.mem_filter.2 ⟨List.mem_toFinset.2 hc', .single h⟩
  · exact fun ha => hf c' (Finset.mem_filter.1 ha).2

/-- After each round, the defined columns that are left lead to fewer others. -/
theorem reached_unfolded (hf : f.Acyclic) (he : f.OnlyColumns e) (rounds : Nat) :
    ∀ {c d}, .column c ∈ (f.unfolded rounds e).occurrences → f.applied? .plain c = some d →
      rounds + (f.reached c).card < f.definedColumns.length := by
  induction rounds with
  | zero =>
    intro c d hc hd
    have hq := (he 0 _ hc).resolve_right (by simp [hd])
    rw [Nat.zero_add]
    exact reached_lt hf (mem_definedColumns hd hq)
  | succ n ih =>
    intro c d hc hd
    have hq := (he (n + 1) _ hc).resolve_right (by simp [hd])
    rw [unfolded_succ] at hc
    obtain ⟨-, hcolumn⟩ | ⟨a, ha, hca⟩ := mem_occurrences_replace.1 hc
    · exact absurd rfl (hcolumn c)
    · cases happ : f.applied? .plain a with
      | none =>
        -- a column that stays is the one found, which has a definition
        rw [definiens_of_none happ] at hca
        cases List.mem_singleton.1 hca
        rw [hd] at happ
        cases happ
      | some b =>
        have haq := (he n _ ha).resolve_right (by simp [happ])
        rw [definiens_of_applied happ haq] at hca
        have hlt := reached_lt_reached hf ⟨b, happ, hca⟩ (mem_definedColumns hd hq)
        have hbound := ih ha happ
        omega

/-- Nothing defined is left after as many rounds as there are definitions. -/
theorem free_inPlace (hf : f.Acyclic) (he : f.OnlyColumns e) : f.Free (f.inPlace e) := by
  intro c hc
  cases hd : f.applied? .plain c with
  | none => rfl
  | some d =>
    have hlt := reached_unfolded hf he _ hc hd
    omega

end Rounds

/-! ### Likeness -/

/-- Expressions that are the same up to what defined columns unfold to in some rounds. -/
def unfolding (f : Frame) (rounds : Nat) : Likeness where
  value v v' := v = v'
  column c e' := e' = f.unfolded rounds (.column c) ∧ f.Free e' ∧ f.OnlyColumns (.column c)
  reference c := f.NamesByColumns (.reference c)
  key r := f.NamesByColumns (.key r)
  projection r names := f.NamesByColumns (.projection r names)
  defines r field := f.NamesByColumns (.definition r field)

theorem like_unfolded {f : Frame} {e : Expr} {rounds : Nat} (he : f.OnlyColumns e)
    (hfree : f.Free (f.unfolded rounds e)) : e.Like (f.unfolding rounds) (f.unfolded rounds e) := by
  rw [unfolded_eq]
  refine like_replace (fun _ => rfl) fun o ho => ?_
  cases o with
  | column c => exact ⟨rfl, hfree.part ho, he.part ho⟩
  | reference c => exact he 0 _ ho
  | key r => exact he 0 _ ho
  | projection r names => exact he 0 _ ho
  | definition r field => exact he 0 _ ho

end Frame

end RecordSql
