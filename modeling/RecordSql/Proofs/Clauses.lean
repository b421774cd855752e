import Mathlib.Data.List.Count
import Mathlib.Data.List.Nodup
import RecordSql.Statement
import RecordSql.Proofs.Decision

/-!
# Selects from clauses in any order

A select is made of its clauses one after the other, and a clause that has come already is refused. It is
the select that setting one clause after the other gives, where nothing is refused, and the order of the
clauses plays no part as long as joins keep their order and definitions keep theirs.

- `Select.withClause`: a clause that is set, whatever was there before.
- `Rearranged`: the same clauses in another order, with joins and definitions in the order they had.
- `addClause_decides`, `foldlM_addClause_decides`: what one clause does to a select, and what a list of
  clauses does.
- `foldl_withClause_rearranged`: the clauses of each kind alone determine the select that is set.
- `ofClauses_order`: when there is a select, which one, and that every other order agrees.
-/

namespace RecordSql

/-! ### Kinds of clauses -/

/-- What a clause says something about. -/
inductive ClauseKind
  | single (k : SingleClause)
  | join
  | definition
  deriving DecidableEq

/-- The kind of a clause. -/
def SelectClause.kind : SelectClause → ClauseKind
  | .condition _ => .single .condition
  | .sources _ => .single .source
  | .groupBy _ => .single .groupBy
  | .orderBy _ => .single .orderBy
  | .limit _ => .single .limit
  | .forUpdate => .single .forUpdate
  | .join _ => .join
  | .definition _ => .definition

/-- The same clauses in another order: joins keep their order among themselves, and so do definitions. -/
structure Rearranged (clauses others : List SelectClause) : Prop where
  perm : clauses.Perm others
  joins : clauses.filter (·.kind = .join) = others.filter (·.kind = .join)
  definitions : clauses.filter (·.kind = .definition) = others.filter (·.kind = .definition)

namespace SelectClause

theorem single?_eq_some_iff {c : SelectClause} {k : SingleClause} :
    c.single? = some k ↔ c.kind = .single k := by
  cases c <;> simp [single?, kind]

/-- How often a clause comes that a select has at most once. -/
theorem count_filterMap_single? (clauses : List SelectClause) (k : SingleClause) :
    (clauses.filterMap single?).count k = (clauses.filter (·.kind = .single k)).length := by
  induction clauses with
  | nil => rfl
  | cons c clauses ih =>
    by_cases hk : c.kind = .single k
    · have hc : c.single? = some k := single?_eq_some_iff.2 hk
      simp [hk, hc, ih]
    · have hc : c.single? ≠ some k := fun h => hk (single?_eq_some_iff.1 h)
      cases hs : c.single? with
      | none => simp [hk, hs, ih]
      | some k' =>
        have hne : k' ≠ k := fun h => hc (h ▸ hs)
        simp [hk, hs, ih, hne]

end SelectClause

namespace Select

open SelectClause (single? atMostOnce)

/-! ### One clause -/

/-- A select with one more clause: joins and definitions add up, any other clause takes the place of the
one that was there. -/
def withClause (s : Select) : SelectClause → Select
  | .condition c => { s with condition := some c }
  | .sources rs => { s with sources := some rs }
  | .groupBy ts => { s with groupBy := some ts }
  | .orderBy ts => { s with orderBy := some ts }
  | .limit l => { s with limit := some l }
  | .forUpdate => { s with forUpdate := true }
  | .join j => { s with joins := s.joins ++ [j] }
  | .definition d => { s with definitions := s.definitions ++ [d] }

/-- Whether a select has a clause of those that it has at most once. -/
def has (s : Select) : SingleClause → Bool
  | .condition => s.condition.isSome
  | .source => s.sources.isSome
  | .groupBy => s.groupBy.isSome
  | .orderBy => s.orderBy.isSome
  | .limit => s.limit.isSome
  | .forUpdate => s.forUpdate

theorem has_withClause (s : Select) (c : SelectClause) (k : SingleClause) :
    (s.withClause c).has k = true ↔ c.single? = some k ∨ s.has k = true := by
  cases c <;> cases k <;> simp [withClause, has, SelectClause.single?]

/-- A clause is refused if the select has it already, and is set if not. -/
theorem addClause_eq (s : Select) (c : SelectClause) :
    s.addClause c =
      match c.single? with
      | some k => if s.has k then .error (.duplicateClause k) else .ok (s.withClause c)
      | none => .ok (s.withClause c) := by
  cases c with
  | condition c => cases h : s.condition <;> simp [addClause, single?, atMostOnce, has, withClause, h]
  | sources rs => cases h : s.sources <;> simp [addClause, single?, atMostOnce, has, withClause, h]
  | groupBy ts => cases h : s.groupBy <;> simp [addClause, single?, atMostOnce, has, withClause, h]
  | orderBy ts => cases h : s.orderBy <;> simp [addClause, single?, atMostOnce, has, withClause, h]
  | limit l => cases h : s.limit <;> simp [addClause, single?, atMostOnce, has, withClause, h]
  | forUpdate => rfl
  | join j => rfl
  | definition d => rfl

theorem addClause_decides (s : Select) (c : SelectClause) :
    Decides (∀ k, c.single? = some k → s.has k = false) (fun t => t = s.withClause c)
      (fun e => ∃ k, e = .duplicateClause k ∧ c.single? = some k ∧ s.has k = true) (s.addClause c) := by
  rw [addClause_eq]
  cases hc : c.single? with
  | none => exact ⟨nofun, rfl⟩
  | some k =>
    show Decides _ _ _ (if s.has k then _ else _)
    by_cases hk : s.has k
    · rw [if_pos hk]
      refine ⟨fun h => ?_, k, rfl, rfl, hk⟩
      simp [h k rfl] at hk
    · rw [if_neg hk]
      refine ⟨?_, rfl⟩
      rintro k ⟨⟩
      simpa using hk

/-- Clauses of different kinds can be set in either order. -/
theorem withClause_comm (s : Select) {c d : SelectClause} (h : c.kind ≠ d.kind) :
    (s.withClause c).withClause d = (s.withClause d).withClause c := by
  cases c <;> cases d <;> first | rfl | exact absurd rfl h

/-! ### A list of clauses -/

/-- How often a clause comes, counting the one that a select has already. -/
def clauseCount (s : Select) (clauses : List SelectClause) (k : SingleClause) : Nat :=
  (s.has k).toNat + (clauses.filterMap single?).count k

theorem clauseCount_withClause_le (s : Select) (c : SelectClause) (clauses : List SelectClause)
    (k : SingleClause) : (s.withClause c).clauseCount clauses k ≤ s.clauseCount (c :: clauses) k := by
  have hhas := has_withClause s c k
  by_cases hc : c.single? = some k
  · have := Bool.toNat_le ((s.withClause c).has k)
    simp only [clauseCount, List.filterMap_cons_some hc, List.count_cons_self]
    omega
  · have hsame : (s.withClause c).has k = s.has k := by
      rw [Bool.eq_iff_iff, hhas, or_iff_right hc]
    have hsub : (clauses.filterMap single?).count k ≤ ((c :: clauses).filterMap single?).count k :=
      ((List.sublist_cons_self c clauses).filterMap single?).count_le k
    simp only [clauseCount, hsame]
    omega

/-- Clauses are accepted if none of them comes twice, with the select's own ones, and what they make of
the select is what setting them makes of it. Otherwise one that comes twice is at fault. -/
theorem foldlM_addClause_decides (clauses : List SelectClause) : ∀ s : Select,
    Decides
      ((clauses.filterMap single?).Nodup ∧ ∀ k ∈ clauses.filterMap single?, s.has k = false)
      (fun t => t = clauses.foldl withClause s)
      (fun e => ∃ k, e = .duplicateClause k ∧ 2 ≤ s.clauseCount clauses k)
      (clauses.foldlM addClause s) := by
  induction clauses with
  | nil =>
    intro s
    exact ⟨by simp, rfl⟩
  | cons c clauses ih =>
    intro s
    have first : Decides (∀ k, c.single? = some k → s.has k = false) (fun t => t = s.withClause c)
        (fun e => ∃ k, e = .duplicateClause k ∧ 2 ≤ s.clauseCount (c :: clauses) k)
        (s.addClause c) := by
      refine (addClause_decides s c).mono Iff.rfl (fun _ => id) ?_
      rintro e ⟨k, rfl, hc, hs⟩
      refine ⟨k, rfl, ?_⟩
      simp only [clauseCount, hs, List.filterMap_cons_some hc, List.count_cons_self, Bool.toNat_true]
      omega
    have rest : ∀ t, (∀ k, c.single? = some k → s.has k = false) → t = s.withClause c →
        Decides ((clauses.filterMap single?).Nodup ∧
            ∀ k ∈ clauses.filterMap single?, (s.withClause c).has k = false)
          (fun u => u = (c :: clauses).foldl withClause s)
          (fun e => ∃ k, e = .duplicateClause k ∧ 2 ≤ s.clauseCount (c :: clauses) k)
          (clauses.foldlM addClause t) := by
      rintro t - rfl
      refine (ih (s.withClause c)).mono Iff.rfl (fun _ => id) ?_
      rintro e ⟨k, rfl, hk⟩
      exact ⟨k, rfl, Nat.le_trans hk (clauseCount_withClause_le s c clauses k)⟩
    rw [List.foldlM_cons]
    refine (first.bind rest).congr ?_
    -- the select has the clause once it is set, so that no later one may be of its kind
    have later : ∀ k, (s.withClause c).has k = false ↔ c.single? ≠ some k ∧ s.has k = false := by
      intro k
      have := has_withClause s c k
      grind
    simp only [later]
    cases hc : c.single? with
    | none => simp [hc]
    | some k =>
      simp only [List.filterMap_cons_some hc, List.nodup_cons, List.forall_mem_cons]
      constructor
      · rintro ⟨hs, hn, hall⟩
        exact ⟨⟨fun hk => (hall k hk).1 rfl, hn⟩, hs k rfl, fun k' hk' => (hall k' hk').2⟩
      · rintro ⟨⟨hk, hn⟩, hs, hall⟩
        refine ⟨fun k' h => by cases h; exact hs, hn, fun k' hk' => ⟨?_, hall k' hk'⟩⟩
        rintro ⟨⟩
        exact hk hk'

/-- A clause can be set before clauses of other kinds as well as after them. -/
theorem foldl_withClause_past (c : SelectClause) (clauses : List SelectClause)
    (h : ∀ d ∈ clauses, d.kind ≠ c.kind) : ∀ s : Select,
    (clauses.foldl withClause s).withClause c = clauses.foldl withClause (s.withClause c) := by
  induction clauses with
  | nil =>
    intro s
    rfl
  | cons d clauses ih =>
    intro s
    obtain ⟨hd, hclauses⟩ := List.forall_mem_cons.1 h
    show (clauses.foldl withClause (s.withClause d)).withClause c =
      clauses.foldl withClause ((s.withClause c).withClause d)
    rw [ih hclauses, withClause_comm s hd]

/-- The clauses of each kind, in their order, determine the select that is set. -/
theorem foldl_withClause_rearranged (clauses : List SelectClause) :
    ∀ (others : List SelectClause) (s : Select),
      (∀ k, clauses.filter (·.kind = k) = others.filter (·.kind = k)) →
        clauses.foldl withClause s = others.foldl withClause s := by
  induction clauses with
  | nil =>
    intro others s h
    cases others with
    | nil => rfl
    | cons d others => simpa using h d.kind
  | cons c clauses ih =>
    intro others s h
    -- the first of the other clauses of the same kind is the same clause
    have hfirst := h c.kind
    rw [List.filter_cons_of_pos (by simp)] at hfirst
    obtain ⟨before, after, rfl, hbefore, -, hafter⟩ := List.filter_eq_cons_iff.1 hfirst.symm
    have hpast : ∀ d ∈ before, d.kind ≠ c.kind := fun d hd => by simpa using hbefore d hd
    have hnone : before.filter (·.kind = c.kind) = [] := by simpa using hpast
    have hrest : ∀ k, clauses.filter (·.kind = k) = (before ++ after).filter (·.kind = k) := by
      intro k
      by_cases hk : c.kind = k
      · subst hk
        rw [List.filter_append, hnone, List.nil_append, hafter]
      · simpa [hk] using h k
    calc (c :: clauses).foldl withClause s
        = (before ++ after).foldl withClause (s.withClause c) := ih _ _ hrest
      _ = after.foldl withClause (before.foldl withClause (s.withClause c)) := List.foldl_append
      _ = after.foldl withClause ((before.foldl withClause s).withClause c) := by
          rw [foldl_withClause_past c before hpast]
      _ = (before ++ c :: after).foldl withClause s := by simp [List.foldl_append]

end Select

/-! ### Clauses in another order -/

theorem eq_of_perm_of_length_le_one {α : Type} {l l' : List α} (h : l.Perm l') (hl : l.length ≤ 1) :
    l = l' := by
  cases l with
  | nil => exact (List.nil_perm.1 h).symm
  | cons a l =>
    obtain rfl : l = [] := by simpa using hl
    exact List.singleton_perm.1 h

/-- If no clause comes twice that may come only once, then every kind of clause keeps its order. -/
theorem Rearranged.filter_eq {clauses others : List SelectClause} (h : Rearranged clauses others)
    (hn : (clauses.filterMap SelectClause.single?).Nodup) (k : ClauseKind) :
    clauses.filter (·.kind = k) = others.filter (·.kind = k) := by
  cases k with
  | join => exact h.joins
  | definition => exact h.definitions
  | single k =>
    have hperm := h.perm.filter (·.kind = .single k)
    have hcount : (clauses.filter (·.kind = .single k)).length ≤ 1 := by
      rw [← SelectClause.count_filterMap_single?]
      exact List.nodup_iff_count_le_one.1 hn k
    exact eq_of_perm_of_length_le_one hperm hcount

namespace Select

variable (record : RecordType) (fields : List String) (clauses : List SelectClause)

theorem ofClauses_decides :
    Decides (clauses.filterMap SelectClause.single?).Nodup
      (fun s => s = clauses.foldl withClause { record := record, fields := fields })
      (fun e => ∃ k, e = .duplicateClause k ∧ 2 ≤ (clauses.filterMap SelectClause.single?).count k)
      (ofClauses record fields clauses) := by
  have hfresh : ∀ k, has { record := record, fields := fields } k = false := by
    intro k
    cases k <;> rfl
  refine (foldlM_addClause_decides clauses { record := record, fields := fields }).mono
    (and_iff_left fun k _ => hfresh k) (fun _ => id) ?_
  rintro e ⟨k, rfl, hk⟩
  refine ⟨k, rfl, ?_⟩
  simpa [clauseCount, hfresh k] using hk

/-- The order of clauses plays no part. A select is refused exactly if a clause comes twice that may come
only once, and then in every order of the clauses. If it is not refused, it is the select that setting
the clauses one by one gives, and it is the same for every order that keeps the order of the joins and
the order of the definitions. -/
theorem ofClauses_order :
    ((∃ k, ofClauses record fields clauses = .error (.duplicateClause k)) ↔
      ∃ k, 2 ≤ (clauses.filterMap SelectClause.single?).count k) ∧
    (∀ s, ofClauses record fields clauses = .ok s → ∀ others, Rearranged clauses others →
      ofClauses record fields others = .ok s ∧
        s = others.foldl withClause { record := record, fields := fields }) ∧
    (∀ e, ofClauses record fields clauses = .error e → ∀ others, clauses.Perm others →
      ∃ k, ofClauses record fields others = .error (.duplicateClause k) ∧
        2 ≤ (others.filterMap SelectClause.single?).count k) := by
  have decided := ofClauses_decides record fields clauses
  refine ⟨⟨?_, ?_⟩, ?_, ?_⟩
  · rintro ⟨k, hk⟩
    obtain ⟨k', -, hk'⟩ := (decided.error hk).2
    exact ⟨k', hk'⟩
  · rintro ⟨k, hk⟩
    have hn : ¬(clauses.filterMap SelectClause.single?).Nodup := by
      intro hn
      have := List.nodup_iff_count_le_one.1 hn k
      omega
    cases h : ofClauses record fields clauses with
    | ok s => exact absurd (decided.ok h).1 hn
    | error e =>
      obtain ⟨k', rfl, -⟩ := (decided.error h).2
      exact ⟨k', rfl⟩
  · intro s hs others h
    obtain ⟨hn, rfl⟩ := decided.ok hs
    have hothers : (others.filterMap SelectClause.single?).Nodup :=
      (h.perm.filterMap SelectClause.single?).nodup_iff.1 hn
    obtain ⟨t, ht⟩ := (ofClauses_decides record fields others).exists_iff.2 hothers
    have hset : clauses.foldl withClause { record := record, fields := fields } =
        others.foldl withClause { record := record, fields := fields } :=
      foldl_withClause_rearranged clauses others _ (h.filter_eq hn)
    rw [ht, hset, ((ofClauses_decides record fields others).ok ht).2]
    exact ⟨rfl, rfl⟩
  · intro e he others h
    have hn : ¬(others.filterMap SelectClause.single?).Nodup := by
      rw [← (h.filterMap SelectClause.single?).nodup_iff]
      exact (decided.error he).1
    cases ho : ofClauses record fields others with
    | ok s => exact absurd ((ofClauses_decides record fields others).ok ho).1 hn
    | error e' =>
      obtain ⟨k, rfl, hk⟩ := ((ofClauses_decides record fields others).error ho).2
      exact ⟨k, rfl, hk⟩

example (first second : Limit) :
    ofClauses record [] [.limit first, .forUpdate, .limit second] = .error (.duplicateClause .limit) :=
  rfl

end Select

end RecordSql
