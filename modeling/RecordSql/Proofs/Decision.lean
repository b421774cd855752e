import RecordSql.Proofs.Outcome

/-!
# Computations that decide a rule

A check gives a result if its rule holds, and an error if it does not. What is known of single checks is
known of checks that follow each other: together they decide that all rules hold.

- `Decides`: what a check gives if its rule holds, and if it does not.
- `Decides.guard`, `Decides.bind`, `Decides.result`: checks that follow each other, and what is made of
  their results.
- `Decides.mapM`: a check of all items of a list, which fails at the first item that breaks its rule.
-/

namespace RecordSql

variable {α β ι : Type}

/-- A computation gives a good result and its rule holds, or it fails as it should and its rule does not
hold. -/
def Decides (rule : Prop) (good : α → Prop) (bad : Error → Prop) : Except Error α → Prop
  | .ok a => rule ∧ good a
  | .error e => ¬rule ∧ bad e

namespace Decides

variable {rule rule' : Prop} {good : α → Prop} {good' : β → Prop} {bad bad' : Error → Prop}
  {x : Except Error α}

/-- There is a result exactly if the rule holds. -/
theorem exists_iff (h : Decides rule good bad x) : (∃ a, x = .ok a) ↔ rule := by
  cases x with
  | ok a => exact iff_of_true ⟨a, rfl⟩ h.1
  | error e => exact iff_of_false nofun h.1

theorem ok {a : α} (h : Decides rule good bad x) (hx : x = .ok a) : rule ∧ good a := by
  subst hx
  exact h

theorem error {e : Error} (h : Decides rule good bad x) (hx : x = .error e) : ¬rule ∧ bad e := by
  subst hx
  exact h

/-- The same rule in other words, with less said of results and errors. -/
theorem mono {good₁ : α → Prop} (h : Decides rule good bad x) (hrule : rule ↔ rule')
    (hgood : ∀ a, good a → good₁ a) (hbad : ∀ e, bad e → bad' e) : Decides rule' good₁ bad' x := by
  cases x with
  | ok a => exact ⟨hrule.1 h.1, hgood a h.2⟩
  | error e => exact ⟨mt hrule.2 h.1, hbad e h.2⟩

theorem congr (h : Decides rule good bad x) (hrule : rule ↔ rule') : Decides rule' good bad x :=
  h.mono hrule (fun _ => id) fun _ => id

/-- A check in front of another one. -/
theorem guard {c : Prop} [Decidable c] {e : Error} (hbad : c → bad e) (h : ¬c → Decides rule good bad x) :
    Decides (¬c ∧ rule) good bad (if c then .error e else x) := by
  split
  · rename_i hc
    exact ⟨fun hrule => hrule.1 hc, hbad hc⟩
  · rename_i hc
    exact (h hc).congr (and_iff_right hc).symm

/-- A check whose result is checked further. -/
theorem bind {f : α → Except Error β} (h : Decides rule good bad x)
    (hf : ∀ a, rule → good a → Decides rule' good' bad (f a)) :
    Decides (rule ∧ rule') good' bad (x >>= f) := by
  cases x with
  | ok a => exact (hf a h.1 h.2).congr (and_iff_right h.1).symm
  | error e => exact ⟨fun hrule => h.1 hrule.1, h.2⟩

/-- A check whose result is used without a further check. -/
theorem result {f : α → β} (h : Decides rule good bad x) (hf : ∀ a, rule → good a → good' (f a)) :
    Decides rule good' bad (x >>= fun a => .ok (f a)) := by
  cases x with
  | ok a => exact ⟨h.1, hf a h.1 h.2⟩
  | error e => exact h

/-- A check whose result is only written in another way. -/
theorem map {f : α → β} (h : Decides rule good bad x) (hf : ∀ a, rule → good a → good' (f a)) :
    Decides rule good' bad (x.map f) := by
  cases x with
  | ok a => exact ⟨h.1, hf a h.1 h.2⟩
  | error e => exact h

/-- The items of a list are checked one by one, and the first one that breaks its rule is the fault. -/
theorem mapM {rule : ι → Prop} {good : ι → α → Prop} {bad : ι → Error → Prop} {f : ι → Except Error α} :
    ∀ {l : List ι}, (∀ i ∈ l, Decides (rule i) (good i) (bad i) (f i)) →
      Decides (∀ i ∈ l, rule i) (List.Forall₂ good l)
        (fun e => ∃ before i after, l = before ++ i :: after ∧ (∀ j ∈ before, rule j) ∧ ¬rule i ∧ bad i e)
        (l.mapM f)
  | [], _ => ⟨List.forall_mem_nil rule, .nil⟩
  | i :: l, h => by
    obtain ⟨hfirst, hrest⟩ := List.forall_mem_cons.1 h
    have ih := mapM hrest
    rw [List.mapM_cons]
    cases hi : f i with
    | error e =>
      obtain ⟨hrule, hbad⟩ := hfirst.error hi
      exact ⟨fun hall => hrule (hall i List.mem_cons_self),
        [], i, l, rfl, List.forall_mem_nil rule, hrule, hbad⟩
    | ok a =>
      obtain ⟨hrule, hgood⟩ := hfirst.ok hi
      cases hl : l.mapM f with
      | ok as =>
        obtain ⟨hall, hgoods⟩ := ih.ok hl
        exact ⟨List.forall_mem_cons.2 ⟨hrule, hall⟩, .cons hgood hgoods⟩
      | error e =>
        obtain ⟨hnot, before, j, after, rfl, hbefore, hj, hbad⟩ := ih.error hl
        exact ⟨fun hall => hnot (List.forall_mem_cons.1 hall).2,
          i :: before, j, after, rfl, List.forall_mem_cons.2 ⟨hrule, hbefore⟩, hj, hbad⟩

end Decides

end RecordSql
