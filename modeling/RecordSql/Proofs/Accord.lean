import RecordSql.Proofs.Outcome

/-!
# Runs that miss no record

A computation may fail for many reasons, but it should not fail for a record that it asks for and that is
not registered. Two runs accord if that holds of both and if they fail alike.

- `FailsOnly`: a computation that fails for errors of some kind only.
- `Informed`: a computation that misses no record.
- `Accord`: results are related, or both runs fail with one error, which is not that of a missing record.
- `FailsOnly.bind`, `FailsOnly.forM`, `FailsOnly.foldlM`: computations from their steps.
- `Accord.bind`, `Accord.mapM`: according steps make according computations.
-/

namespace RecordSql

variable {α β γ δ ι : Type}

/-! ### Single runs -/

/-- A computation that fails for errors of some kind only. -/
def FailsOnly (kind : Error → Prop) (x : Except Error α) : Prop :=
  ∀ e, x = .error e → kind e

namespace FailsOnly

variable {kind : Error → Prop}

theorem ok (a : α) : FailsOnly kind (.ok a : Except Error α) :=
  fun _ h => nomatch h

theorem error {e : Error} (h : kind e) : FailsOnly kind (.error e : Except Error α) := by
  rintro _ ⟨⟩
  exact h

theorem bind {x : Except Error α} {f : α → Except Error β} (hx : FailsOnly kind x)
    (hf : ∀ a, x = .ok a → FailsOnly kind (f a)) : FailsOnly kind (x >>= f) := by
  cases x with
  | ok a => exact hf a rfl
  | error e => exact error (hx e rfl)

theorem map {x : Except Error α} {f : α → β} (hx : FailsOnly kind x) : FailsOnly kind (x.map f) := by
  cases x with
  | ok a => exact ok (f a)
  | error e => exact error (hx e rfl)

theorem forM {f : ι → Except Error Unit} {l : List ι} (h : ∀ i ∈ l, FailsOnly kind (f i)) :
    FailsOnly kind (l.forM f) := by
  induction l with
  | nil => exact ok ()
  | cons i l ih =>
    obtain ⟨hfirst, hrest⟩ := List.forall_mem_cons.1 h
    exact bind hfirst fun _ _ => ih hrest

theorem mapM {f : ι → Except Error α} {l : List ι} (h : ∀ i ∈ l, FailsOnly kind (f i)) :
    FailsOnly kind (l.mapM f) := by
  induction l with
  | nil =>
    rw [List.mapM_nil]
    exact ok []
  | cons i l ih =>
    obtain ⟨hfirst, hrest⟩ := List.forall_mem_cons.1 h
    rw [List.mapM_cons]
    exact bind hfirst fun a _ => bind (ih hrest) fun as _ => ok (a :: as)

theorem foldlM {f : α → ι → Except Error α} {l : List ι}
    (h : ∀ a, ∀ i ∈ l, FailsOnly kind (f a i)) : ∀ a, FailsOnly kind (l.foldlM f a) := by
  induction l with
  | nil => exact fun a => ok a
  | cons i l ih =>
    intro a
    have hrest : ∀ a, ∀ j ∈ l, FailsOnly kind (f a j) := fun a j hj =>
      h a j (List.mem_cons_of_mem i hj)
    rw [List.foldlM_cons]
    exact bind (h a i List.mem_cons_self) fun next _ => ih hrest next

end FailsOnly

/-- A computation that does not fail for a record that is not registered. -/
def Informed (x : Except Error α) : Prop :=
  ∀ r, x ≠ .error (.unknownRecord r)

theorem informed_iff {x : Except Error α} :
    Informed x ↔ FailsOnly (fun e => ∀ r, e ≠ .unknownRecord r) x :=
  ⟨fun h e he r hr => h r (by rw [he, hr]), fun h r hr => h _ hr r rfl⟩

namespace Informed

theorem ok (a : α) : Informed (.ok a : Except Error α) :=
  fun _ h => nomatch h

theorem bind {x : Except Error α} {f : α → Except Error β} (hx : Informed x)
    (hf : ∀ a, x = .ok a → Informed (f a)) : Informed (x >>= f) :=
  informed_iff.2 <| (informed_iff.1 hx).bind fun a ha => informed_iff.1 (hf a ha)

theorem map {x : Except Error α} {f : α → β} (hx : Informed x) : Informed (x.map f) :=
  informed_iff.2 (informed_iff.1 hx).map

theorem mapM {f : ι → Except Error α} {l : List ι} (h : ∀ i ∈ l, Informed (f i)) :
    Informed (l.mapM f) :=
  informed_iff.2 <| .mapM fun i hi => informed_iff.1 (h i hi)

end Informed

/-! ### Two runs -/

/-- Two runs whose results are related, or that fail both with one error; no record is missed. -/
inductive Accord (rel : α → β → Prop) : Except Error α → Except Error β → Prop
  | ok {a b} : rel a b → Accord rel (.ok a) (.ok b)
  | error {e} : (∀ r, e ≠ .unknownRecord r) → Accord rel (.error e) (.error e)

namespace Accord

variable {rel : α → β → Prop} {rel' : γ → δ → Prop}

theorem bind {x : Except Error α} {y : Except Error β} {f : α → Except Error γ}
    {g : β → Except Error δ} (hxy : Accord rel x y) (hfg : ∀ a b, rel a b → Accord rel' (f a) (g b)) :
    Accord rel' (x >>= f) (y >>= g) := by
  cases hxy with
  | ok h => exact hfg _ _ h
  | error he => exact .error he

theorem map {x : Except Error α} {y : Except Error β} {f : α → γ} {g : β → δ} (hxy : Accord rel x y)
    (hfg : ∀ a b, rel a b → rel' (f a) (g b)) : Accord rel' (x.map f) (y.map g) := by
  cases hxy with
  | ok h => exact .ok (hfg _ _ h)
  | error he => exact .error he

/-- A step that both runs take. -/
theorem refl {x : Except Error α} (hx : Informed x) : Accord (· = ·) x x := by
  cases x with
  | ok a => exact .ok rfl
  | error e => exact .error fun r h => hx r (congrArg Except.error h)

/-- A common first step, followed by steps that accord on its result. -/
theorem same {x : Except Error α} {f : α → Except Error γ} {g : α → Except Error δ}
    (hx : Informed x) (hfg : ∀ a, x = .ok a → Accord rel' (f a) (g a)) :
    Accord rel' (x >>= f) (x >>= g) := by
  cases x with
  | ok a => exact hfg a rfl
  | error e => exact .error fun r h => hx r (congrArg Except.error h)

theorem mono {rel₁ rel₂ : α → β → Prop} {x : Except Error α} {y : Except Error β}
    (h : Accord rel₁ x y) (hrel : ∀ a b, rel₁ a b → rel₂ a b) : Accord rel₂ x y := by
  cases h with
  | ok h => exact .ok (hrel _ _ h)
  | error he => exact .error he

/-- Items that accord one by one. -/
theorem mapM {f : ι → Except Error α} {g : ι → Except Error β} {l : List ι}
    (h : ∀ i ∈ l, Accord rel (f i) (g i)) : Accord (List.Forall₂ rel) (l.mapM f) (l.mapM g) := by
  induction l with
  | nil =>
    rw [List.mapM_nil, List.mapM_nil]
    exact .ok .nil
  | cons i l ih =>
    obtain ⟨hfirst, hrest⟩ := List.forall_mem_cons.1 h
    rw [List.mapM_cons, List.mapM_cons]
    refine bind hfirst fun a b hab => ?_
    refine bind (ih hrest) fun as bs hs => ?_
    exact .ok (.cons hab hs)

/-- The first of two runs that accord misses no record. -/
theorem informed {x : Except Error α} {y : Except Error β} (h : Accord rel x y) : Informed x := by
  cases h with
  | ok _ => exact Informed.ok _
  | error he =>
    intro r h
    exact he r (Except.error.inj h)

/-- Runs that accord up to a function have the same results under it. -/
theorem map_eq {f : α → γ} {g : β → γ} {x : Except Error α} {y : Except Error β}
    (h : Accord (fun a b => f a = g b) x y) : x.map f = y.map g := by
  cases h with
  | ok hab => exact congrArg Except.ok hab
  | error _ => rfl

end Accord

end RecordSql
