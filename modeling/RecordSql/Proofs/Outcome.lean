import Mathlib.Data.List.Forall2
import RecordSql.Error

/-!
# Outcomes of two runs

Two computations that may fail are compared result by result and failure by failure. What a relation of
outcomes needs is that it goes through the steps of a computation.

- `Failures`: how the failures of two runs compare.
- `Matches`: results are related, and failures compare.
- `Matches.bind`: matching steps make matching computations.
-/

namespace RecordSql

variable {α β γ δ : Type}

/-! ### Steps of a computation that may fail -/

@[simp] theorem ok_bind (a : α) (f : α → Except Error β) : (Except.ok a >>= f) = f a := rfl

@[simp] theorem error_bind (e : Error) (f : α → Except Error β) :
    (Except.error e >>= f) = .error e := rfl

@[simp] theorem pure_eq_ok (a : α) : (pure a : Except Error α) = .ok a := rfl

@[simp] theorem throw_eq_error (e : Error) : (throw e : Except Error α) = .error e := rfl

@[simp] theorem map_ok (f : α → β) (a : α) : (f <$> (Except.ok a : Except Error α)) = .ok (f a) := rfl

@[simp] theorem map_error (f : α → β) (e : Error) :
    (f <$> (Except.error e : Except Error α)) = .error e := rfl

/-- A computation that gives a result has taken its first step. -/
theorem bind_eq_ok {ε : Type} {x : Except ε α} {f : α → Except ε β} {b : β} (h : (x >>= f) = .ok b) :
    ∃ a, x = .ok a ∧ f a = .ok b := by
  cases x with
  | ok a => exact ⟨a, rfl, h⟩
  | error e => cases h

theorem map_eq_ok {x : Except Error α} {f : α → β} {b : β} (h : f <$> x = .ok b) :
    ∃ a, x = .ok a ∧ f a = b := by
  cases x with
  | ok a => exact ⟨a, rfl, Except.ok.inj h⟩
  | error e => cases h

/-- Items that all give results give them one by one. -/
theorem mapM_eq_ok {ε : Type} {f : α → Except ε β} :
    ∀ {l : List α} {bs : List β}, l.mapM f = .ok bs → List.Forall₂ (fun a b => f a = .ok b) l bs
  | [], _, h => by
    rw [List.mapM_nil] at h
    cases h
    exact .nil
  | a :: l, _, h => by
    rw [List.mapM_cons] at h
    obtain ⟨b, hb, h⟩ := bind_eq_ok h
    obtain ⟨bs, hbs, h⟩ := bind_eq_ok h
    cases h
    exact .cons hb (mapM_eq_ok hbs)

/-- What is paired with the items of a list is paired with one of them. -/
theorem exists_of_forall₂ {rel : α → β → Prop} {as : List α} {bs : List β} (h : List.Forall₂ rel as bs) :
    ∀ b ∈ bs, ∃ a ∈ as, rel a b := by
  induction h with
  | nil => exact List.forall_mem_nil _
  | @cons a b as bs hab _ ih =>
    refine List.forall_mem_cons.2 ⟨⟨a, List.mem_cons_self, hab⟩, fun b' hb => ?_⟩
    obtain ⟨a', ha', hab'⟩ := ih b' hb
    exact ⟨a', List.mem_cons_of_mem a ha', hab'⟩

/-- A result of some item is the result of one of them. -/
theorem mem_of_mapM {f : α → Except Error β} {l : List α} {bs : List β} (h : l.mapM f = .ok bs) :
    ∀ b ∈ bs, ∃ a ∈ l, f a = .ok b :=
  exists_of_forall₂ (mapM_eq_ok h)

theorem forM_eq_ok {f : α → Except Error Unit} {l : List α} (h : l.forM f = .ok ()) :
    ∀ a ∈ l, f a = .ok () := by
  induction l with
  | nil => exact List.forall_mem_nil _
  | cons a l ih =>
    obtain ⟨_, ha, h⟩ := bind_eq_ok h
    exact List.forall_mem_cons.2 ⟨ha, ih h⟩

/-! ### Failures -/

/-- How the failures of two runs compare; no failure stands for a result. -/
structure Failures where
  agree : Option Error → Option Error → Prop
  agree_self : ∀ e, agree (some e) (some e)
  /-- A failure of the first run that excuses a result of the second one excuses whatever comes after. -/
  agree_any : ∀ {e o}, agree (some e) none → agree (some e) o
  /-- The same, the runs exchanged. -/
  any_agree : ∀ {e o}, agree none (some e) → agree o (some e)

namespace Failures

/-- Both runs fail alike. -/
def same : Failures where
  agree o o' := o = o'
  agree_self _ := rfl
  agree_any h := nomatch h
  any_agree h := nomatch h

/-- The first run may give up on the depth of definitions; otherwise both fail alike. -/
def firstDeep : Failures where
  agree o o' := o = some .circularDefinition ∨ o = o'
  agree_self _ := .inr rfl
  agree_any h := .inl (h.resolve_right nofun)
  any_agree h := h.elim nofun nofun

/-- The second run may give up on the depth of definitions; otherwise both fail alike. -/
def secondDeep : Failures where
  agree o o' := o' = some .circularDefinition ∨ o = o'
  agree_self _ := .inr rfl
  agree_any h := h.elim nofun nofun
  any_agree h := .inl (h.resolve_right nofun)

end Failures

/-! ### Matching outcomes -/

/-- Results are related by `rel`, and failures compare as `fails` says. -/
def Matches (fails : Failures) (rel : α → β → Prop) : Except Error α → Except Error β → Prop
  | .ok a, .ok b => rel a b
  | .ok _, .error e => fails.agree none (some e)
  | .error e, .ok _ => fails.agree (some e) none
  | .error e, .error e' => fails.agree (some e) (some e')

/-- A computation that does not give up on the depth of definitions. -/
def Settles (x : Except Error α) : Prop :=
  x ≠ .error .circularDefinition

namespace Matches

variable {fails : Failures} {rel : α → β → Prop} {rel' : γ → δ → Prop}

theorem bindOk {x : Except Error α} {y : Except Error β} {f : α → Except Error γ}
    {g : β → Except Error δ} (hxy : Matches fails rel x y)
    (hfg : ∀ a b, x = .ok a → rel a b → Matches fails rel' (f a) (g b)) :
    Matches fails rel' (x >>= f) (y >>= g) := by
  match x, y, hxy with
  | .ok a, .ok b, h => exact hfg a b rfl h
  | .ok a, .error e, h =>
    show Matches fails rel' (f a) (.error e)
    cases f a with
    | ok _ => exact h
    | error _ => exact fails.any_agree h
  | .error e, .ok b, h =>
    show Matches fails rel' (.error e) (g b)
    cases g b with
    | ok _ => exact h
    | error _ => exact fails.agree_any h
  | .error _, .error _, h => exact h

theorem bind {x : Except Error α} {y : Except Error β} {f : α → Except Error γ}
    {g : β → Except Error δ} (hxy : Matches fails rel x y)
    (hfg : ∀ a b, rel a b → Matches fails rel' (f a) (g b)) :
    Matches fails rel' (x >>= f) (y >>= g) :=
  hxy.bindOk fun a b _ h => hfg a b h

theorem mono {rel₁ rel₂ : α → β → Prop} {x : Except Error α} {y : Except Error β}
    (h : Matches fails rel₁ x y) (hrel : ∀ a b, rel₁ a b → rel₂ a b) : Matches fails rel₂ x y := by
  match x, y, h with
  | .ok a, .ok b, h => exact hrel a b h
  | .ok _, .error _, h => exact h
  | .error _, .ok _, h => exact h
  | .error _, .error _, h => exact h

/-- A failure of the first run that compares with everything. -/
theorem ofError {e : Error} (h : ∀ o, fails.agree (some e) o) (y : Except Error β) :
    Matches fails rel (.error e) y := by
  cases y with
  | ok _ => exact h none
  | error e' => exact h (some e')

/-- A failure of the second run that compares with everything. -/
theorem toError {e : Error} (h : ∀ o, fails.agree o (some e)) (x : Except Error α) :
    Matches fails rel x (.error e) := by
  cases x with
  | ok _ => exact h none
  | error e' => exact h (some e')

/-- A first run that does not give up on the depth of definitions. -/
theorem settled {x : Except Error α} {y : Except Error β} (h : Matches .firstDeep rel x y)
    (hx : Settles x) : Matches .same rel x y := by
  match x, y, h with
  | .ok _, .ok _, h => exact h
  | .ok _, .error _, h => exact h.resolve_left nofun
  | .error e, .ok _, h => exact h.resolve_left fun he => hx (by cases he; rfl)
  | .error e, .error _, h => exact h.resolve_left fun he => hx (by cases he; rfl)

/-- A second run that does not give up on the depth of definitions. -/
theorem settledSecond {x : Except Error α} {y : Except Error β} (h : Matches .secondDeep rel x y)
    (hy : Settles y) : Matches .same rel x y := by
  match x, y, h with
  | .ok _, .ok _, h => exact h
  | .ok _, .error _, h => exact h.resolve_left fun he => hy (by cases he; rfl)
  | .error _, .ok _, h => exact h.resolve_left nofun
  | .error _, .error _, h => exact h.resolve_left fun he => hy (by cases he; rfl)

/-- Runs that fail alike both give up on the depth of definitions, or neither does. -/
theorem settles_iff {x : Except Error α} {y : Except Error β} (h : Matches .same rel x y) :
    Settles x ↔ Settles y := by
  cases x with
  | ok a =>
    cases y with
    | ok b => exact iff_of_true nofun nofun
    | error e => exact (Option.some_ne_none e (Eq.symm h)).elim
  | error e =>
    cases y with
    | ok b => exact (Option.some_ne_none e h).elim
    | error e' =>
      obtain rfl : e = e' := Option.some.inj h
      exact not_congr ⟨fun h => by cases h; rfl, fun h => by cases h; rfl⟩

/-- Runs that fail alike and have the same results are the same. -/
theorem eq {x y : Except Error α} (h : Matches .same (· = ·) x y) : x = y := by
  cases x with
  | ok a =>
    cases y with
    | ok b => exact congrArg Except.ok h
    | error e => exact (Option.some_ne_none e (Eq.symm h)).elim
  | error e =>
    cases y with
    | ok b => exact (Option.some_ne_none e h).elim
    | error e' => exact congrArg Except.error (Option.some.inj h)

/-- A common first step, followed by steps that match on its result. -/
theorem bindSame {x : Except Error α} {f : α → Except Error γ} {g : α → Except Error δ}
    (hfg : ∀ a, x = .ok a → Matches fails rel' (f a) (g a)) :
    Matches fails rel' (x >>= f) (x >>= g) := by
  cases x with
  | ok a => exact hfg a rfl
  | error e => exact fails.agree_self e

/-- Items that match one by one. -/
theorem mapM {ι : Type} {rel : α → β → Prop} {f : ι → Except Error α} {g : ι → Except Error β} :
    ∀ {l : List ι}, (∀ i ∈ l, Matches fails rel (f i) (g i)) →
      Matches fails (List.Forall₂ rel) (l.mapM f) (l.mapM g)
  | [], _ => by simpa using .nil
  | i :: l, h => by
    rw [List.mapM_cons, List.mapM_cons]
    refine bind (h i List.mem_cons_self) fun a b hab => ?_
    refine bind (mapM fun j hj => h j (List.mem_cons_of_mem i hj)) fun as bs hs => ?_
    exact List.Forall₂.cons hab hs

end Matches

end RecordSql
