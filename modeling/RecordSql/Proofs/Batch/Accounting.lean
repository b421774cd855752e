import Mathlib.Data.List.Nodup
import RecordSql.Generate.Batch
import RecordSql.Proofs.Batch.Places

/-!
# Accounts of a run

A run over many files finds out about each of them from its own text alone, as long as it meets no file
twice. So it tells the same whether files are written or only looked at, and what it writes are the files
that it calls updated.

- `FileTree.entry`: what there is to tell of a visit.
- `FileTree.Overlaps`: a file whose regions overlap, which breaks a run off.
- `FileTree.Agrees`: a tree in which some visits still find what they find in another one.
- `visits_run`, `roots_run`: a run makes one entry for each visit and stores what is updated.
- `visits_broken`, `roots_broken`: a run that meets a file whose regions overlap breaks off.
-/

namespace RecordSql.Generate

/-! ### Runs on a tree -/

/-- The result of a computation on a tree, if it does not break off, and the tree that it leaves. -/
def runOn {α : Type} (m : OptionT (StateM FileTree) α) (t : FileTree) : Option α × FileTree :=
  m.run.run t

section Runs

variable {α β : Type} {t t' : FileTree} {m : OptionT (StateM FileTree) α}

theorem runOn_bind (m : OptionT (StateM FileTree) α) (f : α → OptionT (StateM FileTree) β) :
    runOn (m >>= f) t =
      match runOn m t with
      | (some a, t') => runOn (f a) t'
      | (none, t') => (none, t') := by
  unfold runOn
  simp only [OptionT.run_bind, Option.elimM, StateT.run_bind]
  rcases m.run.run t with ⟨_ | _, _⟩ <;> rfl

/-- A first step that gives a result. -/
theorem runOn_step {a : α} (h : runOn m t = (some a, t')) (f : α → OptionT (StateM FileTree) β) :
    runOn (m >>= f) t = runOn (f a) t' := by
  rw [runOn_bind, h]

/-- A first step that breaks off. -/
theorem runOn_broken (h : (runOn m t).1 = none) (f : α → OptionT (StateM FileTree) β) :
    (runOn (m >>= f) t).1 = none := by
  rw [runOn_bind]
  rcases hm : runOn m t with ⟨_ | a, t'⟩
  · rfl
  · rw [hm] at h
    cases h

theorem lift_run {α : Type} {m : StateM FileTree α} {a : α} (h : m.run t = (a, t')) :
    runOn (OptionT.lift m) t = (some a, t') := by
  show (some (m.run t).1, (m.run t).2) = _
  rw [h]

end Runs

namespace FileTree

/-! ### Visits -/

/-- What there is to tell of a file: its own text decides. -/
def resultAt (t : FileTree) (path : String) : Result :=
  match t.read path with
  | .error fault => .error (.access path fault)
  | .ok text =>
    match regenerate text with
    | .error fault => .error (.source fault)
    | .ok outcome => .ok outcome

/-- What there is to tell of a visit. -/
def entry (t : FileTree) : Visit → String × Result
  | .file path => (path, t.resultAt path)
  | .unreadable path fault => (path, .error (.walk path fault))

/-- The place of the file that is visited. -/
def target? (t : FileTree) : Visit → Option Place
  | .file path => t.place? path
  | .unreadable _ _ => none

/-- The text that a visited file is to get, with its place. -/
def replacement? (t : FileTree) : Visit → Option (Place × List Char)
  | .file path =>
    match t.place? path, t.resultAt path with
    | some p, .ok (.updated output) => some (p, output)
    | _, _ => none
  | .unreadable _ _ => none

/-- The regions of a visited file overlap, so that nothing results for it. -/
def Overlaps (t : FileTree) : Visit → Prop
  | .file path => ∃ text, t.read path = .ok text ∧ regenerate text = .error .overlapping
  | .unreadable _ _ => False

/-- The visits below a root that matter. -/
def visitsBelow (t : FileTree) (root : String) : List Visit := (t.walk root).filter Visit.counts

/-- The visits below some roots that matter. -/
def visits (t : FileTree) (roots : List String) : List Visit := roots.flatMap t.visitsBelow

/-- The tree with other texts in some files, if files are written. -/
def stored (mode : Mode) (t : FileTree) (replacements : List (Place × List Char)) : FileTree :=
  match mode with
  | .check => t
  | .write => replacements.foldl (fun t r => t.put r.1 (.text r.2)) t

variable {t t' : FileTree} {mode : Mode} {v : Visit} {vs rest : List Visit}

theorem SamePlaces.visits_eq (h : SamePlaces t t') (roots : List String) : t'.visits roots = t.visits roots := by
  unfold visits visitsBelow
  simp only [h.walk_eq]

theorem SamePlaces.target?_eq (h : SamePlaces t t') : t'.target? = t.target? := by
  funext v
  cases v with
  | file path => exact h.place?_eq path
  | unreadable => rfl

theorem stored_nil : t.stored mode [] = t := by
  cases mode <;> rfl

theorem stored_append (l l' : List (Place × List Char)) :
    t.stored mode (l ++ l') = (t.stored mode l).stored mode l' := by
  cases mode with
  | check => rfl
  | write => exact List.foldl_append

/-! ### Agreeing trees -/

/-- The trees have files at the same places, and those of some visits hold the same. -/
structure Agrees (t t' : FileTree) (vs : List Visit) : Prop where
  places : SamePlaces t t'
  contents : ∀ v ∈ vs, ∀ p, t.target? v = some p → t'.content? p = t.content? p

namespace Agrees

theorem refl (t : FileTree) (vs : List Visit) : Agrees t t vs :=
  ⟨.refl t, fun _ _ _ _ => rfl⟩

theorem read_eq {path : String} (h : Agrees t t' (.file path :: rest)) : t'.read path = t.read path :=
  h.places.read_eq (h.contents (.file path) List.mem_cons_self)

/-- A visit finds the same. -/
theorem entry_eq (h : Agrees t t' (v :: rest)) : t'.entry v = t.entry v := by
  cases v with
  | unreadable => rfl
  | file path =>
    unfold entry resultAt
    dsimp only
    rw [h.read_eq]

theorem replacement?_eq (h : Agrees t t' (v :: rest)) : t'.replacement? v = t.replacement? v := by
  cases v with
  | unreadable => rfl
  | file path =>
    unfold replacement? resultAt
    dsimp only
    rw [h.read_eq, h.places.place?_eq]

theorem overlaps_iff (h : Agrees t t' (v :: rest)) : t'.Overlaps v ↔ t.Overlaps v := by
  cases v with
  | unreadable => exact Iff.rfl
  | file path =>
    unfold Overlaps
    dsimp only
    rw [h.read_eq]

end Agrees

theorem replacement?_target {r : Place × List Char} (h : t.replacement? v = some r) :
    t.target? v = some r.1 := by
  cases v with
  | unreadable => cases h
  | file path =>
    unfold replacement? at h
    dsimp only at h
    split at h
    · rename_i hplace _
      cases h
      exact hplace
    · cases h

/-- A file is updated to what its own text becomes. -/
theorem resultAt_updated {path : String} {output : List Char}
    (h : t.resultAt path = .ok (.updated output)) :
    ∃ p text, t.place? path = some p ∧ t.content? p = some (.text text) ∧
      regenerate text = .ok (.updated output) := by
  unfold resultAt at h
  split at h
  · cases h
  · rename_i text hread
    split at h
    · cases h
    · rename_i outcome hregenerate
      cases h
      obtain ⟨p, hplace, hcontent, -⟩ := read_eq_ok hread
      exact ⟨p, text, hplace, hcontent, hregenerate⟩

theorem replacement?_eq_some {path : String} {p : Place} {output : List Char} :
    t.replacement? (.file path) = some (p, output) ↔
      t.place? path = some p ∧ t.resultAt path = .ok (.updated output) := by
  unfold replacement?
  dsimp only
  constructor
  · intro h
    split at h
    · rename_i hplace hresult
      cases h
      exact ⟨hplace, hresult⟩
    · cases h
  · rintro ⟨hplace, hresult⟩
    rw [hplace, hresult]

theorem replacement?_isFile {r : Place × List Char} (h : t.replacement? v = some r) :
    (t.content? r.1).isSome = true := by
  cases v with
  | unreadable => cases h
  | file path =>
    obtain ⟨hplace, hresult⟩ := replacement?_eq_some.1 h
    obtain ⟨p, text, hp, hcontent, -⟩ := resultAt_updated hresult
    cases hplace.symm.trans hp
    rw [hcontent]
    rfl

/-- What is stored for a visit leaves the files of all others as they are. -/
theorem Agrees.store (mode : Mode) (h : Agrees t t' (v :: rest))
    (hdistinct : ((v :: rest).filterMap t.target?).Nodup) :
    Agrees t (t'.stored mode (t.replacement? v).toList) rest := by
  have unstored : Agrees t t' rest :=
    ⟨h.places, fun u hu => h.contents u (List.mem_cons_of_mem v hu)⟩
  cases hr : t.replacement? v with
  | none =>
    rw [Option.toList_none, stored_nil]
    exact unstored
  | some r =>
    cases mode with
    | check => exact unstored
    | write =>
      have hfile : (t'.content? r.1).isSome = true := by
        rw [h.places.content?_isSome_eq]
        exact replacement?_isFile hr
      refine ⟨h.places.trans (put_samePlaces hfile), fun u hu p hp => ?_⟩
      have hother : p ≠ r.1 := by
        rw [List.filterMap_cons_some (replacement?_target hr), List.nodup_cons] at hdistinct
        rintro rfl
        exact hdistinct.1 (List.mem_filterMap.2 ⟨u, hu, hp⟩)
      exact (content?_put_other hfile hother).trans (unstored.contents u hu p hp)

/-! ### Steps of a run -/

theorem resultAt_of_read {path : String} {text : List Char} (h : t.read path = .ok text) :
    t.resultAt path = (regenerate text).mapError .source := by
  unfold resultAt
  rw [h]
  dsimp only
  cases regenerate text <;> rfl

/-- Nothing is stored for a file that is not updated. -/
theorem replacement?_eq_none {path : String} (h : ∀ output, t.resultAt path ≠ .ok (.updated output)) :
    t.replacement? (.file path) = none := by
  unfold replacement?
  dsimp only
  split
  · rename_i output _ hresult
    exact absurd hresult (h output)
  · rfl

/-- A file makes its entry and gets its new text. -/
theorem file_run {path : String} (h : ¬ t.Overlaps (.file path)) :
    runOn (regenerateFile FileTree.system mode path) t =
      (some (t.resultAt path), t.stored mode (t.replacement? (.file path)).toList) := by
  have hread : runOn (monadLift (FileTree.system.read path) : OptionT (StateM FileTree) _) t =
      (some (t.read path), t) := rfl
  unfold regenerateFile
  rw [runOn_step hread]
  cases hr : t.read path with
  | error fault =>
    have hresult : t.resultAt path = .error (.access path fault) := by
      unfold resultAt
      rw [hr]
    rw [replacement?_eq_none (by simp [hresult]), Option.toList_none, stored_nil, hresult]
    rfl
  | ok text =>
    have hresult := resultAt_of_read hr
    dsimp only
    match ho : regenerate text with
    | .error .overlapping => exact absurd ⟨text, hr, ho⟩ h
    | .error .malformed | .error (.unbalanced _) | .ok .skipped | .ok .unchanged =>
      rw [ho] at hresult
      rw [replacement?_eq_none (by simp [hresult, Except.mapError]), Option.toList_none, stored_nil,
        hresult]
      rfl
    | .ok (.updated output) =>
      obtain ⟨p, hplace, -, hwrite⟩ := read_eq_ok hr
      rw [ho] at hresult
      have hreplacement : t.replacement? (.file path) = some (p, output) :=
        replacement?_eq_some.2 ⟨hplace, hresult⟩
      have hstore : runOn (OptionT.lift (store FileTree.system mode path output)) t =
          (some (.ok ()), t.stored mode [(p, output)]) := by
        cases mode with
        | check => rfl
        | write =>
          exact lift_run (system_write (hwrite output))
      rw [hreplacement, hresult]
      exact runOn_step hstore _

/-- A visit makes its entry and stores what is updated. -/
theorem visit_run (mode : Mode) (h : ¬ t.Overlaps v) :
    runOn (resultOf FileTree.system mode v) t =
      (some (t.entry v), t.stored mode (t.replacement? v).toList) := by
  cases v with
  | unreadable path fault =>
    rw [show t.replacement? (.unreadable path fault) = none from rfl, Option.toList_none, stored_nil]
    rfl
  | file path => exact runOn_step (file_run h) _

/-- A run breaks off at a file whose regions overlap. -/
theorem visit_broken (h : t.Overlaps v) : (runOn (resultOf FileTree.system mode v) t).1 = none := by
  cases v with
  | unreadable => exact h.elim
  | file path =>
    obtain ⟨text, hread, hregenerate⟩ := h
    refine runOn_broken ?_ _
    have hstep : runOn (monadLift (FileTree.system.read path) : OptionT (StateM FileTree) _) t =
        (some (t.read path), t) := rfl
    unfold regenerateFile
    rw [runOn_step hstep, hread]
    dsimp only
    rw [hregenerate]
    rfl

/-! ### Runs -/

/-- A run over some visits makes one entry for each and stores what is updated. -/
theorem visits_run (mode : Mode) (hsound : ∀ v ∈ vs, ¬ t.Overlaps v)
    (hdistinct : ((vs ++ rest).filterMap t.target?).Nodup) (h : Agrees t t' (vs ++ rest)) :
    runOn (vs.mapM (resultOf FileTree.system mode)) t' =
        (some (vs.map t.entry), t'.stored mode (vs.filterMap t.replacement?)) ∧
      Agrees t (t'.stored mode (vs.filterMap t.replacement?)) rest := by
  induction vs generalizing t' with
  | nil =>
    rw [List.filterMap_nil, stored_nil]
    exact ⟨rfl, h⟩
  | cons v vs ih =>
    obtain ⟨hfirst, hrest⟩ := List.forall_mem_cons.1 hsound
    have hstep := visit_run mode (mt h.overlaps_iff.1 hfirst)
    rw [h.entry_eq, h.replacement?_eq] at hstep
    have hnext : (vs ++ rest).filterMap t.target? |>.Nodup := by
      rw [List.cons_append] at hdistinct
      exact ((List.sublist_cons_self v (vs ++ rest)).filterMap t.target?).nodup hdistinct
    obtain ⟨hrun, hagrees⟩ := ih hrest hnext (h.store mode hdistinct)
    have hstored : (v :: vs).filterMap t.replacement? =
        (t.replacement? v).toList ++ vs.filterMap t.replacement? := by
      rw [List.filterMap_cons]
      cases t.replacement? v <;> rfl
    rw [hstored, stored_append]
    refine ⟨?_, hagrees⟩
    rw [List.mapM_cons, runOn_step hstep, runOn_step hrun]
    rfl

/-- A run over some visits breaks off if the regions of one of the files overlap. -/
theorem visits_broken (hbroken : ∃ v ∈ vs, t.Overlaps v)
    (hdistinct : (vs.filterMap t.target?).Nodup) (h : Agrees t t' vs) :
    (runOn (vs.mapM (resultOf FileTree.system mode)) t').1 = none := by
  induction vs generalizing t' with
  | nil =>
    obtain ⟨v, hv, -⟩ := hbroken
    cases hv
  | cons v vs ih =>
    rw [List.mapM_cons]
    by_cases hv : t.Overlaps v
    · exact runOn_broken (visit_broken (h.overlaps_iff.2 hv)) _
    · have hstep := visit_run mode (mt h.overlaps_iff.1 hv)
      rw [h.replacement?_eq] at hstep
      have hnext : (vs.filterMap t.target?).Nodup :=
        ((List.sublist_cons_self v vs).filterMap t.target?).nodup hdistinct
      have hlater : ∃ v ∈ vs, t.Overlaps v := by
        obtain ⟨u, hu, hoverlaps⟩ := hbroken
        obtain rfl | hu := List.mem_cons.1 hu
        · exact absurd hoverlaps hv
        · exact ⟨u, hu, hoverlaps⟩
      rw [runOn_step hstep]
      exact runOn_broken (ih hlater hnext (h.store mode hdistinct)) _

/-- A run below a root is one over the visits there, in every tree with the same places. -/
theorem below_eq (h : SamePlaces t t') (root : String) :
    runOn (resultsBelow FileTree.system mode root) t' =
      runOn ((t.visitsBelow root).mapM (resultOf FileTree.system mode)) t' := by
  have hwalk : runOn (monadLift (FileTree.system.walk root) : OptionT (StateM FileTree) _) t' =
      (some (t.walk root), t') := by
    rw [← h.walk_eq]
    rfl
  exact runOn_step hwalk _

/-- A run over some roots makes one entry for each visit and stores what is updated. -/
theorem roots_run (mode : Mode) {roots : List String} (hsound : ∀ v ∈ t.visits roots, ¬ t.Overlaps v)
    (hdistinct : ((t.visits roots).filterMap t.target?).Nodup) (h : Agrees t t' (t.visits roots)) :
    runOn (roots.mapM (resultsBelow FileTree.system mode)) t' =
      (some (roots.map fun root => (t.visitsBelow root).map t.entry),
        t'.stored mode ((t.visits roots).filterMap t.replacement?)) := by
  induction roots generalizing t' with
  | nil =>
    rw [show t.visits [] = [] from rfl, List.filterMap_nil, stored_nil]
    rfl
  | cons root roots ih =>
    have hvisits : t.visits (root :: roots) = t.visitsBelow root ++ t.visits roots := rfl
    rw [hvisits] at hsound hdistinct h ⊢
    obtain ⟨hfirst, hrest⟩ := List.forall_mem_append.1 hsound
    obtain ⟨hrun, hagrees⟩ := visits_run mode hfirst hdistinct h
    rw [← below_eq h.places] at hrun
    rw [List.filterMap_append] at hdistinct
    have hlater := ih hrest hdistinct.of_append_right hagrees
    rw [List.filterMap_append, stored_append, List.mapM_cons, runOn_step hrun, runOn_step hlater]
    rfl

/-- A run over some roots breaks off if the regions of a visited file overlap. -/
theorem roots_broken {roots : List String} (hbroken : ∃ v ∈ t.visits roots, t.Overlaps v)
    (hdistinct : ((t.visits roots).filterMap t.target?).Nodup) (h : Agrees t t' (t.visits roots)) :
    (runOn (roots.mapM (resultsBelow FileTree.system mode)) t').1 = none := by
  induction roots generalizing t' with
  | nil =>
    obtain ⟨v, hv, -⟩ := hbroken
    cases hv
  | cons root roots ih =>
    have hvisits : t.visits (root :: roots) = t.visitsBelow root ++ t.visits roots := rfl
    rw [hvisits] at hbroken hdistinct h
    rw [List.mapM_cons]
    by_cases hfirst : ∃ v ∈ t.visitsBelow root, t.Overlaps v
    · refine runOn_broken ?_ _
      rw [below_eq h.places]
      refine visits_broken hfirst ?_ ⟨h.places, fun v hv => h.contents v (List.mem_append_left _ hv)⟩
      rw [List.filterMap_append] at hdistinct
      exact hdistinct.of_append_left
    · have hsound : ∀ v ∈ t.visitsBelow root, ¬ t.Overlaps v := fun v hv ho => hfirst ⟨v, hv, ho⟩
      obtain ⟨hrun, hagrees⟩ := visits_run mode hsound hdistinct h
      rw [← below_eq h.places] at hrun
      have hlater : ∃ v ∈ t.visits roots, t.Overlaps v := by
        obtain ⟨u, hu, hoverlaps⟩ := hbroken
        obtain hu | hu := List.mem_append.1 hu
        · exact absurd hoverlaps (hsound u hu)
        · exact ⟨u, hu, hoverlaps⟩
      rw [List.filterMap_append] at hdistinct
      rw [runOn_step hrun]
      exact runOn_broken (ih hlater hdistinct.of_append_right hagrees) _

end FileTree

end RecordSql.Generate
