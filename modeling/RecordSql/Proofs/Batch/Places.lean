import RecordSql.Generate.FileTree
import RecordSql.Proofs.Outcome

/-!
# Trees with the same places

Writing a file keeps the places of all files. So paths lead where they led before, a walk meets what it met
before, and all other files read the same.

- `FileTree.SamePlaces`: two trees with files at the same places.
- `FileTree.place?`: the place of the file that a path leads to.
- `SamePlaces.walk_eq`, `SamePlaces.place?_eq`: what only depends on the places.
- `SamePlaces.read_eq`: a file reads the same if its content is the same.
- `read_eq_ok`, `read_of_place`: the text that is read is that of the file that a path leads to.
-/

namespace RecordSql.Generate

namespace FileTree

variable {t t' t'' : FileTree} {path : String} {p q : Place} {c : Content}

/-! ### Contents -/

/-- Two trees with files at the same places. -/
def SamePlaces (t t' : FileTree) : Prop :=
  t'.files.map Prod.fst = t.files.map Prod.fst

theorem SamePlaces.refl (t : FileTree) : SamePlaces t t := rfl

theorem SamePlaces.trans (h : SamePlaces t t') (h' : SamePlaces t' t'') : SamePlaces t t'' :=
  Eq.trans h' h

theorem content?_isSome : (t.content? p).isSome = true ↔ p ∈ t.files.map Prod.fst := by
  unfold content?
  rw [List.lookup_isSome_iff]
  constructor
  · rintro ⟨f, hf, he⟩
    exact List.mem_map.2 ⟨f, hf, (beq_iff_eq.1 he).symm⟩
  · rintro hp
    obtain ⟨f, hf, rfl⟩ := List.mem_map.1 hp
    exact ⟨f, hf, beq_self_eq_true _⟩

/-- A file holds what is put there. -/
theorem content?_put_self (hp : (t.content? p).isSome = true) : (t.put p c).content? p = some c := by
  unfold put
  rw [if_pos hp]
  unfold content? at hp ⊢
  generalize t.files = files at hp ⊢
  induction files with
  | nil => cases hp
  | cons f files ih =>
    obtain ⟨place, content⟩ := f
    rw [List.map_cons]
    by_cases hf : place = p
    · rw [if_pos hf, List.lookup_cons, beq_self_eq_true]
    · have hne : (p == place) = false := beq_false_of_ne (Ne.symm hf)
      rw [List.lookup_cons, hne] at hp
      rw [if_neg hf, List.lookup_cons, hne]
      exact ih hp

/-- The other files hold what they held. -/
theorem content?_put_other (hp : (t.content? p).isSome = true) (hq : q ≠ p) :
    (t.put p c).content? q = t.content? q := by
  unfold put
  rw [if_pos hp]
  unfold content?
  dsimp only
  generalize t.files = files
  induction files with
  | nil => rfl
  | cons f files ih =>
    obtain ⟨place, content⟩ := f
    rw [List.map_cons, List.lookup_cons, List.lookup_cons, ih]
    by_cases hf : place = p
    · have hne : (q == p) = false := beq_false_of_ne hq
      rw [if_pos hf, hf]
      simp only [hne]
    · rw [if_neg hf]

theorem put_samePlaces (hp : (t.content? p).isSome = true) : SamePlaces t (t.put p c) := by
  unfold SamePlaces put
  rw [if_pos hp, List.map_map]
  refine List.map_congr_left fun f _ => ?_
  show (if f.1 = p then (p, c) else f).1 = f.1
  split
  · exact Eq.symm ‹_›
  · rfl

/-! ### Paths -/

/-- Whether a file stands at a place, rather than a directory. -/
def Node.isFile : Node → Bool
  | .file _ => true
  | .directory => false

/-- The place of the file that a path leads to. -/
def place? (t : FileTree) (path : String) : Option Place :=
  match t.resolve path with
  | .ok (p, .file _) => some p
  | _ => none

theorem node?_eq_file (h : t.node? p = some (.file c)) : t.content? p = some c := by
  unfold node? at h
  cases hc : t.content? p with
  | none =>
    rw [hc] at h
    dsimp only at h
    split at h <;> cases h
  | some c' =>
    rw [hc] at h
    cases h
    rfl

theorem resolve_eq_ok {node : Node} (h : t.resolve path = .ok (p, node)) : t.node? p = some node := by
  unfold resolve at h
  split at h
  · cases h
  split at h
  · cases h
  split at h
  · cases h
  split at h
  · cases h
  obtain ⟨q, -, h⟩ := bind_eq_ok h
  split at h
  · rename_i hnode
    cases h
    exact hnode
  · cases h

namespace SamePlaces

variable (h : SamePlaces t t')
include h

theorem content?_isSome_eq (p : Place) : (t'.content? p).isSome = (t.content? p).isSome := by
  rw [Bool.eq_iff_iff, content?_isSome, content?_isSome, h]

theorem isDirectory_eq (p : Place) : t'.isDirectory p = t.isDirectory p := by
  have any_map (files : List (Place × Content)) (test : Place → Bool) :
      (files.any fun f => test f.1) = (files.map Prod.fst).any test := by
    rw [List.any_map]
    rfl
  unfold isDirectory
  rw [any_map t'.files fun q => (placeBelow? p q).any fun rest => !rest.isEmpty, h,
    ← any_map t.files fun q => (placeBelow? p q).any fun rest => !rest.isEmpty]

/-- What stands at a place is of the same kind. -/
theorem node?_kind (p : Place) : (t'.node? p).map Node.isFile = (t.node? p).map Node.isFile := by
  have hsome := h.content?_isSome_eq p
  unfold node?
  cases hc : t.content? p with
  | some c =>
    rw [hc] at hsome
    obtain ⟨c', hc'⟩ := Option.isSome_iff_exists.1 hsome
    rw [hc']
    rfl
  | none =>
    rw [hc] at hsome
    rw [Option.isSome_eq_false_iff.1 hsome |> Option.isNone_iff_eq_none.1]
    dsimp only
    rw [h.isDirectory_eq]

theorem step_eq : t'.step = t.step := by
  funext p name
  have hkind := h.node?_kind p
  unfold step
  cases hn : t.node? p with
  | none =>
    rw [hn] at hkind
    rw [Option.map_eq_none_iff.1 hkind]
  | some node =>
    rw [hn] at hkind
    obtain ⟨node', hn', hsame⟩ := Option.map_eq_some_iff.1 hkind
    rw [hn']
    cases node <;> cases node' <;> first | rfl | cases hsame

/-- A path leads to the same place, and to something of the same kind there. -/
theorem resolve_kind (path : String) :
    (t'.resolve path).map (fun r => (r.1, r.2.isFile)) =
      (t.resolve path).map fun r => (r.1, r.2.isFile) := by
  unfold resolve
  rw [h.step_eq]
  split
  · rfl
  split
  · rfl
  split
  · rfl
  split
  · rfl
  cases (pathNames path).foldlM t.step [] with
  | error fault => rfl
  | ok p =>
    have hkind := h.node?_kind p
    dsimp only [Bind.bind, Except.bind]
    cases hn : t.node? p with
    | none =>
      rw [hn] at hkind
      rw [Option.map_eq_none_iff.1 hkind]
    | some node =>
      rw [hn] at hkind
      obtain ⟨node', hn', hsame⟩ := Option.map_eq_some_iff.1 hkind
      rw [hn']
      exact congrArg (fun kind => Except.ok (p, kind)) hsame

theorem resolve_error {fault : IoFault} (hr : t.resolve path = .error fault) :
    t'.resolve path = .error fault := by
  have hkind := h.resolve_kind path
  rw [hr] at hkind
  cases hr' : t'.resolve path with
  | error fault' =>
    rw [hr'] at hkind
    exact congrArg Except.error (Except.error.inj hkind)
  | ok r =>
    rw [hr'] at hkind
    cases hkind

theorem resolve_directory (hr : t.resolve path = .ok (p, .directory)) :
    t'.resolve path = .ok (p, .directory) := by
  have hkind := h.resolve_kind path
  rw [hr] at hkind
  cases hr' : t'.resolve path with
  | error fault =>
    rw [hr'] at hkind
    cases hkind
  | ok r =>
    obtain ⟨q, node⟩ := r
    rw [hr'] at hkind
    cases node <;> cases hkind
    rfl

theorem resolve_file (hr : t.resolve path = .ok (p, .file c)) :
    ∃ c', t'.content? p = some c' ∧ t'.resolve path = .ok (p, .file c') := by
  have hkind := h.resolve_kind path
  rw [hr] at hkind
  cases hr' : t'.resolve path with
  | error fault =>
    rw [hr'] at hkind
    cases hkind
  | ok r =>
    obtain ⟨q, node⟩ := r
    rw [hr'] at hkind
    cases node <;> cases hkind
    exact ⟨_, node?_eq_file (resolve_eq_ok hr'), rfl⟩

/-- A path leads to the same file. -/
theorem place?_eq (path : String) : t'.place? path = t.place? path := by
  unfold place?
  cases hr : t.resolve path with
  | error fault => rw [h.resolve_error hr]
  | ok r =>
    obtain ⟨p, _ | _⟩ := r
    · obtain ⟨c', -, hr'⟩ := h.resolve_file hr
      rw [hr']
    · rw [h.resolve_directory hr]

theorem visible_eq (p : Place) : t'.visible p = t.visible p := by
  have places (files : List (Place × Content)) :
      (files.filterMap fun f => placeBelow? p f.1) =
        (files.map Prod.fst).filterMap (placeBelow? p) := by
    rw [List.filterMap_map]
    rfl
  unfold visible
  rw [places, places, h]

/-- A walk meets the same files. -/
theorem walk_eq (root : String) : t'.walk root = t.walk root := by
  unfold walk
  cases hr : t.resolve root with
  | error fault => rw [h.resolve_error hr]
  | ok r =>
    obtain ⟨p, _ | _⟩ := r
    · obtain ⟨c', -, hr'⟩ := h.resolve_file hr
      rw [hr']
    · rw [h.resolve_directory hr]
      dsimp only
      rw [h.visible_eq]

/-- A file reads the same if it holds the same. -/
theorem read_eq (hcontent : ∀ p, t.place? path = some p → t'.content? p = t.content? p) :
    t'.read path = t.read path := by
  unfold read
  cases hr : t.resolve path with
  | error fault => rw [h.resolve_error hr]
  | ok r =>
    obtain ⟨p, c | _⟩ := r
    · obtain ⟨c', hc', hr'⟩ := h.resolve_file hr
      have hplace : t.place? path = some p := by
        unfold place?
        rw [hr]
      rw [hcontent p hplace, node?_eq_file (resolve_eq_ok hr)] at hc'
      cases hc'
      rw [hr']
    · rw [h.resolve_directory hr]

end SamePlaces

/-! ### Reading and writing -/

/-- A text is read from the file that a path leads to. -/
theorem read_eq_ok {text : List Char} (h : t.read path = .ok text) :
    ∃ p, t.place? path = some p ∧ t.content? p = some (.text text) ∧
      ∀ cs, t.write path cs = .ok (t.put p (.text cs)) := by
  unfold read at h
  obtain ⟨⟨p, node⟩, hr, h⟩ := bind_eq_ok h
  obtain c | _ := node
  · obtain cs | bytes := c <;> cases h
    refine ⟨p, ?_, node?_eq_file (resolve_eq_ok hr), fun cs => ?_⟩
    · unfold place?
      rw [hr]
    · unfold write
      rw [hr]
      rfl
  · cases h

/-- The text of the file that a path leads to is read. -/
theorem read_of_place {text : List Char} (hplace : t.place? path = some p)
    (hcontent : t.content? p = some (.text text)) : t.read path = .ok text := by
  unfold place? at hplace
  split at hplace
  · rename_i q c hr
    cases hplace
    cases (node?_eq_file (resolve_eq_ok hr)).symm.trans hcontent
    unfold read
    rw [hr]
    rfl
  · cases hplace

theorem system_write {path : String} {cs : List Char} (h : t.write path cs = .ok t') :
    (FileTree.system.write path cs).run t = (.ok (), t') := by
  simp only [FileTree.system, StateT.run_bind, StateT.run_get, pure_bind, h]
  rfl

end FileTree

end RecordSql.Generate
