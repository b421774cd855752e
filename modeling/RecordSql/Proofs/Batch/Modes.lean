import Mathlib.Data.List.Pairwise
import RecordSql.Proofs.Batch.Accounting
import RecordSql.Proofs.Regeneration.Frame

/-!
# Looking ahead

A run that only looks at files tells what a run that writes them does: both give one summary, in which
every visible source file has one standing, and the files that are written are those called updated.

- `Summary.paths`: the files of a standing.
- `FileTree.Shows`: a file that is visible from a root.
- `regenerateAll_accounts`: one account for both modes.
- `regenerateAll_broken`: neither mode gives an account if the regions of some file overlap.
-/

namespace RecordSql.Generate

/-! ### Standings -/

/-- What a summary says of a file. -/
inductive Standing
  | updated
  | unchanged
  | skipped
  | failed
  deriving DecidableEq, Repr

/-- The standing of a file with some result. -/
def standingOf : Result → Standing
  | .ok (.updated _) => .updated
  | .ok .unchanged => .unchanged
  | .ok .skipped => .skipped
  | .error _ => .failed

/-- The files of a standing. -/
def Summary.paths (s : Summary) : Standing → List String
  | .updated => s.updated
  | .unchanged => s.unchanged
  | .skipped => s.skipped
  | .failed => s.failed.map Prod.fst

theorem mem_pathsWhere {s : Summary} {test : Result → Bool} {standing : Standing} {path : String}
    (htest : ∀ r, test r = true ↔ standingOf r = standing) :
    path ∈ s.pathsWhere test ↔ ∃ r, (path, r) ∈ s.results ∧ standingOf r = standing := by
  unfold Summary.pathsWhere
  simp [htest]

/-- A file has the standing of its result. -/
theorem mem_paths {s : Summary} {standing : Standing} {path : String} :
    path ∈ s.paths standing ↔ ∃ r, (path, r) ∈ s.results ∧ standingOf r = standing := by
  cases standing with
  | updated | unchanged | skipped =>
    simp only [Summary.paths, Summary.updated, Summary.unchanged, Summary.skipped]
    refine mem_pathsWhere ?_
    rintro (_ | _ | _ | _) <;> simp [standingOf]
  | failed =>
    unfold Summary.paths Summary.failed
    rw [List.mem_map]
    constructor
    · rintro ⟨f, hf, rfl⟩
      obtain ⟨⟨path, r⟩, hr, hfailed⟩ := List.mem_filterMap.1 hf
      cases r with
      | ok outcome => cases hfailed
      | error failure =>
        cases hfailed
        exact ⟨_, hr, rfl⟩
    · rintro ⟨r, hr, hstanding⟩
      rcases r with failure | _ | _ | _
      · exact ⟨(path, failure), List.mem_filterMap.2 ⟨_, hr, rfl⟩, rfl⟩
      all_goals cases hstanding

/-! ### Visible files -/

theorem placeBelow?_eq_some {p q rest : Place} : placeBelow? p q = some rest ↔ q = p ++ rest := by
  induction p generalizing q with
  | nil => exact ⟨fun h => Option.some.inj h, fun h => congrArg some h⟩
  | cons name p ih =>
    cases q with
    | nil => exact iff_of_false nofun nofun
    | cons n q =>
      unfold placeBelow?
      rw [List.cons_append, List.cons.injEq]
      split
      · rename_i hname
        rw [ih, and_iff_right hname.symm]
      · rename_i hname
        exact iff_of_false nofun fun h => hname h.1.symm

theorem mem_insertPlace {p q : Place} {ps : List Place} : q ∈ insertPlace p ps ↔ q = p ∨ q ∈ ps := by
  induction ps with
  | nil => rw [insertPlace, List.mem_singleton, or_iff_left List.not_mem_nil]
  | cons r ps ih =>
    unfold insertPlace
    split
    · exact List.mem_cons
    · rw [List.mem_cons, ih, List.mem_cons, or_left_comm]

theorem mem_sortPlaces {q : Place} {ps : List Place} : q ∈ sortPlaces ps ↔ q ∈ ps := by
  unfold sortPlaces
  induction ps with
  | nil => rfl
  | cons p ps ih => rw [List.foldr_cons, mem_insertPlace, ih, List.mem_cons]

namespace FileTree

variable {t : FileTree} {mode : Mode} {roots : List String} {path : String}

/-- A file that is visible from a root: the root itself, or a file below it whose names below it are not
hidden. -/
def Shows (t : FileTree) (root path : String) : Prop :=
  (path = root ∧ (t.place? root).isSome = true) ∨
    ∃ p rest, t.resolve root = .ok (p, .directory) ∧ (t.content? (p ++ rest)).isSome = true ∧
      (∀ name ∈ rest, isHidden name = false) ∧ path = extendPath root rest

theorem mem_visible {p rest : Place} :
    rest ∈ t.visible p ↔
      (t.content? (p ++ rest)).isSome = true ∧ ∀ name ∈ rest, isHidden name = false := by
  unfold visible
  rw [mem_sortPlaces, List.mem_filter, List.mem_filterMap, content?_isSome]
  refine and_congr ?_ (by simp)
  simp only [placeBelow?_eq_some, List.mem_map]

/-- A walk meets the visible files. -/
theorem file_mem_walk {root : String} (h : t.Shows root path) : .file path ∈ t.walk root := by
  unfold walk
  obtain ⟨rfl, hfile⟩ | ⟨p, rest, hr, hcontent, hhidden, rfl⟩ := h
  · unfold place? at hfile
    split at hfile
    · rename_i hr
      rw [hr]
      exact List.mem_singleton_self _
    · cases hfile
  · rw [hr]
    exact List.mem_map_of_mem (mem_visible.2 ⟨hcontent, hhidden⟩)

theorem file_mem_visits {root : String} (hroot : root ∈ roots) (h : t.Shows root path)
    (hsource : isSourcePath path = true) : .file path ∈ t.visits roots :=
  List.mem_flatMap.2 ⟨root, hroot, List.mem_filter.2 ⟨file_mem_walk h, hsource⟩⟩

/-- What cannot be walked to cannot be read. -/
theorem resolve_of_unreadable {fault : IoFault} (h : .unreadable path fault ∈ t.visits roots) :
    t.resolve path = .error fault := by
  obtain ⟨root, -, hvisit⟩ := List.mem_flatMap.1 h
  have hwalk := List.mem_of_mem_filter hvisit
  unfold walk at hwalk
  split at hwalk
  · rename_i hr
    cases List.mem_singleton.1 hwalk
    exact hr
  · cases List.mem_singleton.1 hwalk
  · obtain ⟨rest, -, heq⟩ := List.mem_map.1 hwalk
    cases heq

/-- All entries on the path of a visited file have the standing of that file. -/
theorem standing_unique {r : Result}
    (hr : (path, r) ∈ (t.visits roots).map t.entry) : standingOf r = standingOf (t.resultAt path) := by
  obtain ⟨v, hv, hentry⟩ := List.mem_map.1 hr
  cases v with
  | file path' =>
    cases hentry
    rfl
  | unreadable path' fault =>
    cases hentry
    have hread : t.read path = .error fault := by
      unfold read
      rw [resolve_of_unreadable hv]
      rfl
    unfold resultAt
    rw [hread]
    rfl

/-! ### Stored files -/

/-- Files at different places all hold what is stored in them, and no other file is changed. -/
theorem content?_stored {l : List (Place × List Char)} (hfiles : ∀ r ∈ l, (t.content? r.1).isSome = true)
    (hdistinct : (l.map Prod.fst).Nodup) :
    (∀ r ∈ l, (t.stored .write l).content? r.1 = some (.text r.2)) ∧
      ∀ p, p ∉ l.map Prod.fst → (t.stored .write l).content? p = t.content? p := by
  induction l generalizing t with
  | nil => exact ⟨List.forall_mem_nil _, fun _ _ => rfl⟩
  | cons r l ih =>
    obtain ⟨hfirst, hrest⟩ := List.forall_mem_cons.1 hfiles
    obtain ⟨hnew, hdistinct⟩ := List.nodup_cons.1 hdistinct
    have hlater : ∀ q ∈ l, ((t.put r.1 (.text r.2)).content? q.1).isSome = true := by
      intro q hq
      rw [(put_samePlaces hfirst).content?_isSome_eq]
      exact hrest q hq
    obtain ⟨hstored, hkept⟩ := ih hlater hdistinct
    refine ⟨List.forall_mem_cons.2 ⟨?_, hstored⟩, fun p hp => ?_⟩
    · exact (hkept r.1 hnew).trans (content?_put_self hfirst)
    · obtain ⟨hother, hp⟩ := not_or.1 (mt List.mem_cons.2 hp)
      exact (hkept p hp).trans (content?_put_other hfirst hother)

/-- The places of replacements are places of visits, in their order. -/
theorem replaced_places (vs : List Visit) :
    ((vs.filterMap t.replacement?).map Prod.fst).Sublist (vs.filterMap t.target?) := by
  induction vs with
  | nil => exact List.Sublist.refl []
  | cons v vs ih =>
    cases hr : t.replacement? v with
    | none =>
      rw [List.filterMap_cons_none hr]
      exact ih.trans ((List.sublist_cons_self v vs).filterMap t.target?)
    | some r =>
      rw [List.filterMap_cons_some hr, List.filterMap_cons_some (replacement?_target hr)]
      exact ih.cons_cons r.1

/-- Visits of one file are the same if no file is reached twice. -/
theorem visit_unique {vs : List Visit} (hdistinct : (vs.filterMap t.target?).Nodup) {u v : Visit} {p : Place}
    (hu : u ∈ vs) (hv : v ∈ vs) (hup : t.target? u = some p) (hvp : t.target? v = some p) : u = v := by
  by_contra hne
  have hpairs := List.pairwise_filterMap.1 hdistinct
  have hsymm : Std.Symm fun a b : Visit =>
      ∀ q, t.target? a = some q → ∀ q', t.target? b = some q' → q ≠ q' :=
    ⟨fun a b h q hq q' hq' => (h q' hq' q hq).symm⟩
  exact hpairs.forall hu hv hne p hup p hvp rfl

/-! ### Both modes -/

/-- A run gives one summary in both modes. -/
theorem regenerateAll_run (mode : Mode) (hdistinct : ((t.visits roots).filterMap t.target?).Nodup)
    (hsound : ∀ v ∈ t.visits roots, ¬ t.Overlaps v) :
    runOn (regenerateAll FileTree.system mode roots) t =
      (some ⟨(t.visits roots).map t.entry⟩,
        t.stored mode ((t.visits roots).filterMap t.replacement?)) := by
  have hrun := roots_run mode hsound hdistinct (.refl t _)
  unfold regenerateAll
  rw [runOn_step hrun]
  have hresults : (roots.map fun root => (t.visitsBelow root).map t.entry).flatten =
      (t.visits roots).map t.entry := by
    rw [visits, List.map_flatMap, List.flatMap_def]
  rw [hresults]
  rfl

/-- A file that is called updated gets the text that is generated for it. -/
theorem updated_replaced (h : path ∈ Summary.paths ⟨(t.visits roots).map t.entry⟩ .updated) :
    ∃ p output, (p, output) ∈ (t.visits roots).filterMap t.replacement? ∧ t.place? path = some p ∧
      t.resultAt path = .ok (.updated output) := by
  obtain ⟨r, hr, hstanding⟩ := mem_paths.1 h
  obtain ⟨v, hv, hentry⟩ := List.mem_map.1 hr
  obtain ⟨path', rfl⟩ : ∃ path', v = .file path' := by
    cases v with
    | file path' => exact ⟨path', rfl⟩
    | unreadable path' fault =>
      cases hentry
      cases hstanding
  cases hentry
  obtain ⟨output, hresult⟩ : ∃ output, t.resultAt path = .ok (.updated output) := by
    revert hstanding
    rcases t.resultAt path with _ | _ | _ | output
    · exact nofun
    · exact nofun
    · exact nofun
    · exact fun _ => ⟨output, rfl⟩
  obtain ⟨p, -, hplace, -⟩ := resultAt_updated hresult
  exact ⟨p, output, List.mem_filterMap.2 ⟨_, hv, replacement?_eq_some.2 ⟨hplace, hresult⟩⟩, hplace,
    hresult⟩

/-- What is replaced belongs to a file that is called updated. -/
theorem replaced_updated {p : Place} (h : p ∈ ((t.visits roots).filterMap t.replacement?).map Prod.fst) :
    ∃ path ∈ Summary.paths ⟨(t.visits roots).map t.entry⟩ .updated,
      .file path ∈ t.visits roots ∧ t.place? path = some p := by
  obtain ⟨⟨p, output⟩, hr, rfl⟩ := List.mem_map.1 h
  obtain ⟨v, hv, hreplacement⟩ := List.mem_filterMap.1 hr
  cases v with
  | unreadable => cases hreplacement
  | file path =>
    obtain ⟨hplace, hresult⟩ := replacement?_eq_some.1 hreplacement
    refine ⟨path, mem_paths.2 ⟨_, List.mem_map_of_mem hv, ?_⟩, hv, hplace⟩
    rw [hresult]
    rfl

/-- A file that is called failed is not replaced. -/
theorem failed_kept (hdistinct : ((t.visits roots).filterMap t.target?).Nodup) {p : Place}
    (h : path ∈ Summary.paths ⟨(t.visits roots).map t.entry⟩ .failed) (hp : t.place? path = some p) :
    p ∉ ((t.visits roots).filterMap t.replacement?).map Prod.fst := by
  intro hmem
  obtain ⟨path', hupdated, hv', hp'⟩ := replaced_updated hmem
  obtain ⟨r, hr, hfailed⟩ := mem_paths.1 h
  obtain ⟨v, hv, hentry⟩ := List.mem_map.1 hr
  cases v with
  | unreadable path'' fault =>
    cases hentry
    rw [place?, resolve_of_unreadable hv] at hp
    cases hp
  | file path'' =>
    cases hentry
    -- the file that is replaced is the one that failed
    cases visit_unique hdistinct hv hv' hp hp'
    obtain ⟨r', hr', hsame⟩ := mem_paths.1 hupdated
    rw [standing_unique hr', hfailed] at hsame
    cases hsame

end FileTree

theorem regenerated?_eq_updated {text output : List Char} :
    regenerated? text = .ok (some output) ↔ regenerate text = .ok (.updated output) := by
  unfold regenerated?
  rcases regenerate text with _ | _ | _ | _ <;> simp [Except.map]

theorem updated_ne {text output : List Char} (h : regenerate text = .ok (.updated output)) :
    output ≠ text := by
  unfold regenerate at h
  dsimp only at h
  split at h
  · cases h
  · cases h
  · split at h
    · cases h
    · split at h <;> cases h
      assumption

open FileTree in
/-- If no file is reached twice and no regions overlap, a run tells the same whether files are written or
only looked at. It has an entry for each visit, found from the visited file alone, so that every visible
source file has exactly one standing. Looking changes no file; writing changes the files called updated,
each to the text that is generated for its own text, and no other one, those called failed among them. -/
theorem regenerateAll_accounts {t : FileTree} {roots : List String}
    (hdistinct : ((t.visits roots).filterMap t.target?).Nodup)
    (hsound : ∀ v ∈ t.visits roots, ¬ t.Overlaps v) :
    ∃ summary after,
      runOn (regenerateAll FileTree.system .check roots) t = (some summary, t) ∧
      runOn (regenerateAll FileTree.system .write roots) t = (some summary, after) ∧
      summary.results = (t.visits roots).map t.entry ∧
      (∀ root ∈ roots, ∀ path, t.Shows root path → isSourcePath path = true →
        (path, t.resultAt path) ∈ summary.results ∧ ∃! standing, path ∈ summary.paths standing) ∧
      (∀ path ∈ summary.paths .updated, ∃ p text output, t.place? path = some p ∧
        t.content? p = some (.text text) ∧ regenerated? text = .ok (some output) ∧ output ≠ text ∧
        after.content? p = some (.text output)) ∧
      (∀ p, (∀ path ∈ summary.paths .updated, t.place? path ≠ some p) →
        after.content? p = t.content? p) ∧
      ∀ path ∈ summary.paths .failed, ∀ p, t.place? path = some p → after.content? p = t.content? p := by
  have hcheck := regenerateAll_run .check hdistinct hsound
  have hwrite := regenerateAll_run .write hdistinct hsound
  have hfiles : ∀ r ∈ (t.visits roots).filterMap t.replacement?, (t.content? r.1).isSome = true := by
    intro r hr
    obtain ⟨v, -, hreplacement⟩ := List.mem_filterMap.1 hr
    exact replacement?_isFile hreplacement
  obtain ⟨hstored, hkept⟩ :=
    content?_stored hfiles ((replaced_places (t.visits roots)).nodup hdistinct)
  refine ⟨_, _, hcheck, hwrite, rfl, ?standing, ?updated, fun p hp => hkept p fun hmem => ?other,
    fun path hfailed p hp => hkept p (failed_kept hdistinct hfailed hp)⟩
  case standing =>
    intro root hroot path hshows hsource
    have hentry : (path, t.resultAt path) ∈ (t.visits roots).map t.entry :=
      List.mem_map_of_mem (f := t.entry) (file_mem_visits hroot hshows hsource)
    refine ⟨hentry, standingOf (t.resultAt path), mem_paths.2 ⟨_, hentry, rfl⟩, fun standing h => ?_⟩
    obtain ⟨r, hr, rfl⟩ := mem_paths.1 h
    exact standing_unique hr
  case updated =>
    intro path hupdated
    obtain ⟨p, output, hmem, hplace, hresult⟩ := updated_replaced hupdated
    obtain ⟨q, text, hq, hcontent, hregenerate⟩ := resultAt_updated hresult
    cases hplace.symm.trans hq
    exact ⟨p, text, output, hplace, hcontent, regenerated?_eq_updated.2 hregenerate,
      updated_ne hregenerate, hstored _ hmem⟩
  case other =>
    obtain ⟨path, hupdated, -, hplace⟩ := replaced_updated hmem
    exact hp path hupdated hplace

open FileTree in
/-- A run that reaches a file whose regions overlap tells nothing, in neither mode. -/
theorem regenerateAll_broken {t : FileTree} {roots : List String}
    (hdistinct : ((t.visits roots).filterMap t.target?).Nodup)
    (hbroken : ∃ v ∈ t.visits roots, t.Overlaps v) (mode : Mode) :
    (runOn (regenerateAll FileTree.system mode roots) t).1 = none := by
  unfold regenerateAll
  exact runOn_broken (roots_broken hbroken hdistinct (.refl t _)) _

/-! ### Shelves -/

/-- A file with some text, one without records, and one that is malformed. -/
def shelves (text : List Char) : FileTree where
  files := [(["a.rs"], .text text), (["b.rs"], .text []), (["c.rs"], .text ['\x7d'])]

theorem shelves_same (text : List Char) : FileTree.SamePlaces (shelves []) (shelves text) := rfl

theorem shelves_visits (text : List Char) :
    (shelves text).visits ["."] = [.file "./a.rs", .file "./b.rs", .file "./c.rs"] := by
  rw [(shelves_same text).visits_eq]
  decide +kernel

theorem shelves_distinct (text : List Char) :
    (((shelves text).visits ["."]).filterMap (shelves text).target?).Nodup := by
  rw [(shelves_same text).visits_eq, (shelves_same text).target?_eq]
  decide +kernel

theorem shelves_place (text : List Char) :
    (shelves text).place? "./a.rs" = some ["a.rs"] ∧ (shelves text).place? "./b.rs" = some ["b.rs"] ∧
      (shelves text).place? "./c.rs" = some ["c.rs"] := by
  simp only [(shelves_same text).place?_eq]
  decide +kernel

theorem shelves_read (text : List Char) :
    (shelves text).read "./a.rs" = .ok text ∧ (shelves text).read "./b.rs" = .ok [] ∧
      (shelves text).read "./c.rs" = .ok ['\x7d'] := by
  obtain ⟨ha, hb, hc⟩ := shelves_place text
  exact ⟨FileTree.read_of_place ha rfl, FileTree.read_of_place hb rfl, FileTree.read_of_place hc rfl⟩

theorem shelves_content (text : List Char) : (shelves text).content? ["a.rs"] = some (.text text) := rfl

/-- Nothing is generated for a file without records, nor for one that is malformed. -/
theorem shelves_kept : regenerate [] = .ok .skipped ∧ regenerate ['\x7d'] = .error .malformed := by
  decide +kernel

/-- Looking at the shelves tells that the stale file is written. Nothing else is. -/
theorem shelves_accounted :
    (((shelves staleShelf).visits ["."]).filterMap (shelves staleShelf).target?).Nodup ∧
    (∀ v ∈ (shelves staleShelf).visits ["."], ¬ (shelves staleShelf).Overlaps v) ∧
    ∃ summary after,
      runOn (regenerateAll FileTree.system .check ["."]) (shelves staleShelf) =
        (some summary, shelves staleShelf) ∧
      runOn (regenerateAll FileTree.system .write ["."]) (shelves staleShelf) = (some summary, after) ∧
      summary.results =
        [("./a.rs", .ok (.updated freshShelf)), ("./b.rs", .ok .skipped),
          ("./c.rs", .error (.source .malformed))] ∧
      after.content? ["a.rs"] = some (.text freshShelf) ∧ after.content? ["c.rs"] = some (.text ['\x7d']) := by
  obtain ⟨ha, hb, hc⟩ := shelves_read staleShelf
  obtain ⟨pa, -, pc⟩ := shelves_place staleShelf
  have hstale := regenerated?_eq_updated.1 staleShelf_regenerated
  have hsound : ∀ v ∈ (shelves staleShelf).visits ["."], ¬ (shelves staleShelf).Overlaps v := by
    rw [shelves_visits]
    refine List.forall_mem_cons.2 ⟨?_, List.forall_mem_cons.2 ⟨?_, List.forall_mem_singleton.2 ?_⟩⟩
    all_goals
      rintro ⟨text, hread, hoverlaps⟩
    · obtain rfl := Except.ok.inj (ha.symm.trans hread)
      cases hstale.symm.trans hoverlaps
    · cases hb.symm.trans hread
      cases shelves_kept.1.symm.trans hoverlaps
    · cases hc.symm.trans hread
      cases shelves_kept.2.symm.trans hoverlaps
  obtain ⟨summary, after, hcheck, hwrite, hresults, -, hupdated, -, hfailed⟩ :=
    regenerateAll_accounts (shelves_distinct staleShelf) hsound
  have entries : ((shelves staleShelf).visits ["."]).map (shelves staleShelf).entry =
      [("./a.rs", .ok (.updated freshShelf)), ("./b.rs", .ok .skipped),
        ("./c.rs", .error (.source .malformed))] := by
    rw [shelves_visits]
    simp only [List.map_cons, List.map_nil, FileTree.entry, FileTree.resultAt_of_read ha,
      FileTree.resultAt_of_read hb, FileTree.resultAt_of_read hc, hstale, shelves_kept]
    rfl
  rw [entries] at hresults
  refine ⟨shelves_distinct staleShelf, hsound, summary, after, hcheck, hwrite, hresults, ?_, ?_⟩
  · have hmem : "./a.rs" ∈ summary.paths .updated :=
      mem_paths.2 ⟨_, by rw [hresults]; exact List.mem_cons_self, rfl⟩
    obtain ⟨p, text, output, hp, hcontent, houtput, -, hafter⟩ := hupdated _ hmem
    cases pa.symm.trans hp
    obtain rfl := Content.text.inj (Option.some.inj ((shelves_content staleShelf).symm.trans hcontent))
    obtain rfl := Option.some.inj (Except.ok.inj (staleShelf_regenerated.symm.trans houtput))
    exact hafter
  · have hmem : "./c.rs" ∈ summary.paths .failed :=
      mem_paths.2 ⟨_, by rw [hresults]; exact List.mem_of_getElem? (i := 2) rfl, rfl⟩
    exact hfailed _ hmem _ pc

/-- A file with two declarations of one record, and less text behind their region than it loses. -/
def brokenShelf : List Char :=
  declaredTwice ++
    "    // AUTO-GENERATED: METHODS START\n    fn f() \x7b\x7d\n    fn g() \x7b\x7d\n".toList ++
    "    fn h() \x7b\x7d\n    // AUTO-GENERATED: METHODS END\n\x7d\n".toList

set_option maxRecDepth 4000 in
/-- Such a file breaks off the run, so that the files without faults are not accounted for. -/
theorem brokenShelf_unaccounted :
    (((shelves brokenShelf).visits ["."]).filterMap (shelves brokenShelf).target?).Nodup ∧
      (shelves brokenShelf).Shows "." "./b.rs" ∧ isSourcePath "./b.rs" = true ∧
      ∀ mode, (runOn (regenerateAll FileTree.system mode ["."]) (shelves brokenShelf)).1 = none := by
  have hbroken : regenerate brokenShelf = .error .overlapping := by
    unfold brokenShelf declaredTwice
    iterate 5 rewrite [String.toList_ofList]
    decide +kernel
  have hshows : (shelves brokenShelf).Shows "." "./b.rs" := by
    refine .inr ⟨[], ["b.rs"], ?_, rfl, by decide, by decide +kernel⟩
    exact (shelves_same brokenShelf).resolve_directory (by decide +kernel)
  have hfirst : .file "./a.rs" ∈ (shelves brokenShelf).visits ["."] := by
    rw [shelves_visits]
    exact List.mem_cons_self
  refine ⟨shelves_distinct brokenShelf, hshows, by decide +kernel, fun mode => ?_⟩
  exact regenerateAll_broken (shelves_distinct brokenShelf)
    ⟨_, hfirst, brokenShelf, (shelves_read brokenShelf).1, hbroken⟩ mode

end RecordSql.Generate
