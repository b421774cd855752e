import RecordSql.Proofs.Definition.Substitution
import RecordSql.Proofs.Rendering.Sites

/-!
# What the writing of an expression looks up

What an expression is written as depends on the definitions of the fields that it mentions, on those of
the fields that these definitions mention, and so on. In two places that agree on all of them it is
written alike, whatever else is defined around them.

- `Occurrence.Names`: the references that a place of an expression stands for.
- `Frame.Consults`: all references that are looked up while an expression is written.
- `Frame.Agrees`: two frames in which they find the same definitions.
- `Frame.Agrees.expandWith_eq`, `Frame.Agrees.rendering_iff`: an expression comes to the same in both.
- `Frame.agrees_within`: selects that define nothing of what is looked up change nothing.
-/

namespace RecordSql

/-- The references that a place of an expression stands for. -/
inductive Occurrence.Names (g : Registry) : Occurrence → ColumnUse → FieldRef → Prop
  | column {c} : Names g (.column c) .plain c
  | reference {c} : Names g (.reference c) .plain c
  | key {r name} : name ∈ g.keyFields r → Names g (.key r) .key (.of r name)
  | projection {r names name} : name ∈ g.projected r names →
      Names g (.projection r names) .projection (.of r name)

/-- The references that are looked up while an expression is written: those it mentions, and those that
the definitions mention which are found. -/
inductive Frame.Consults (f : Frame) (e : Expr) : ColumnUse → FieldRef → Prop
  | mention {o use c} : o ∈ e.occurrences → o.Names f.registry use c → Consults f e use c
  | definition {use c d o use' c'} : Consults f e use c → f.applied? use c = some d →
      o ∈ d.expr.occurrences → o.Names f.registry use' c' → Consults f e use' c'

/-- Two frames that differ in the selects around at most, and in which all that is looked up while an
expression is written finds the same definitions. -/
structure Frame.Agrees (f f' : Frame) (e : Expr) : Prop where
  base : f' = { f with selects := f'.selects }
  applied : ∀ use c, f.Consults e use c → f'.applied? use c = f.applied? use c

/-- A column without definition looks up itself alone. -/
theorem Frame.Consults.of_column {f : Frame} {c c' : FieldRef} {use : ColumnUse}
    (h : f.applied? .plain c = none) (hc : f.Consults (.column c) use c') : use = .plain ∧ c' = c := by
  induction hc with
  | mention ho hnames =>
    cases List.mem_singleton.1 ho
    cases hnames
    exact ⟨rfl, rfl⟩
  | definition _ hd _ _ ih =>
    obtain ⟨rfl, rfl⟩ := ih
    rw [h] at hd
    cases hd

/-! ### Entering a select -/

section Enter

variable {f : Frame} {s : Select} {use : ColumnUse} {c : FieldRef}

/-- A field that a select does not define is looked up around it. -/
theorem Frame.applied?_enter_other
    (h : c.record = some s.record → (s.definitions.find? fun d => d.field = c.field) = none) :
    (f.enter s).applied? use c = f.applied? use c := by
  unfold applied? definition? enter
  cases hr : c.record with
  | none => rfl
  | some r =>
    rw [Option.bind_some, Option.bind_some, List.findSome?_cons]
    by_cases hs : s.record = r
    · rw [if_pos hs, h (hr.trans (congrArg some hs.symm))]
    · rw [if_neg hs]

/-- A field that a select defines is not looked up any further. -/
theorem Frame.applied?_enter_own {d : Definition} (hr : c.record = some s.record)
    (hd : (s.definitions.find? fun d => d.field = c.field) = some d) :
    (f.enter s).applied? use c = (some d).filter (Definition.applies use) := by
  unfold applied? definition? enter
  rw [hr, Option.bind_some, List.findSome?_cons, if_pos rfl, hd]

end Enter

/-! ### Two frames -/

/-- Expressions that are the same, and that mention references of some kind only. -/
def mentioning (g : Registry) (M : ColumnUse → FieldRef → Prop) : Likeness where
  value v v' := v = v'
  column c e' := e' = .column c ∧ M .plain c
  reference c := M .plain c
  key r := ∀ name ∈ g.keyFields r, M .key (.of r name)
  projection r names := ∀ name ∈ g.projected r names, M .projection (.of r name)

/-- Two frames that differ in the selects around at most, and in which references of some kind find the
same definitions, which mention references of that kind only. -/
structure Frame.SameFor (g : Registry) (M : ColumnUse → FieldRef → Prop) (f f' : Frame) : Prop where
  base : f' = { f with selects := f'.selects }
  registry : f.registry = g
  lookup : ∀ use c, M use c →
    Lookup (fun d d' => d.expr.Like (mentioning g M) d'.expr) (f.applied? use c) (f'.applied? use c)

section Frames

variable {g : Registry} {M : ColumnUse → FieldRef → Prop} {f f' : Frame}

theorem like_self {e : Expr} (h : ∀ o ∈ e.occurrences, ∀ use c, o.Names g use c → M use c) :
    e.Like (mentioning g M) e := by
  have hlike : e.Like (mentioning g M) (e.replace .column) := by
    refine like_replace (fun _ => rfl) fun o ho => ?_
    have hM := h o ho
    cases o with
    | column c => exact ⟨rfl, hM _ _ .column⟩
    | reference c => exact hM _ _ .reference
    | key r => exact fun name hname => hM _ _ (.key hname)
    | projection r names => exact fun name hname => hM _ _ (.projection hname)
    | definition r field => trivial
  rw [replace_of_fixed fun _ _ => rfl] at hlike
  exact hlike

theorem Frame.SameFor.enter (h : Frame.SameFor g M f f') {s s' : Select}
    (hs : s.Like (mentioning g M) s') : Frame.SameFor g M (f.enter s) (f'.enter s') := by
  have hs := Select.like_iff.1 hs
  refine ⟨by unfold Frame.enter; rw [h.base], h.registry, fun use c hM => ?_⟩
  by_cases hr : c.record = some s.record
  · have hr' : c.record = some s'.record := by rw [hr, hs.record]
    have hfind := lookup_find c.field
      (hs.definitions.imp fun d d' hd => show SameField _ d d' from ⟨hd.1, hd.2.1, hd.2.2.1⟩)
    generalize hd : (s.definitions.find? fun d => d.field = c.field) = o at hfind
    generalize hd' : (s'.definitions.find? fun d => d.field = c.field) = o' at hfind
    cases hfind with
    | none =>
      rw [applied?_enter_other fun _ => hd, applied?_enter_other fun _ => hd']
      exact h.lookup use c hM
    | some hdd =>
      rw [applied?_enter_own hr hd, applied?_enter_own hr' hd']
      exact lookup_filter (.some hdd)
  · rw [applied?_enter_other fun h => absurd h hr,
      applied?_enter_other fun h' => absurd (hs.record ▸ h') hr]
    exact h.lookup use c hM

/-- Two renderings of expressions that look up the same definitions. -/
def sameRendering {n : Nat}
    (hexp : ∀ {f f' e e'}, Frame.SameFor g M f f' → e.Like (mentioning g M) e' →
      Matches .same (· = ·) (expandWith n f e) (expandWith n f' e')) :
    Simulation (mentioning g M) where
  fails := .same
  rel _ ps qs := ps = qs
  expand := expandWith n
  expand' := expandWith n
  alike := Frame.SameFor g M
  kept _ := True
  keeps _ _ := True
  rel_nil := rfl
  rel_piece _ := rfl
  rel_value h := congrArg (fun v => [Piece.value v]) h
  rel_append h h' := congrArg₂ (· ++ ·) h h'
  rel_operand := by
    rintro _ e e' ps _ he rfl
    by_cases hcolumn : ∃ c, e = .column c
    · obtain ⟨c, rfl⟩ := hcolumn
      obtain ⟨rfl, -⟩ := he
      rfl
    · rw [isInfix_like he fun c h => hcolumn ⟨c, h⟩]
  keeps_iff := keeps_all
  base h := h.base
  enter h hs := h.enter hs
  column h hc := .inl ⟨hc.1, (h.lookup _ _ hc.2).mono fun _ _ _ hd => hexp h hd⟩
  reference h hc := (h.lookup _ _ hc).mono fun _ _ _ hd => hexp h hd
  key h hr hname := (h.lookup _ _ (hr _ (h.registry ▸ hname))).mono fun _ _ _ hd => hexp h hd
  projection h hr hname := (h.lookup _ _ (hr _ (h.registry ▸ hname))).mono fun _ _ _ hd => hexp h hd

/-- Frames that are the same for all that is mentioned give the same pieces at every depth. -/
theorem Frame.SameFor.expandWith_matches {n : Nat} {e e' : Expr} (h : Frame.SameFor g M f f')
    (he : e.Like (mentioning g M) e') :
    Matches .same (· = ·) (expandWith n f e) (expandWith n f' e') := by
  induction n generalizing f f' e e' with
  | zero => rfl
  | succ n ih => exact (sameRendering ih).expr h he

end Frames

/-! ### Renderings -/

section Renderings

variable {f f' : Frame} {e : Expr} {x y : Rendered}

/-- Frames that agree write an expression alike, at every depth. -/
theorem Frame.Agrees.expandWith_eq (h : f.Agrees f' e) (n : Nat) :
    expandWith n f' e = expandWith n f e := by
  have same : SameFor f.registry (f.Consults e) f f' := by
    refine ⟨h.base, rfl, fun use c hc => ?_⟩
    rw [h.applied use c hc]
    cases hd : f.applied? use c with
    | none => exact .none
    | some d => exact .some (like_self fun o ho use' c' hnames => .definition hc hd ho hnames)
  have like : e.Like (mentioning f.registry (f.Consults e)) e :=
    like_self fun o ho use c hnames => .mention ho hnames
  exact (same.expandWith_matches like).eq.symm

/-- Whatever an expression comes to in one of two frames that agree, it comes to that in the other one,
and to nothing else. -/
theorem Frame.Agrees.rendering_iff (h : f.Agrees f' e) (hx : f.Rendering e x) :
    f'.Rendering e y ↔ y = x := by
  have hx' : f'.Rendering e x := by
    obtain ⟨hsettles, n, hn⟩ := hx
    exact ⟨hsettles, n, (h.expandWith_eq (n + 1)).trans hn⟩
  constructor
  · exact fun hy => hy.unique hx'
  · rintro rfl
    exact hx'

/-- A select defines nothing that is looked up while an expression is written. -/
def Select.Spares (s : Select) (f : Frame) (e : Expr) : Prop :=
  ∀ use c, f.Consults e use c → c.record = some s.record → ∀ d ∈ s.definitions, d.field ≠ c.field

/-- Selects that define nothing of what is looked up change nothing. -/
theorem Frame.agrees_within {inner : List Select} (h : ∀ s ∈ inner, s.Spares f e) :
    f.Agrees (f.within inner) e := by
  refine ⟨by rw [within_eq], fun use c hc => ?_⟩
  induction inner with
  | nil => rfl
  | cons s inner ih =>
    obtain ⟨hs, hinner⟩ := List.forall_mem_cons.1 h
    rw [← ih hinner]
    refine applied?_enter_other fun hr => ?_
    refine List.find?_eq_none.2 fun d hd => ?_
    rw [decide_eq_true_iff]
    exact hs use c hc hr d hd

end Renderings

end RecordSql
