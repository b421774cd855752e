import RecordSql.Proofs.Compilation
import RecordSql.Proofs.Definition.Parentheses
import RecordSql.Proofs.Definition.Unfolding

/-!
# Substituting definitions

A definition is substituted for its columns while an expression is written. Writing it in place first
gives the same pieces but for parentheses: whether an operand needs them is decided by the column that
stands there, not by what is substituted for it.

- `Frame.Rendering`: what an expression is written as, at whatever depth of definitions.
- `Frame.Beside`: the frames of two renderings, one of which has the definitions in place already.
- `Budget`: how deep the two renderings go.
- `placed`: the pieces of both.
- `rendering_inPlace`: the same parameters, and the same texts exactly if no compound operand is lost.
-/

namespace RecordSql

/-! ### Renderings -/

/-- What an expression is written as, however deep its definitions are nested. -/
def Frame.Rendering (f : Frame) (e : Expr) (x : Rendered) : Prop :=
  Settles x ∧ ∃ n, exprPieces (expandWith n) f e = x

/-- The same place, no definition in force. -/
def Frame.undefined (f : Frame) : Frame :=
  { f with selects := [] }

/-- An operand is written as compound as what it stands for. -/
def Frame.AsCompound (f : Frame) (e : Expr) : Prop :=
  (f.inPlace e).isInfix = e.isInfix

/-! ### Depths -/

/-- How deep two renderings go, the second one having some definitions in place. `enough n m k` says that
`n` and `m` are enough for both if no more than `k` definitions in a row are in place. -/
structure Budget (bound : Nat) where
  fails : Failures
  enough : Nat → Nat → Nat → Prop
  /-- A definition that is in place needs depth of the first rendering only. -/
  inPlace : ∀ {n m k}, enough n m (k + 1) →
    (n = 0 ∧ ∀ o, fails.agree (some .circularDefinition) o) ∨ ∃ i, n = i + 1 ∧ enough i m k
  /-- A definition that is not needs depth of both. -/
  shared : ∀ {n m k}, enough n m k →
    (n = 0 ∧ ∀ o, fails.agree (some .circularDefinition) o) ∨
    (m = 0 ∧ ∀ o, fails.agree o (some .circularDefinition)) ∨
    ∃ i j, n = i + 1 ∧ m = j + 1 ∧ ∀ k' ≤ bound, enough i j k'

namespace Budget

/-- The second rendering goes as deep as the first one. -/
def first (bound : Nat) : Budget bound where
  fails := .firstDeep
  enough n m _ := n ≤ m
  inPlace := by
    intro n m k h
    cases n with
    | zero => exact .inl ⟨rfl, fun _ => .inl rfl⟩
    | succ i => exact .inr ⟨i, rfl, by omega⟩
  shared := by
    intro n m k h
    cases n with
    | zero => exact .inl ⟨rfl, fun _ => .inl rfl⟩
    | succ i =>
      obtain ⟨j, rfl⟩ : ∃ j, m = j + 1 := ⟨m - 1, by omega⟩
      exact .inr (.inr ⟨i, j, rfl, rfl, fun _ _ => by omega⟩)

/-- The first rendering goes deeper, by what is in place between any two definitions of the second. -/
def second (bound : Nat) : Budget bound where
  fails := .secondDeep
  enough n m k := m * (bound + 1) + k ≤ n
  inPlace := by
    intro n m k h
    exact .inr ⟨n - 1, by omega, by omega⟩
  shared := by
    intro n m k h
    cases m with
    | zero => exact .inr (.inl ⟨rfl, fun _ => .inl rfl⟩)
    | succ j =>
      rw [Nat.succ_mul] at h
      exact .inr (.inr ⟨n - 1, j, by omega, rfl, fun k' hk => by omega⟩)

end Budget

/-! ### Two frames -/

/-- The selects of two places inside of a frame. Around the first one all of the frame's definitions are
in force, around the second one none of them; those of the selects in between are alike. -/
structure Frame.Beside (f f₁ f₂ : Frame) (inner inner' : List (RecordType × List Definition)) : Prop where
  first : f₁ = { f with selects := inner ++ f.selects }
  second : f₂ = { f with selects := inner' }
  alike : SameFields (fun _ d d' => ∃ k ≤ f.definedColumns.length, d.expr.Like (f.unfolding k) d'.expr)
    inner inner'
  fresh : ∀ s ∈ inner, ∀ d ∈ s.2, f.definition? s.1 d.field = none

namespace Frame.Beside

variable {f f₁ f₂ : Frame} {inner inner' : List (RecordType × List Definition)}

/-- The definitions in between come before those of the frame. -/
theorem definition?_eq (h : f.Beside f₁ f₂ inner inner') (r : RecordType) (field : String) :
    f₁.definition? r field =
      (({ f with selects := inner } : Frame).definition? r field).or (f.definition? r field) := by
  rw [h.first]
  exact List.findSome?_append

/-- What the frame defines is not defined in between. -/
theorem definition?_of_some (h : f.Beside f₁ f₂ inner inner') {r : RecordType} {field : String}
    {d : Definition} (hd : f.definition? r field = some d) : f₁.definition? r field = some d := by
  rw [h.definition?_eq]
  cases hi : ({ f with selects := inner } : Frame).definition? r field with
  | none => exact hd
  | some i =>
    obtain ⟨s, hs, hr, hmem, hfield⟩ := Frame.mem_of_definition? hi
    have hnone := h.fresh s hs i hmem
    rw [hr, hfield, hd] at hnone
    cases hnone

theorem applied?_of_some (h : f.Beside f₁ f₂ inner inner') {use : ColumnUse} {c : FieldRef}
    {d : Definition} (hd : f.applied? use c = some d) : f₁.applied? use c = some d := by
  unfold Frame.applied? at hd ⊢
  cases hr : c.record with
  | none =>
    rw [hr] at hd
    cases hd
  | some r =>
    rw [hr, Option.bind_some] at hd
    obtain ⟨hdefinition, happlies⟩ := Option.filter_eq_some_iff.1 hd
    rw [Option.bind_some, h.definition?_of_some hdefinition]
    exact Option.filter_eq_some_iff.2 ⟨rfl, happlies⟩

/-- Where the frame defines nothing, both places find related definitions or none. -/
theorem lookup (h : f.Beside f₁ f₂ inner inner') {use : ColumnUse} {c : FieldRef}
    (hc : f.applied? use c = none) :
    Lookup (fun d d' => ∃ k ≤ f.definedColumns.length, d.expr.Like (f.unfolding k) d'.expr)
      (f₁.applied? use c) (f₂.applied? use c) := by
  unfold Frame.applied? at hc ⊢
  cases hr : c.record with
  | none => exact .none
  | some r =>
    rw [hr, Option.bind_some] at hc
    rw [Option.bind_some, Option.bind_some, h.definition?_eq, h.second]
    have hselects := lookup_selects r c.field h.alike
    unfold Frame.definition? at hc ⊢
    generalize inner.findSome? _ = o at hselects ⊢
    generalize inner'.findSome? _ = o' at hselects ⊢
    cases hselects with
    | none =>
      rw [Option.none_or, hc]
      exact .none
    | some hd => exact lookup_filter (.some hd)

theorem enter (h : f.Beside f₁ f₂ inner inner') {k : Nat} (hk : k ≤ f.definedColumns.length)
    {s s' : Select} (hs : s.Like (f.unfolding k) s') :
    f.Beside (f₁.enter s) (f₂.enter s') ((s.record, s.definitions) :: inner)
      ((s'.record, s'.definitions) :: inner') := by
  have hs := Select.like_iff.1 hs
  refine ⟨?first, ?second, .cons ⟨hs.record, ?alike⟩ h.alike, ?fresh⟩
  case first => rw [h.first]; rfl
  case second => rw [h.second]; rfl
  case alike => exact hs.definitions.imp fun d d' hd => ⟨hd.1, hd.2.1, k, hk, hd.2.2.1⟩
  case fresh =>
    have hnames := hs.definitions.imp fun d d' hd => And.intro hd.2.2.2 hd
    exact List.forall_mem_cons.2 ⟨((List.forall₂_and_left _ _).1 hnames).1, h.fresh⟩

end Frame.Beside

/-! ### The pieces of both renderings -/

/-- Defined fields exist. -/
def Frame.Declared (f : Frame) : Prop :=
  ∀ c d, f.applied? .plain c = some d → ∃ r schema field, c.record = some r ∧
    f.registry.schema r = .ok schema ∧ schema.getField c.field = .ok field

/-- The second pieces are the first ones with more parentheses, none of them where `k` holds. -/
def Wrapped (k : Prop) (ps qs : List Piece) : Prop :=
  ∃ n, Wraps n ps qs ∧ (n = 0 ↔ k)

section Pieces

variable {f : Frame}

/-- A column with a definition is written as its definition is. -/
theorem definedColumn_eq {expand : Frame → Expr → Rendered} {f₁ : Frame} {c : FieldRef} {d : Definition}
    (hr : f₁.registry = f.registry) (hf : f.Declared) (hd : f.applied? .plain c = some d)
    (h₁ : f₁.applied? .plain c = some d) :
    exprPieces expand f₁ (.column c) = expand f₁ d.expr := by
  obtain ⟨r, schema, field, hrecord, hschema, hfield⟩ := hf c d hd
  show referencePieces expand f₁ .plain c = _
  rw [referencePieces_eq, Frame.resolve, hrecord]
  simp only [hr, hschema, hfield, h₁, ok_bind]
  show (expand f₁ d.expr >>= fun ps => .ok (ps ++ [])) = _
  cases expand f₁ d.expr with
  | error e => rfl
  | ok ps => exact congrArg Except.ok (List.append_nil ps)

theorem isInfix_replace {σ : FieldRef → Expr} {e : Expr} (h : ∀ c, e ≠ .column c) :
    (e.replace σ).isInfix = e.isInfix := by
  cases e with
  | column c => exact absurd rfl (h c)
  | _ => rfl

theorem isInfix_like {L : Likeness} {e e' : Expr} (he : e.Like L e') (h : ∀ c, e ≠ .column c) :
    e'.isInfix = e.isInfix := by
  cases e with
  | column c => exact absurd rfl (h c)
  | literal _ => obtain rfl := he; rfl
  | isNull _ => obtain ⟨rfl, _⟩ := he; rfl
  | binary _ _ _ => obtain ⟨_, _, rfl, _⟩ := he; rfl
  | _ => obtain ⟨_, rfl, _⟩ := he; rfl

/-- An operand is wrapped once more where it is a column that stands for a compound expression. -/
theorem Wrapped.operand {k : Nat} (hk : k ≤ f.definedColumns.length) {a : Prop} {e e' : Expr}
    {ps qs : List Piece} (he : e.Like (f.unfolding k) e') (h : Wrapped a ps qs) :
    Wrapped (a ∧ f.AsCompound e) (if e.isInfix then parenthesized ps else ps)
      (if e'.isInfix then parenthesized qs else qs) := by
  obtain ⟨n, hw, hn⟩ := h
  by_cases hcolumn : ∃ c, e = .column c
  · obtain ⟨c, rfl⟩ := hcolumn
    obtain ⟨rfl, hfree, -⟩ := he
    have hplace : f.inPlace (.column c) = f.unfolded k (.column c) := Frame.unfolded_of_le hfree hk
    show Wrapped _ ps _
    unfold Frame.AsCompound
    rw [hplace]
    cases (f.unfolded k (.column c)).isInfix with
    | true => exact ⟨n + 1, hw.parens, iff_of_false (by omega) (fun h => nomatch h.2)⟩
    | false => exact ⟨n, hw, hn.trans (and_iff_left rfl).symm⟩
  · have hnot : ∀ c, e ≠ .column c := fun c h => hcolumn ⟨c, h⟩
    have hcompound : f.AsCompound e := by
      unfold Frame.AsCompound Frame.inPlace
      rw [Frame.unfolded_eq, isInfix_replace hnot]
    rw [isInfix_like he hnot]
    refine ⟨n, ?_, hn.trans (and_iff_left hcompound).symm⟩
    split
    · exact hw.parenthesized
    · exact hw

theorem keeps_applied {kept : Expr → Prop} {c : FieldRef} {d : Definition}
    (h : f.applied? .plain c = some d) : f.Keeps kept (.column c) ↔ f.Keeps kept d.expr := by
  rw [Frame.keeps_iff]
  constructor
  · exact fun hk => hk.2 f d.expr (.column h)
  · refine fun hk => ⟨trivial, fun f₂ x hx => ?_⟩
    cases hx with
    | column hd =>
      rw [h] at hd
      cases hd
      exact hk

/-- At the given depths, what is alike has the same pieces but for parentheses. -/
def Placed (f : Frame) (B : Budget f.definedColumns.length) (n m k : Nat) : Prop :=
  ∀ {f₁ f₂ inner inner' e e'}, f.Beside f₁ f₂ inner inner' → e.Like (f.unfolding k) e' →
    Matches B.fails (Wrapped (f₁.Keeps f.AsCompound e)) (exprPieces (expandWith n) f₁ e)
      (exprPieces (expandWith m) f₂ e')

variable {B : Budget f.definedColumns.length} {n m k : Nat} {f₁ f₂ : Frame}
  {inner inner' : List (RecordType × List Definition)}

/-- A definition that is in place already. -/
theorem expand_inPlace (hB : B.enough n m (k + 1)) (ih : ∀ i, n = i + 1 → B.enough i m k → Placed f B i m k)
    (h : f.Beside f₁ f₂ inner inner') {e e' : Expr} (he : e.Like (f.unfolding k) e') :
    Matches B.fails (Wrapped (f₁.Keeps f.AsCompound e)) (expandWith n f₁ e)
      (exprPieces (expandWith m) f₂ e') := by
  obtain ⟨rfl, hfails⟩ | ⟨i, rfl, hi⟩ := B.inPlace hB
  · exact .ofError hfails _
  · exact ih i rfl hi h he

/-- A definition of a select in between. -/
theorem expand_shared (hB : B.enough n m k)
    (ih : ∀ i, n = i + 1 → ∀ j k', k' ≤ f.definedColumns.length → B.enough i j k' → Placed f B i j k')
    (h : f.Beside f₁ f₂ inner inner') {e e' : Expr}
    (he : ∃ k ≤ f.definedColumns.length, e.Like (f.unfolding k) e') :
    Matches B.fails (Wrapped (f₁.Keeps f.AsCompound e)) (expandWith n f₁ e) (expandWith m f₂ e') := by
  obtain ⟨k', hk, he⟩ := he
  obtain ⟨rfl, hfails⟩ | ⟨rfl, hfails⟩ | ⟨i, j, rfl, rfl, hij⟩ := B.shared hB
  · exact .ofError hfails _
  · exact .toError hfails _
  · exact ih i rfl j k' hk (hij k' hk) h he

/-- The two renderings at depths that are enough, given that they match at smaller ones. -/
def placing (hf : f.Declared) (hk : k ≤ f.definedColumns.length) (hB : B.enough n m k)
    (ih : ∀ i, n = i + 1 → ∀ j k', k' ≤ f.definedColumns.length → B.enough i j k' → Placed f B i j k') :
    Simulation (f.unfolding k) where
  fails := B.fails
  rel := Wrapped
  expand := expandWith n
  expand' := expandWith m
  alike f₁ f₂ := ∃ inner inner', f.Beside f₁ f₂ inner inner'
  kept := f.AsCompound
  keeps f₁ e := f₁.Keeps f.AsCompound e
  rel_nil := ⟨0, .refl _, by simp⟩
  rel_piece _ := ⟨0, .refl _, by simp⟩
  rel_value := by
    rintro v _ rfl
    exact ⟨0, .refl _, by simp⟩
  rel_append := by
    rintro a b ps ps' qs qs' ⟨n, hn, ha⟩ ⟨m, hm, hb⟩
    exact ⟨n + m, hn.append hm, by rw [Nat.add_eq_zero_iff, ha, hb]⟩
  rel_operand he h := h.operand hk he
  keeps_iff := Frame.keeps_iff
  base := by
    rintro f₁ f₂ ⟨inner, inner', h⟩
    rw [h.first, h.second]
  enter := by
    rintro f₁ f₂ s s' ⟨inner, inner', h⟩ hs
    exact ⟨_, _, h.enter hk hs⟩
  column := by
    rintro f₁ f₂ c e' ⟨inner, inner', h⟩ ⟨rfl, hfree, hc⟩
    cases hd : f.applied? .plain c with
    | none =>
      have hstays : f.Free (.column c) := fun a ha => by
        cases List.mem_singleton.1 ha
        exact hd
      rw [Frame.unfolded_of_free hstays]
      exact .inl ⟨rfl, (h.lookup hd).mono fun d d' _ hdd => expand_shared hB ih h hdd⟩
    | some d =>
      have hq := hc.unqualified hd
      have h₁ := h.applied?_of_some hd
      refine .inr ?_
      cases k with
      | zero =>
        -- without any round the column is still there
        have hnone := hfree c (List.mem_singleton_self _)
        rw [hd] at hnone
        cases hnone
      | succ k =>
        rw [Frame.unfolded_column hd hq] at hfree ⊢
        rw [definedColumn_eq (by rw [h.first]) hf hd h₁, propext (keeps_applied h₁)]
        exact expand_inPlace hB (fun i hi => ih i hi m k (by omega)) h
          (Frame.like_unfolded (hc.definition hd) hfree)
  reference := by
    rintro f₁ f₂ c ⟨inner, inner', h⟩ hc
    exact (h.lookup hc).mono fun d d' _ hdd => expand_shared hB ih h hdd
  key := by
    rintro f₁ f₂ r name ⟨inner, inner', h⟩ hr hname
    rw [show f₁.registry = f.registry by rw [h.first]] at hname
    exact (h.lookup (hr name hname)).mono fun d d' _ hdd => expand_shared hB ih h hdd
  projection := by
    rintro f₁ f₂ r names name ⟨inner, inner', h⟩ hr hname
    rw [show f₁.registry = f.registry by rw [h.first]] at hname
    exact (h.lookup (hr name hname)).mono fun d d' _ hdd => expand_shared hB ih h hdd

/-- At depths that are enough, both renderings have the same pieces but for parentheses. -/
theorem placed (hf : f.Declared) (B : Budget f.definedColumns.length) (n : Nat) :
    ∀ m k, k ≤ f.definedColumns.length → B.enough n m k → Placed f B n m k := by
  induction n using Nat.strong_induction_on with
  | _ n ih =>
    intro m k hk hB f₁ f₂ inner inner' e e' h he
    exact (placing hf hk hB fun i hi => ih i (by omega)).expr ⟨inner, inner', h⟩ he

end Pieces

/-! ### One rendering -/

section Undefined

variable {f : Frame} {e : Expr}

theorem applied?_undefined (use : ColumnUse) (c : FieldRef) : f.undefined.applied? use c = none := by
  unfold Frame.applied?
  cases c.record <;> rfl

theorem names_undefined (o : Occurrence) : f.undefined.NamesByColumns o := by
  cases o with
  | column c => exact .inr (applied?_undefined .plain c)
  | reference c => exact applied?_undefined .plain c
  | key r => exact fun n _ => applied?_undefined .key (.of r n)
  | projection r names => exact fun n _ => applied?_undefined .projection (.of r n)
  | definition r field => rfl

/-- Where nothing is defined, every expression is like itself. -/
theorem like_undefined (e : Expr) : e.Like (f.undefined.unfolding 0) e :=
  Frame.like_unfolded (fun _ o _ => names_undefined o) fun c _ => applied?_undefined .plain c

/-- More depth changes nothing but that a rendering may no longer give up. -/
theorem exprPieces_mono {n m : Nat} (h : n ≤ m) :
    Matches .firstDeep Eq (exprPieces (expandWith n) f e) (exprPieces (expandWith m) f e) := by
  have hself : f.undefined.Beside f f f.selects f.selects := by
    refine ⟨by rw [Frame.undefined, List.append_nil], rfl, ?alike, fun _ _ _ _ => rfl⟩
    refine List.forall₂_same.2 fun s _ => ⟨rfl, List.forall₂_same.2 fun d _ => ⟨rfl, rfl, ?_⟩⟩
    exact ⟨0, Nat.le_refl 0, like_undefined d.expr⟩
  have hdeclared : f.undefined.Declared := by
    intro c d hd
    rw [applied?_undefined] at hd
    cases hd
  have hplaced := placed hdeclared (.first _) n m 0 (Nat.le_refl 0) h hself (like_undefined e)
  refine hplaced.mono fun ps qs ⟨k, hw, hk⟩ => hw.eq_of_zero (hk.2 fun f₂ x _ => ?_)
  cases x with
  | binary op l r => exact ⟨rfl, rfl⟩
  | _ => trivial

/-- An expression has one rendering. -/
theorem Frame.Rendering.unique {x y : Rendered} (hx : f.Rendering e x) (hy : f.Rendering e y) :
    x = y := by
  have ordered : ∀ {n m : Nat} {x y : Rendered}, Settles x → exprPieces (expandWith n) f e = x →
      exprPieces (expandWith m) f e = y → n ≤ m → x = y := by
    rintro n m _ _ hs rfl rfl h
    exact ((exprPieces_mono h).settled hs).eq
  obtain ⟨hs, n, hn⟩ := hx
  obtain ⟨ht, m, hm⟩ := hy
  obtain h | h := Nat.le_total n m
  · exact ordered hs hn hm h
  · exact (ordered ht hm hn h).symm

end Undefined

/-! ### Substituting and writing in place -/

/-- Two renderings that fail alike, or have the same parameters, and the same texts exactly if no compound
operand of the expression is lost. -/
def Frame.RenderedAlike (f : Frame) (e : Expr) : Rendered → Rendered → Prop :=
  Matches .same fun ps qs => parameters qs = parameters ps ∧ ∀ l depth,
    layoutWith (fun _ => "?") f.dialect l depth qs = layoutWith (fun _ => "?") f.dialect l depth ps ↔
      f.Keeps f.AsCompound e

/-- Definitions may be written in place: nothing is left of them then, and an expression is rendered with
them in force as it is in place without them, up to the parentheses of compound operands. -/
theorem rendering_inPlace {f : Frame} {e : Expr} (hdeclared : f.Declared) (hacyclic : f.Acyclic)
    (he : f.OnlyColumns e) :
    f.Free (f.inPlace e) ∧
    (∀ x, f.Rendering e x →
      ∃ y, f.undefined.Rendering (f.inPlace e) y ∧ f.RenderedAlike e x y) ∧
    (∀ y, f.undefined.Rendering (f.inPlace e) y → ∃ x, f.Rendering e x ∧ f.RenderedAlike e x y) := by
  have hfree := Frame.free_inPlace hacyclic he
  have hlike := Frame.like_unfolded he hfree
  have hbeside : f.Beside f f.undefined [] [] := ⟨rfl, rfl, .nil, List.forall_mem_nil _⟩
  have alike : ∀ {x y : Rendered}, Matches .same (Wrapped (f.Keeps f.AsCompound e)) x y →
      f.RenderedAlike e x y := by
    refine fun h => h.mono fun ps qs ⟨n, hw, hn⟩ => ⟨hw.parameters_eq, fun l depth => ?_⟩
    exact (hw.text_eq_iff depth).trans hn
  refine ⟨hfree, ?_, ?_⟩
  · rintro _ ⟨hs, n, rfl⟩
    have h := placed hdeclared (.first _) n n _ (Nat.le_refl _) (Nat.le_refl n) hbeside hlike
    have hsame := h.settled hs
    exact ⟨_, ⟨hsame.settles_iff.1 hs, n, rfl⟩, alike hsame⟩
  · rintro _ ⟨hs, m, rfl⟩
    -- the first rendering substitutes what is in place in the second one
    have h := placed hdeclared (.second _) _ m _ (Nat.le_refl _) (Nat.le_refl _) hbeside hlike
    have hsame := h.settledSecond hs
    exact ⟨_, ⟨hsame.settles_iff.2 hs, _, rfl⟩, alike hsame⟩

/-! ### Prices -/

/-- The price of a book. -/
def priceColumn : FieldRef :=
  .of book "price"

/-- A price that depends on the pages. -/
def pagePrice : Definition where
  field := "price"
  expr := .binary .add (.column (.of book "pages")) (.value (.integer 1))
  kind := .definition

/-- Books with prices. -/
def pricedBooks : Frame where
  dialect := .mySql
  registry := bookRegistry
  selects := [(book, [pagePrice])]

theorem applied?_pricedBooks {c : FieldRef} {d : Definition}
    (h : pricedBooks.applied? .plain c = some d) :
    c.record = some book ∧ c.field = "price" ∧ d = pagePrice := by
  obtain ⟨s, hs, hr, hmem, hfield⟩ := Frame.mem_of_applied? h
  obtain rfl := List.mem_singleton.1 hs
  obtain rfl := List.mem_singleton.1 hmem
  exact ⟨hr, hfield.symm, rfl⟩

theorem pricedBooks_declared : pricedBooks.Declared := by
  intro c d h
  obtain ⟨hr, hfield, -⟩ := applied?_pricedBooks h
  rw [hfield]
  exact ⟨book, bookSchema, _, hr, rfl, rfl⟩

theorem pricedBooks_acyclic : pricedBooks.Acyclic := by
  have step : ∀ {c c'}, pricedBooks.Refers c c' → c.field = "price" ∧ c'.field = "pages" := by
    rintro c c' ⟨d, hd, hc⟩
    obtain ⟨-, hfield, rfl⟩ := applied?_pricedBooks hd
    cases List.mem_singleton.1 hc
    exact ⟨hfield, rfl⟩
  intro c hcycle
  -- the first step of a cycle starts at a price, the last one ends at the pages
  obtain ⟨_, hfirst, -⟩ := Relation.TransGen.head'_iff.1 hcycle
  obtain ⟨_, -, hlast⟩ := Relation.TransGen.tail'_iff.1 hcycle
  have hnames := (step hfirst).1.symm.trans (step hlast).2
  exact absurd hnames (by decide)

/-- Expressions that mention prices alone. -/
theorem pricedBooks_onlyColumns {e : Expr} (h : ∀ o ∈ e.occurrences, o = .column priceColumn) :
    pricedBooks.OnlyColumns e := by
  have pages : ∀ o ∈ (e.replace pricedBooks.definiens).occurrences, o = .column (.of book "pages") := by
    intro o ho
    obtain ⟨hmem, hnot⟩ | ⟨c, hc, hmem⟩ := mem_occurrences_replace.1 ho
    · exact absurd (h o hmem) (hnot _)
    · cases h _ hc
      exact List.mem_singleton.1 hmem
  have hfree : pricedBooks.Free (e.replace pricedBooks.definiens) := by
    intro c hc
    cases pages _ hc
    rfl
  intro rounds o ho
  cases rounds with
  | zero =>
    rw [h o ho]
    exact .inl rfl
  | succ n =>
    rw [Frame.unfolded_add 1 n] at ho
    rw [pages o (Frame.unfolded_of_free hfree n ▸ ho)]
    exact .inl rfl

/-- The price in a product. -/
def doubledPrice : Expr :=
  .binary .gt (.binary .mul (.column priceColumn) (.value (.integer 2))) (.value (.integer 10))

/-- Of a sum that is substituted into a product, only the last term is multiplied. -/
theorem doubledPrice_regrouped :
    pricedBooks.Declared ∧ pricedBooks.Acyclic ∧ pricedBooks.OnlyColumns doubledPrice ∧
    ∃ ps qs, pricedBooks.Rendering doubledPrice (.ok ps) ∧
      pricedBooks.undefined.Rendering (pricedBooks.inPlace doubledPrice) (.ok qs) ∧
      layout .mySql .compact ps = "(t0.page_count + ? * ?) > ?" ∧
      layout .mySql .compact qs = "((t0.page_count + ?) * ?) > ?" := by
  refine ⟨pricedBooks_declared, pricedBooks_acyclic, pricedBooks_onlyColumns (by decide), ?_⟩
  refine ⟨_, _, ⟨nofun, 2, rfl⟩, ⟨nofun, 1, rfl⟩, ?_, ?_⟩
  · decide
  · decide

/-- The price as an argument. -/
def roundedPrice : Expr :=
  .binary .gt (.call "round" [.column priceColumn]) (.value (.integer 10))

/-- An argument needs no parentheses, so that nothing is lost. -/
theorem roundedPrice_inPlace : ∃ ps y, pricedBooks.Rendering roundedPrice (.ok ps) ∧
    layout .mySql .compact ps = "round(t0.page_count + ?) > ?" ∧
    pricedBooks.undefined.Rendering (pricedBooks.inPlace roundedPrice) y ∧
    pricedBooks.RenderedAlike roundedPrice (.ok ps) y := by
  have h := rendering_inPlace pricedBooks_declared pricedBooks_acyclic
    (pricedBooks_onlyColumns (e := roundedPrice) (by decide))
  obtain ⟨ps, hps, htext⟩ : ∃ ps, pricedBooks.Rendering roundedPrice (.ok ps) ∧
      layout .mySql .compact ps = "round(t0.page_count + ?) > ?" :=
    ⟨_, ⟨nofun, 2, rfl⟩, by decide⟩
  obtain ⟨y, hy, hxy⟩ := h.2.1 _ hps
  exact ⟨ps, y, hps, htext, hy, hxy⟩

end RecordSql
