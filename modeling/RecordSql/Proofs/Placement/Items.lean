import RecordSql.Proofs.Placement.Trees
import RecordSql.Source.Grammar.Item

/-!
# Where items stand

The fields of data types and the bodies of implementations are groups in braces. They stand one behind the
other, also across modules, since the grammar reads trees in their order and keeps no other group.

- `Block`, `Item.blocks`: the groups in braces that are kept of an item.
- `Placed`: blocks stand one behind the other.
- `Places`: what a reader keeps of trees that are laid is placed where it has read.
- `upToDepth_places`: this holds for the readers of items.
-/

namespace RecordSql.Source

/-! ### Blocks -/

/-- A group in braces that is kept of an item: the body of an implementation, or the fields of a data type,
of which only the end is kept. -/
inductive Block
  | body (span : Span)
  | fields (stop : Position)
  deriving DecidableEq, Repr

/-- Whether a block is what stands in a span. -/
def Block.Fills : Block → Span → Prop
  | body span, place => span = place
  | fields stop, place => stop = place.stop

/-- The blocks of the form of a data type. -/
def Shape.blocks : Shape → List Block
  | .named _ stop => [.fields stop]
  | _ => []

mutual

/-- The blocks of an item. -/
def Item.blocks : Item → List Block
  | .data d => d.shape.blocks
  | .implementation i => [.body i.body]
  | .module content => blocksOfItems content
  | .other => []

/-- The blocks of some items. -/
def blocksOfItems : List Item → List Block
  | [] => []
  | i :: is => i.blocks ++ blocksOfItems is

end

/-- Blocks stand one behind the other, from a character of a text up to another one. -/
inductive Placed (origin : Position) (text : List Char) : Nat → List Block → Nat → Prop
  | nil {i j} (hij : i ≤ j) : Placed origin text i [] j
  | cons {i first last j span b bs} (hi : i ≤ first) (hbraces : Braces origin text first last span)
      (hb : b.Fills span) (hrest : Placed origin text (last + 1) bs j) :
      Placed origin text i (b :: bs) j

variable {origin : Position} {text : List Char} {i j m : Nat}

namespace Placed

variable {bs cs : List Block}

theorem le (h : Placed origin text i bs j) : i ≤ j := by
  induction h with
  | nil hij => exact hij
  | cons hi hbraces _ _ ih =>
    have := hbraces.lt
    omega

theorem mono_left (h : Placed origin text m bs j) (him : i ≤ m) : Placed origin text i bs j := by
  cases h with
  | nil hij => exact .nil (Nat.le_trans him hij)
  | cons hi hbraces hb hrest => exact .cons (Nat.le_trans him hi) hbraces hb hrest

theorem append (hbs : Placed origin text i bs m) (hcs : Placed origin text m cs j) :
    Placed origin text i (bs ++ cs) j := by
  induction hbs with
  | nil hij => exact hcs.mono_left hij
  | cons hi hbraces hb _ ih => exact .cons hi hbraces hb (ih hcs)

theorem mono_right (h : Placed origin text i bs m) (hmj : m ≤ j) : Placed origin text i bs j := by
  simpa using h.append (.nil hmj)

end Placed

/-! ### Readers -/

/-- What a reader keeps of trees that are laid is placed in front of what it leaves. -/
def Places {α : Type} (origin : Position) (text : List Char) (p : Parse α) (blocks : α → List Block) : Prop :=
  ∀ ⦃ts a rest i j⦄, p.run ts = some (a, rest) → Laid origin text i ts j →
    ∃ m, Placed origin text i (blocks a) m ∧ Laid origin text m rest j

namespace Places

variable {α β : Type} {p : Parse α} {f : α → Parse β} {kept : α → List Block} {blocks : β → List Block}

/-- A result without blocks. -/
theorem pure {a : α} (h : kept a = []) : Places origin text (Pure.pure a) kept := by
  intro ts a rest i j hrun hts
  cases hrun
  rw [h]
  exact ⟨i, .nil (Nat.le_refl i), hts⟩

/-- A refusal. -/
theorem failure : Places origin text (failure : Parse α) kept :=
  fun _ _ _ _ _ h => nomatch h

/-- A first step of which no blocks are kept. -/
theorem bind (hf : ∀ a, Places origin text (f a) blocks) : Places origin text (p >>= f) blocks := by
  intro ts b rest i j hrun hts
  obtain ⟨⟨a, mid⟩, ha, hb⟩ := Option.bind_eq_some_iff.1 hrun
  exact hf a hb (hts.suffix (p.suffix ha))

/-- A last step that keeps the blocks of the one before it, or none. -/
theorem keep (hp : Places origin text p kept)
    (hf : ∀ {a ts b rest}, (f a).run ts = some (b, rest) → blocks b = [] ∨ blocks b = kept a) :
    Places origin text (p >>= f) blocks := by
  intro ts b rest i j hrun hts
  obtain ⟨⟨a, mid⟩, ha, hb⟩ := Option.bind_eq_some_iff.1 hrun
  obtain ⟨m, hplaced, hmid⟩ := hp ha hts
  refine ⟨m, ?_, hmid.suffix ((f a).suffix hb)⟩
  rcases hf hb with h | h <;> rw [h]
  · exact .nil hplaced.le
  · exact hplaced

theorem ite {c : Prop} [Decidable c] {q : Parse α} (hp : Places origin text p kept)
    (hq : Places origin text q kept) : Places origin text (if c then p else q) kept := by
  split
  · exact hp
  · exact hq

/-- A step that may be left out. -/
theorem join {c : Prop} [Decidable c] {q : Parse β} (hq : Places origin text q blocks) :
    Places origin text (if c then p >>= fun _ => q else q) blocks :=
  ite (bind fun _ => hq) hq

/-- One of two first steps. -/
theorem branch {c : Prop} [Decidable c] {p' : Parse α} (hf : ∀ a, Places origin text (f a) blocks) :
    Places origin text (if c then p >>= f else p' >>= f) blocks :=
  ite (bind hf) (bind hf)

/-- The braces around a body. -/
theorem braces : Places origin text (groupWithSpan .brace p) fun x => [.body x.2] := by
  intro ts a rest i j hrun hts
  simp only [groupWithSpan] at hrun
  split at hrun
  · split at hrun
    · rename_i hbrace
      split at hrun
      · cases hrun
        cases hts with
        | braces hi hbraces hcontent hrest =>
          exact ⟨_, .cons hi hbraces rfl (.nil (Nat.le_refl _)), hrest⟩
        | other ht => simp [← hbrace, Tree.isBraced] at ht
      · cases hrun
    · cases hrun
  · cases hrun

/-- What is kept of the content of braces is placed between them. -/
theorem group (hp : Places origin text p kept) : Places origin text (group .brace p) kept := by
  intro ts a rest i j hrun hts
  obtain ⟨⟨⟨_, span⟩, _⟩, hgroup, hrun⟩ := Option.bind_eq_some_iff.1 hrun
  cases hrun
  simp only [groupWithSpan] at hgroup
  split at hgroup
  · split at hgroup
    · rename_i hbrace
      split at hgroup
      · rename_i hcontents
        cases hgroup
        cases hts with
        | braces hi hbraces hcontent hrest =>
          obtain ⟨m, hplaced, hend⟩ := hp hcontents hcontent
          have hlast := hend.le
          exact ⟨_, (hplaced.mono_left (by omega)).mono_right (by omega), hrest⟩
        | other ht => simp [← hbrace, Tree.isBraced] at ht
      · cases hgroup
    · cases hgroup
  · cases hgroup

/-- Things that are read one after the other. -/
theorem collectAtMost {p : Parse (Option α)} (hp : Places origin text p fun o => (o.map kept).getD []) :
    ∀ n, Places origin text (Parse.collectAtMost p n) fun as => as.flatMap kept
  | 0 => fun _ _ _ _ _ h => nomatch h
  | n + 1 => by
    intro ts as rest i j hrun hts
    obtain ⟨⟨o, mid⟩, ho, hrun⟩ := Option.bind_eq_some_iff.1 hrun
    obtain ⟨m, hplaced, hmid⟩ := hp ho hts
    cases o with
    | none =>
      cases hrun
      exact ⟨m, hplaced, hmid⟩
    | some a =>
      obtain ⟨⟨more, rest'⟩, hmore, hrun⟩ := Option.bind_eq_some_iff.1 hrun
      cases hrun
      obtain ⟨k, hplaced', hrest⟩ := collectAtMost hp n hmore hmid
      exact ⟨k, hplaced.append hplaced', hrest⟩

theorem toEnd (hp : Places origin text p kept) :
    Places origin text (Parse.toEnd p) fun as => as.flatMap kept := by
  refine bind fun ts => collectAtMost ?_ _
  refine bind fun ts => ite (pure rfl) (keep hp ?_)
  intro a ts o rest hrun
  cases hrun
  exact .inr rfl

end Places

/-! ### Items -/

theorem blocksOfItems_eq (items : List Item) : blocksOfItems items = items.flatMap Item.blocks := by
  induction items with
  | nil => rfl
  | cons i is ih => rw [blocksOfItems, ih, List.flatMap_cons]

namespace Grammar

variable {g : Grammar}

theorem namedFields_places : Places origin text g.namedFields Shape.blocks := by
  intro ts shape rest i j hrun hts
  obtain ⟨⟨⟨fields, span⟩, mid⟩, hgroup, hrun⟩ := Option.bind_eq_some_iff.1 hrun
  cases hrun
  obtain ⟨m, hplaced, hrest⟩ := Places.braces hgroup hts
  cases hplaced with
  | cons hi hbraces hb hnil => exact ⟨m, .cons hi hbraces (congrArg Span.stop hb) hnil, hrest⟩

theorem structureFields_places : Places origin text g.structureFields Shape.blocks := by
  refine .bind fun ts => .ite (.bind fun _ => .bind fun _ => .bind fun _ => .pure rfl) ?_
  exact .bind fun _ => .bind fun _ => .ite (.pure rfl) namedFields_places

/-- Of a data type the fields of a structure are kept. -/
theorem dataItem_places (attributes : List Attribute) :
    Places origin text (g.dataItem attributes) fun d => d.shape.blocks := by
  refine .bind fun kind => .bind fun typeName => .bind fun _ => .ite (.keep structureFields_places ?_) ?_
  · intro shape ts d rest hrun
    cases hrun
    exact .inr rfl
  · refine .bind fun _ => .ite (.bind fun _ => .pure rfl) (.bind fun _ => .pure rfl)

/-- Of a module everything is kept that is kept of its content. -/
theorem moduleItem_places (hg : Places origin text g.item Item.blocks) :
    Places origin text g.moduleItem Item.blocks := by
  refine .bind fun _ => .bind fun _ => .bind fun _ => .join (.bind fun _ => .ite (.pure rfl) ?_)
  refine .group (.bind fun _ => .keep (.toEnd hg) ?_)
  intro items ts i rest hrun
  cases hrun
  exact .inr (blocksOfItems_eq items)

/-- An implementation keeps its body, or nothing is kept of it. -/
theorem implemented_blocks {hidden : Prop} [Decidable hidden] {subject? : Option (Bool × Ty)} {body : Span}
    {ts rest : List Tree} {i : Item}
    (hrun : (match subject? with
      | some (ofTrait, subject) =>
        if hidden then Pure.pure Item.other
        else Pure.pure (Item.implementation ⟨ofTrait, subject, body⟩)
      | none => (Pure.pure Item.other : Parse Item)).run ts = some (i, rest)) :
    i.blocks = [] ∨ i.blocks = [.body body] := by
  split at hrun
  · split at hrun <;> cases hrun
    · exact .inl rfl
    · exact .inr rfl
  · cases hrun
    exact .inl rfl

/-- The body of an implementation is the last thing that is read of it. -/
theorem implementationItem_places (shown : Bool) :
    Places origin text (g.implementationItem shown) Item.blocks := by
  refine .bind fun _ => .bind fun _ => .bind fun _ => .bind fun _ => .join (.bind fun _ => ?_)
  refine .ite (.bind fun _ => .bind fun _ => .bind fun _ => .branch fun _ => ?_)
    (.bind fun _ => .branch fun _ => ?_)
  · refine .bind fun subject? => .bind fun _ => .keep .braces fun {x ts i rest} hrun => ?_
    obtain ⟨_, body⟩ := x
    exact implemented_blocks hrun
  · refine .bind fun subject? => .bind fun _ => .keep .braces fun {x ts i rest} hrun => ?_
    obtain ⟨_, body⟩ := x
    exact implemented_blocks hrun

theorem ignoring_places (p : Parse Unit) : Places origin text (ignoring p) Item.blocks :=
  .bind fun _ => .pure rfl

/-- What is kept of an item is placed where it has been read. -/
theorem readItem_places (hg : Places origin text g.item Item.blocks) :
    Places origin text g.readItem Item.blocks := by
  refine .bind fun attributes => .bind fun shown => .bind fun ts => ?_
  refine .ite (ignoring_places _) (.ite (ignoring_places _) (.ite (.bind fun _ => ignoring_places _) ?_))
  refine .ite (ignoring_places _) (.ite (ignoring_places _) (.ite (ignoring_places _) ?_))
  refine .ite (ignoring_places _) (.ite (implementationItem_places shown) (.ite (moduleItem_places hg) ?_))
  refine .ite (ignoring_places _) (.ite (.keep (dataItem_places attributes) ?_) ?_)
  · intro d ts i rest hrun
    cases hrun
    exact .inr rfl
  · exact .ite (ignoring_places _) (.bind fun _ => ignoring_places _)

/-- Items nest to any depth. -/
theorem upToDepth_places (depth : Nat) : Places origin text (upToDepth depth).item Item.blocks := by
  induction depth with
  | zero => exact .failure
  | succ depth ih => exact readItem_places ih

/-- All items of a file. -/
theorem items_places (depth : Nat) : Places origin text
    (do (upToDepth depth).innerAttributes; Parse.toEnd (upToDepth depth).item) blocksOfItems := by
  rw [show blocksOfItems = fun is : List Item => is.flatMap Item.blocks from funext blocksOfItems_eq]
  exact .bind fun _ => .toEnd (upToDepth_places depth)

end Grammar

end RecordSql.Source
