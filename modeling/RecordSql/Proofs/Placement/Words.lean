import RecordSql.Proofs.Placement.Suffixes
import RecordSql.Source.File

/-!
# Names of items

A name consists of characters of identifiers, so it is written on one line. The names that are kept of a file
are among the identifiers of its token trees, whatever else a reader does with them.

- `Tree.Inline`: all identifiers of a tree are written on one line.
- `markedTrees?_inline`: the trees of a text are such.
- `Yields`: what is known of what a reader makes of such trees.
- `parseItems?_inline`: the names of data types and of their fields are written on one line.
-/

namespace RecordSql.Source

open RecordSql.Text Parse

/-! ### Tokens -/

/-- A name that is written on one line. -/
def Ident.Inline (i : Ident) : Prop := '\n' ∉ i.name.toList

/-- Every identifier of a tree is written on one line. -/
inductive Tree.Inline : Tree → Prop
  | ident {i span} (hi : i.Inline) : Inline (.ident i span)
  | punct {mark joint span} : Inline (.punct mark joint span)
  | literal {text span} : Inline (.literal text span)
  | group {delimiter content span} (hcontent : ∀ t ∈ content, Tree.Inline t) :
      Inline (.group delimiter content span)

/-- Every identifier of a token is written on one line. -/
def Lexeme.Inline : Lexeme → Prop
  | .leaf t => t.Inline
  | _ => True

section

variable {cs rest : List Char}

theorem ident?_inline {i : Ident} (h : ident? cs = some (i, rest)) : i.Inline := by
  have hnamed : ∀ raw named, ((identEnd? named).bind fun rest =>
      let name := String.ofList (before named rest)
      if raw && neverRaw.contains name then none else some ((⟨raw, name⟩ : Ident), rest)) = some (i, rest) →
      i.Inline := by
    intro raw named h
    obtain ⟨behind, hend, h⟩ := Option.bind_eq_some_iff.1 h
    simp only [Option.ite_none_left_eq_some, Option.some.injEq, Prod.mk.injEq] at h
    rw [← h.2.1, Ident.Inline, String.toList_ofList]
    unfold identEnd? at hend
    cases named with
    | nil => cases hend
    | cons c cs =>
      simp only [Option.ite_none_right_eq_some, Option.some.injEq] at hend
      obtain ⟨hstart, rfl⟩ := hend
      have hbefore : before (c :: cs) (cs.dropWhile isIdentContinue) = c :: cs.takeWhile isIdentContinue := by
        refine (List.append_left_inj (cs.dropWhile isIdentContinue)).1 ?_
        rw [before_append ((List.dropWhile_suffix _).trans (List.suffix_cons _ _)), List.cons_append,
          List.takeWhile_append_dropWhile]
      rw [hbefore]
      intro hmem
      rcases List.mem_cons.1 hmem with rfl | hmem
      · exact absurd hstart (by decide +kernel)
      · have hall := List.all_eq_true.1 (List.all_takeWhile (l := cs) (p := isIdentContinue)) _ hmem
        exact absurd hall (by decide +kernel)
  exact hnamed _ _ h

theorem leaf?_inline {tree : Span → Tree} (h : leaf? cs = some (tree, rest)) (span : Span) :
    (tree span).Inline := by
  unfold leaf? at h
  split at h
  · cases h
    exact .literal
  · split at h
    · obtain ⟨_, -, h⟩ := Option.map_eq_some_iff.1 h
      cases h
      exact .punct
    · cases h
      exact .punct
    · split at h
      · cases h
      · obtain ⟨_, hident, h⟩ := Option.map_eq_some_iff.1 h
        cases h
        exact .ident (ident?_inline hident)

theorem documentationLexemes_inline (inner : Bool) (comment : List Char) (span : Span) :
    ∀ l ∈ documentationLexemes inner comment span, l.Inline := by
  have hdoc : (Tree.ident (.plain "doc") span).Inline := .ident (show '\n' ∉ "doc".toList by decide)
  have hmark : ∀ c, (Tree.punct c false span).Inline := fun _ => .punct
  have htext : ∀ t, (Tree.literal t span).Inline := fun _ => .literal
  cases inner <;> simp [documentationLexemes, Lexeme.Inline, hdoc, hmark, htext]

theorem bracket?_inline {c : Char} {lexeme : Span → Lexeme} (h : bracket? c = some lexeme) (span : Span) :
    (lexeme span).Inline := by
  unfold bracket? at h
  repeat' split at h
  all_goals cases h
  all_goals exact trivial

/-- The tokens of a text are written on one line. -/
theorem lexemesFrom?_inline {fuel : Nat} {acc ls : List Lexeme} {p : Position} {text : List Char}
    (h : lexemesFrom? fuel acc p text = some ls) (hacc : ∀ l ∈ acc, l.Inline) : ∀ l ∈ ls, l.Inline := by
  induction fuel generalizing acc p text with
  | zero => cases h
  | succ fuel ih =>
    simp only [lexemesFrom?] at h
    split at h
    · split at h
      · refine ih h fun l hl => ?_
        rcases List.mem_append.1 hl with hl | hl
        · exact documentationLexemes_inline _ _ _ l (List.mem_reverse.1 hl)
        · exact hacc l hl
      · cases h
    · split at h
      · cases h
        exact fun l hl => hacc l (List.mem_reverse.1 hl)
      · split at h
        · rename_i hbracket
          exact ih h (List.forall_mem_cons.2 ⟨bracket?_inline hbracket _, hacc⟩)
        · split at h
          · rename_i hleaf
            exact ih h (List.forall_mem_cons.2 ⟨leaf?_inline hleaf _, hacc⟩)
          · cases h

end

/-! ### Trees -/

theorem nest?_inline {opened : List OpenGroup} {done ts : List Tree} {ls : List Lexeme}
    (h : nest? opened done ls = some ts) (hopened : ∀ g ∈ opened, ∀ t ∈ g.earlier, t.Inline)
    (hdone : ∀ t ∈ done, t.Inline) (hls : ∀ l ∈ ls, l.Inline) : ∀ t ∈ ts, t.Inline := by
  fun_induction nest? opened done ls with
  | case1 done =>
    cases h
    exact fun t ht => hdone t (List.mem_reverse.1 ht)
  | case2 => cases h
  | case3 opened done d span ls ih =>
    exact ih h (List.forall_mem_cons.2 ⟨hdone, hopened⟩) (List.forall_mem_nil _) (List.forall_mem_cons.1 hls).2
  | case4 => cases h
  | case5 g opened done span ls ih =>
    obtain ⟨hg, hopened⟩ := List.forall_mem_cons.1 hopened
    refine ih h hopened (List.forall_mem_cons.2 ⟨.group fun t ht => ?_, hg⟩) (List.forall_mem_cons.1 hls).2
    exact hdone t (List.mem_reverse.1 ht)
  | case6 => cases h
  | case7 opened done t ls ih =>
    obtain ⟨ht, hls⟩ := List.forall_mem_cons.1 hls
    exact ih h hopened (List.forall_mem_cons.2 ⟨ht, hdone⟩) hls

/-- The identifiers of a text are written on one line. -/
theorem markedTrees?_inline {text : List Char} {trees : List Tree} (h : markedTrees? text = some trees) :
    ∀ t ∈ trees, t.Inline := by
  have hall : ∀ {fuel : Nat} {p : Position} {text : List Char},
      (lexemesFrom? fuel [] p text).bind (nest? [] []) = some trees → ∀ t ∈ trees, t.Inline := by
    intro fuel p text h
    obtain ⟨ls, hls, htrees⟩ := Option.bind_eq_some_iff.1 h
    exact nest?_inline htrees (List.forall_mem_nil _) (List.forall_mem_nil _)
      (lexemesFrom?_inline hls (List.forall_mem_nil _))
  unfold markedTrees? at h
  split at h
  · split at h
    · exact hall h
    · exact hall h
  · exact hall h

/-! ### Readers -/

/-- What is known of what a reader makes of trees whose identifiers are written on one line. -/
def Yields {α : Type} (p : Parse α) (good : α → Prop) : Prop :=
  ∀ ⦃ts a rest⦄, p.run ts = some (a, rest) → (∀ t ∈ ts, t.Inline) → good a

namespace Yields

variable {α β : Type} {p : Parse α} {f : α → Parse β} {kept : α → Prop} {good : β → Prop}

theorem pure {a : α} (h : kept a) : Yields (Pure.pure a) kept := by
  intro ts b rest hrun _
  cases hrun
  exact h

theorem failure : Yields (failure : Parse α) kept := fun _ _ _ h => nomatch h

/-- One step after another. -/
theorem andThen (hp : Yields p kept) (hf : ∀ a, kept a → Yields (f a) good) : Yields (p >>= f) good := by
  intro ts b rest hrun hts
  obtain ⟨⟨a, mid⟩, ha, hb⟩ := Option.bind_eq_some_iff.1 hrun
  exact hf a (hp ha hts) hb fun t ht => hts t ((p.suffix ha).subset ht)

/-- A first step of which nothing is known. -/
theorem bind (hf : ∀ a, Yields (f a) good) : Yields (p >>= f) good := by
  have hp : Yields p fun _ => True := fun _ _ _ _ _ => trivial
  exact hp.andThen fun a _ => hf a

theorem ite {c : Prop} [Decidable c] {q : Parse α} (hp : Yields p kept) (hq : Yields q kept) :
    Yields (if c then p else q) kept := by
  split
  · exact hp
  · exact hq

/-- A step that may be left out. -/
theorem join {c : Prop} [Decidable c] {q : Parse β} (hq : Yields q good) :
    Yields (if c then p >>= fun _ => q else q) good :=
  ite (bind fun _ => hq) hq

/-- One of two first steps of which nothing is known. -/
theorem branch {c : Prop} [Decidable c] {p' : Parse α} (hf : ∀ a, Yields (f a) good) :
    Yields (if c then p >>= f else p' >>= f) good :=
  ite (bind hf) (bind hf)

theorem identWith (test : Ident → Bool) : Yields (identWith test) Ident.Inline := by
  intro ts i rest hrun hts
  simp only [Source.identWith] at hrun
  split at hrun
  · split at hrun
    · cases hrun
      cases hts _ List.mem_cons_self with
      | ident hi => exact hi
    · cases hrun
  · cases hrun

/-- What is made of a group is made of its content. -/
theorem groupWithSpan {d : Delimiter} (hp : Yields p kept) :
    Yields (groupWithSpan d p) fun x => kept x.1 := by
  intro ts x rest hrun hts
  simp only [Source.groupWithSpan] at hrun
  split at hrun
  · split at hrun
    · split at hrun
      · rename_i hcontent
        cases hrun
        cases hts _ List.mem_cons_self with
        | group hinline => exact hp hcontent hinline
      · cases hrun
    · cases hrun
  · cases hrun

theorem group {d : Delimiter} (hp : Yields p kept) : Yields (group d p) kept :=
  andThen hp.groupWithSpan fun _ ha => pure ha

/-- Things that are read one after the other. -/
theorem collectAtMost {p : Parse (Option α)} (hp : Yields p fun o => ∀ a ∈ o, kept a) :
    ∀ n, Yields (Parse.collectAtMost p n) fun as => ∀ a ∈ as, kept a
  | 0 => failure
  | n + 1 => by
    refine andThen hp fun o ho => ?_
    cases o with
    | none => exact pure (List.forall_mem_nil _)
    | some a =>
      exact andThen (collectAtMost hp n) fun as has => pure (List.forall_mem_cons.2 ⟨ho a rfl, has⟩)

theorem upTo {stop : List Tree → Bool} (hp : Yields p kept) :
    Yields (Parse.upTo stop p) fun as => ∀ a ∈ as, kept a := by
  refine bind fun ts => collectAtMost ?_ _
  refine bind fun ts => ite (pure nofun) (andThen hp fun a ha => pure ?_)
  rintro b ⟨⟩
  exact ha

theorem terminated (hp : Yields p kept) : Yields (Parse.terminated p) fun as => ∀ a ∈ as, kept a := by
  refine upTo (andThen hp fun a ha => bind fun ts => ?_)
  exact ite (bind fun _ => pure ha) (pure ha)

end Yields

/-! ### Items -/

/-- The names of the fields of a data type are written on one line. -/
def Shape.Inline : Shape → Prop
  | .named fields _ => ∀ f ∈ fields, f.name.Inline
  | _ => True

/-- The names of an item are written on one line. -/
inductive Item.Inline : Item → Prop
  | data {d} (hname : d.name.Inline) (hshape : d.shape.Inline) : Inline (.data d)
  | module {content} (hcontent : ∀ i ∈ content, Item.Inline i) : Inline (.module content)
  | implementation {i} : Inline (.implementation i)
  | other : Inline .other

namespace Grammar

variable {g : Grammar}

/-- A field behind its attributes has the name that it begins with. -/
theorem namedFieldBehind_inline (attributes : List Attribute) (p : Ident → Bool) :
    Yields (do
      let fieldName ← identWith p
      op ":"
      let (type, trees) ← withTrees (g.type true)
      let first := (trees.head?.map Tree.span).getD default
      let last := (trees.getLast?.map Tree.span).getD default
      return (⟨attributes, fieldName, type, ⟨first.start, last.stop⟩⟩ : Field)) fun f => f.name.Inline :=
  .andThen (.identWith p) fun _ hi => .bind fun _ => .bind fun _ => .pure hi

theorem namedField_inline : Yields g.namedField fun f => f.name.Inline :=
  .bind fun attributes => .bind fun _ => .bind fun _ =>
    .ite (namedFieldBehind_inline attributes _) (namedFieldBehind_inline attributes _)

theorem namedFields_inline : Yields g.namedFields Shape.Inline :=
  .andThen (.groupWithSpan (.terminated namedField_inline)) fun _ h => .pure h

theorem structureFields_inline : Yields g.structureFields Shape.Inline := by
  refine .bind fun ts => .ite (.bind fun _ => .bind fun _ => .bind fun _ => .pure trivial) ?_
  exact .bind fun _ => .bind fun _ => .ite (.pure trivial) namedFields_inline

theorem dataItem_inline (attributes : List Attribute) :
    Yields (g.dataItem attributes) fun d => d.name.Inline ∧ d.shape.Inline := by
  refine .bind fun kind => .andThen (.identWith _) fun i hi => .bind fun _ => .ite ?_ ?_
  · exact .andThen structureFields_inline fun shape h => .pure ⟨hi, h⟩
  · exact .bind fun _ => .ite (.bind fun _ => .pure ⟨hi, trivial⟩) (.bind fun _ => .pure ⟨hi, trivial⟩)

theorem moduleItem_inline (hg : Yields g.item Item.Inline) : Yields g.moduleItem Item.Inline := by
  have hcontent : Yields (do if ← op? ";" then return .other else
      group .brace do
        g.innerAttributes
        return .module (← toEnd g.item)) Item.Inline :=
    .bind fun _ => .ite (.pure .other) (.group (.bind fun _ => .andThen (.upTo hg) fun _ h => .pure (.module h)))
  exact .bind fun _ => .bind fun _ => .bind fun _ => .join hcontent

/-- An implementation has no name, with a subject or without one. -/
theorem implemented_inline {hidden : Prop} [Decidable hidden] {subject? : Option (Bool × Ty)} {body : Span} :
    Yields (match subject? with
      | some (ofTrait, subject) =>
        if hidden then Pure.pure Item.other
        else Pure.pure (Item.implementation ⟨ofTrait, subject, body⟩)
      | none => (Pure.pure Item.other : Parse Item)) Item.Inline := by
  split
  · exact .ite (.pure .other) (.pure .implementation)
  · exact .pure .other

theorem implementationItem_inline (shown : Bool) : Yields (g.implementationItem shown) Item.Inline := by
  refine .bind fun _ => .bind fun _ => .bind fun _ => .bind fun _ => .join (.bind fun _ => ?_)
  refine .ite (.bind fun _ => .bind fun _ => .bind fun _ => .branch fun _ => ?_)
    (.bind fun _ => .branch fun _ => ?_)
  · exact .bind fun _ => .bind fun _ => .bind fun _ => implemented_inline
  · exact .bind fun _ => .bind fun _ => .bind fun _ => implemented_inline

theorem ignoring_inline (p : Parse Unit) : Yields (ignoring p) Item.Inline := .bind fun _ => .pure .other

theorem readItem_inline (hg : Yields g.item Item.Inline) : Yields g.readItem Item.Inline := by
  refine .bind fun attributes => .bind fun shown => .bind fun ts => ?_
  refine .ite (ignoring_inline _) (.ite (ignoring_inline _) (.ite (.bind fun _ => ignoring_inline _) ?_))
  refine .ite (ignoring_inline _) (.ite (ignoring_inline _) (.ite (ignoring_inline _) ?_))
  refine .ite (ignoring_inline _) (.ite (implementationItem_inline shown) (.ite (moduleItem_inline hg) ?_))
  refine .ite (ignoring_inline _) (.ite (.andThen (dataItem_inline attributes) ?_) ?_)
  · exact fun d hd => .pure (.data hd.1 hd.2)
  · exact .ite (ignoring_inline _) (.bind fun _ => ignoring_inline _)

theorem upToDepth_inline (depth : Nat) : Yields (upToDepth depth).item Item.Inline := by
  induction depth with
  | zero => exact .failure
  | succ depth ih => exact readItem_inline ih

end Grammar

/-- The names of the items of a file are written on one line. -/
theorem parseItems?_inline {text : List Char} {items : List Item} (h : parseItems? text = some items) :
    ∀ i ∈ items, i.Inline := by
  obtain ⟨trees, htrees, h⟩ := Option.bind_eq_some_iff.1 h
  unfold parseAll? at h
  split at h
  · rename_i hrun
    cases h
    refine Yields.bind (fun _ => .upTo (Grammar.upToDepth_inline _)) hrun (markedTrees?_inline htrees)
  · cases h

end RecordSql.Source
