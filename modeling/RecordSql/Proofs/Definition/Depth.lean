import Mathlib.Data.Fintype.Powerset
import Mathlib.Data.Fintype.Prod
import RecordSql.Proofs.Definition.Ranked

/-!
# How deep definitions are nested

Definitions that cannot be ranked may still come to an end: a sub-select gives a field another meaning, and
the chain of definitions goes on under this one. What an expression comes to depends on the definitions that
are in force around it. If a chain meets a definition twice with the same ones in force, then it never ends; so
a chain that ends is no longer than there are definitions together with a choice of those in force.

- `Frame.inForce`: which definitions of a statement are in force.
- `Frame.Height`: how deep definitions have to be substituted for an expression.
- `Frame.Height.next`: an expression asks for a definition that is one step less high.
- `Frame.Height.le`: no height is above the depth to which definitions are substituted.
- `expandWith_enough`: an expression that comes to something at any depth comes to it at this one.
- `freeExpr_rendered`, `statement_endless`: expressions and statements for which writing gives up.
-/

namespace RecordSql

/-! ### Definitions in force -/

/-- The selects around a site and inside of what is written there are some of a list, with all that are inside
of them. -/
def Site.Inside (all : List Select) (p : Site) : Prop :=
  (∀ t ∈ p.around, t :: t.nested ⊆ all) ∧ p.item.selects ⊆ all

/-- Which of some definitions are in force. -/
def Frame.inForce (f : Frame) (ds : List (RecordType × Definition)) : Set (Fin ds.length) :=
  {i | f.definition? ds[i].1 ds[i].2.field = some ds[i].2}

section InForce

variable {f : Frame} {all around around' : List Select}

/-- A definition that is found stands in the list of all definitions, and it is in force. -/
theorem Frame.exists_inForce (hf : f.selects = []) (haround : ∀ t ∈ around, t :: t.nested ⊆ all)
    {r : RecordType} {field : String} {d : Definition} (h : (f.within around).definition? r field = some d) :
    ∃ i ∈ (f.within around).inForce (definitionsOf all),
      (definitionsOf all)[i] = (r, d) ∧ d.field = field := by
  obtain ⟨p, hp, hr, hd, hfield⟩ := mem_of_definition? h
  rw [within_eq, hf, List.append_nil] at hp
  obtain ⟨t, ht, rfl⟩ := List.mem_map.1 hp
  obtain ⟨i, hi, hget⟩ := List.getElem_of_mem (mem_definitionsOf (haround t ht List.mem_cons_self) hd)
  have hget : (definitionsOf all)[i] = (r, d) := hget.trans (congrArg (·, d) hr)
  refine ⟨⟨i, hi⟩, ?_, hget, hfield⟩
  show (f.within around).definition? (definitionsOf all)[i].1 (definitionsOf all)[i].2.field =
    some (definitionsOf all)[i].2
  rw [hget, hfield, h]

/-- Where the same definitions are in force, every field has the same one. -/
theorem Frame.definition?_of_inForce (hf : f.selects = []) (haround : ∀ t ∈ around, t :: t.nested ⊆ all)
    (haround' : ∀ t ∈ around', t :: t.nested ⊆ all)
    (hsame : (f.within around).inForce (definitionsOf all) = (f.within around').inForce (definitionsOf all))
    (r : RecordType) (field : String) :
    (f.within around).definition? r field = (f.within around').definition? r field := by
  have found : ∀ {a b : List Select} {d : Definition}, (∀ t ∈ a, t :: t.nested ⊆ all) →
      (f.within a).inForce (definitionsOf all) = (f.within b).inForce (definitionsOf all) →
      (f.within a).definition? r field = some d → (f.within b).definition? r field = some d := by
    intro a b d ha hab hd
    obtain ⟨i, hi, hget, hfield⟩ := exists_inForce hf ha hd
    rw [hab] at hi
    have hfound : (f.within b).definition? (definitionsOf all)[i].1 (definitionsOf all)[i].2.field =
        some (definitionsOf all)[i].2 := hi
    rwa [hget, hfield] at hfound
  exact Option.ext fun d => ⟨found haround hsame, found haround' hsame.symm⟩

/-- Where the same definitions are in force, an expression comes to the same. -/
theorem expandWith_of_inForce (hf : f.selects = []) (haround : ∀ t ∈ around, t :: t.nested ⊆ all)
    (haround' : ∀ t ∈ around', t :: t.nested ⊆ all)
    (hsame : (f.within around).inForce (definitionsOf all) = (f.within around').inForce (definitionsOf all))
    (n : Nat) (e : Expr) : expandWith n (f.within around') e = expandWith n (f.within around) e := by
  have hagrees : (f.within around).Agrees (f.within around') e := by
    refine ⟨by rw [Frame.within_eq, Frame.within_eq], fun use c _ => ?_⟩
    unfold Frame.applied?
    cases c.record with
    | none => rfl
    | some r =>
      rw [Option.bind_some, Option.bind_some, Frame.definition?_of_inForce hf haround haround' hsame]
  exact hagrees.expandWith_eq n

end InForce

/-! ### Heights -/

section Heights

variable {f : Frame} {e : Expr} {n m : Nat}

theorem not_settles_zero : ¬Settles (expandWith 0 f e) :=
  fun h => h rfl

/-- What an expression comes to at some depth, it comes to at all greater ones. -/
theorem expandWith_of_le (h : Settles (expandWith n f e)) (hle : n ≤ m) :
    expandWith m f e = expandWith n f e := by
  obtain ⟨k, rfl⟩ : ∃ k, n = k + 1 := by
    refine Nat.exists_eq_succ_of_ne_zero ?_
    rintro rfl
    exact not_settles_zero h
  obtain ⟨l, rfl⟩ : ∃ l, m = l + 1 := ⟨m - 1, by omega⟩
  exact ((exprPieces_mono (Nat.le_of_succ_le_succ hle)).settled h).eq.symm

theorem settles_of_le (h : Settles (expandWith n f e)) (hle : n ≤ m) : Settles (expandWith m f e) := by
  rw [expandWith_of_le h hle]
  exact h

/-- An expression is written at a depth, and at no smaller one. -/
structure Frame.Height (f : Frame) (e : Expr) (n : Nat) : Prop where
  settles : Settles (expandWith n f e)
  least : ∀ m < n, ¬Settles (expandWith m f e)

namespace Frame.Height

/-- Whatever is written at some depth has a height up to there. -/
theorem exists_of_settles (h : Settles (expandWith n f e)) : ∃ m ≤ n, f.Height e m := by
  induction n using Nat.strong_induction_on with
  | _ n ih =>
    by_cases hleast : ∀ m < n, ¬Settles (expandWith m f e)
    · exact ⟨n, Nat.le_refl n, h, hleast⟩
    · push Not at hleast
      obtain ⟨m, hm, hsettles⟩ := hleast
      obtain ⟨l, hl, hheight⟩ := ih m hm hsettles
      exact ⟨l, by omega, hheight⟩

theorem unique (hn : f.Height e n) (hm : f.Height e m) : n = m := by
  rcases Nat.lt_trichotomy n m with hlt | rfl | hlt
  · exact absurd hn.settles (hm.least n hlt)
  · rfl
  · exact absurd hm.settles (hn.least m hlt)

theorem congr {f' : Frame} (h : ∀ n, expandWith n f' e = expandWith n f e) (hn : f.Height e n) :
    f'.Height e n :=
  ⟨h n ▸ hn.settles, fun m hm => h m ▸ hn.least m hm⟩

variable {all around : List Select}

/-- An expression of some height asks for a definition that is one step less high: if all definitions that it
asks for came to the same at both depths, then so would the expression. -/
theorem next (hf : f.selects = []) (hp : Site.Inside all ⟨around, .expr e⟩)
    (h : (f.within around).Height e (n + 2)) :
    ∃ inner, ∃ i ∈ (f.within inner).inForce (definitionsOf all),
      Site.Inside all ⟨inner, .expr (definitionsOf all)[i].2.expr⟩ ∧
      (f.within inner).Height (definitionsOf all)[i].2.expr (n + 1) := by
  by_contra hnone
  push Not at hnone
  have hunwinds : f.Unwinds (fun _ => True) (expandWith n) (expandWith (n + 1)) (Site.Inside all) := by
    refine ⟨fun _ _ => trivial, fun hp hpq _ => hpq.selects_subset hf hp, ?_⟩
    intro inner use c d hc hd
    refine ⟨?_, fun _ _ => trivial⟩
    obtain ⟨r, -, hdefinition⟩ := Option.bind_eq_some_iff.1 hd
    obtain ⟨i, hi, hget, -⟩ := exists_inForce hf hc.1 (Option.filter_eq_some_iff.1 hdefinition).1
    have hexpr : (definitionsOf all)[i].2.expr = d.expr := by rw [hget]
    have hlower := hnone inner i hi (hexpr ▸ (Frame.Leads.definition hd).selects_subset hf hc)
    rw [hexpr] at hlower
    by_cases hsettles : Settles (expandWith n (f.within inner) d.expr)
    · exact (expandWith_of_le hsettles (Nat.le_succ n)).symm
    · -- neither depth is enough, or else this would be a definition as it is looked for
      have hdeeper : ¬Settles (expandWith (n + 1) (f.within inner) d.expr) := by
        intro hdeeper
        refine hlower ⟨hdeeper, fun m hm hm' => ?_⟩
        exact hsettles (settles_of_le hm' (Nat.le_of_lt_succ hm))
      exact (not_not.1 hsettles).trans (not_not.1 hdeeper).symm
  have hsame : expandWith (n + 1) (f.within around) e = expandWith (n + 2) (f.within around) e :=
    (hunwinds.expr_concurs hp).1
  exact h.least (n + 1) (Nat.lt_succ_self _) (hsame ▸ h.settles)

/-- Below an expression of some height there are definitions of all smaller heights. -/
theorem below (hf : f.selects = []) (hp : Site.Inside all ⟨around, .expr e⟩)
    (h : (f.within around).Height e (n + 1)) (hm : m < n) :
    ∃ inner, ∃ i ∈ (f.within inner).inForce (definitionsOf all),
      Site.Inside all ⟨inner, .expr (definitionsOf all)[i].2.expr⟩ ∧
      (f.within inner).Height (definitionsOf all)[i].2.expr (m + 1) := by
  induction n generalizing around e with
  | zero => omega
  | succ n ih =>
    obtain ⟨inner, i, hi, hinside, hheight⟩ := h.next hf hp
    rcases Nat.lt_or_ge m n with hlt | hge
    · exact ih hinside hheight hlt
    · obtain rfl : m = n := by omega
      exact ⟨inner, i, hi, hinside, hheight⟩

/-- No height is above the depth to which definitions are substituted: definitions of different heights differ,
or else they are met with different definitions in force. -/
theorem le (hf : f.selects = []) (hp : Site.Inside all ⟨around, .expr e⟩)
    (h : (f.within around).Height e n) : n ≤ expansionDepth (definitionsOf all).length := by
  obtain rfl | ⟨k, rfl⟩ : n = 0 ∨ ∃ k, n = k + 1 := by
    cases n with
    | zero => exact .inl rfl
    | succ k => exact .inr ⟨k, rfl⟩
  · exact Nat.zero_le _
  have hbelow : ∀ m : Fin k, _ := fun m => h.below hf hp m.isLt
  choose inner i _ hinside hheight using hbelow
  have hinjective : Function.Injective fun m : Fin k =>
      (i m, (f.within (inner m)).inForce (definitionsOf all)) := by
    intro m l heq
    obtain ⟨hi, hforce⟩ := Prod.mk.inj heq
    have hsame := expandWith_of_inForce hf (hinside m).1 (hinside l).1 hforce
    have hm : (f.within (inner l)).Height _ _ := (hheight m).congr fun n => hsame n _
    rw [hi] at hm
    exact Fin.ext (Nat.succ.inj (hm.unique (hheight l)))
  have hcard := Fintype.card_le_of_injective _ hinjective
  rw [Fintype.card_fin, Fintype.card_prod, Fintype.card_fin, Fintype.card_set, Fintype.card_fin] at hcard
  exact Nat.succ_le_succ hcard

end Frame.Height

end Heights

/-! ### Enough depth -/

section Enough

variable {f : Frame} {e : Expr} {all around : List Select}

/-- What an expression comes to at any depth, it comes to at the depth to which definitions are substituted, and
at all greater ones. -/
theorem expandWith_enough (hf : f.selects = []) (hp : Site.Inside all ⟨around, .expr e⟩) {n m : Nat}
    (h : Settles (expandWith n (f.within around) e)) (hm : expansionDepth (definitionsOf all).length ≤ m) :
    expandWith m (f.within around) e = expandWith n (f.within around) e := by
  obtain ⟨k, hk, hheight⟩ := Frame.Height.exists_of_settles h
  have hle := hheight.le hf hp
  rw [expandWith_of_le hheight.settles hk, expandWith_of_le hheight.settles (hle.trans hm)]

/-- A free-standing expression is written as whatever it comes to at any depth. It gives up only if it comes to
nothing at all depths. -/
theorem freeExpr_rendered (dialect : Dialect) (g : Registry) (e : Expr) :
    (∀ x, ({ dialect := dialect, registry := g } : Frame).Rendering e x → freeExprPieces dialect g e = x) ∧
    (freeExprPieces dialect g e = .error .circularDefinition →
      ∀ n, ¬Settles (expandWith n { dialect := dialect, registry := g } e)) := by
  have inside : Site.Inside e.selects ⟨[], .expr e⟩ := ⟨List.forall_mem_nil _, List.Subset.refl _⟩
  have enough : ∀ n, Settles (expandWith n { dialect := dialect, registry := g } e) →
      freeExprPieces dialect g e = expandWith n { dialect := dialect, registry := g } e := by
    intro n hn
    have hsame := expandWith_enough (f := { dialect := dialect, registry := g }) rfl inside hn (Nat.le_refl _)
    rwa [e.definitions_length] at hsame
  refine ⟨?_, fun hgives n hn => hn ((enough n hn).symm.trans hgives)⟩
  rintro x ⟨hx, n, rfl⟩
  exact enough (n + 1) hx

/-- A statement gives up only for a definition that comes to nothing at all depths, where a reference to its
field is reached. All definitions that come to something are substituted. -/
theorem statement_endless {dialect : Dialect} {g : Registry} {s : Statement} :
    (∀ p, s.Reaches (s.frame dialect g) p → ∀ e x, p.item = .expr e →
      ((s.frame dialect g).within p.around).Rendering e x →
      expandWith (expansionDepth s.definitionCount) ((s.frame dialect g).within p.around) e = x) ∧
    (statementPieces dialect g s = .error .circularDefinition →
      ∃ around use c d, s.Reaches (s.frame dialect g) ⟨around, .reference use c⟩ ∧
        ((s.frame dialect g).within around).applied? use c = some d ∧
        ∀ n, ¬Settles (expandWith n ((s.frame dialect g).within around) d.expr)) := by
  have hf := s.frame_selects dialect g
  have enough : ∀ {around e n}, s.Reaches (s.frame dialect g) ⟨around, .expr e⟩ →
      Settles (expandWith n ((s.frame dialect g).within around) e) →
      expandWith (expansionDepth s.definitionCount) ((s.frame dialect g).within around) e =
        expandWith n ((s.frame dialect g).within around) e := by
    intro around e n hp hn
    have inside : Site.Inside s.selects ⟨around, .expr e⟩ := hp.selects hf
    refine expandWith_enough hf inside hn ?_
    rw [← s.definitions_length]
    exact Nat.le_refl _
  refine ⟨?rendered, fun hgives => ?endless⟩
  case rendered =>
    rintro ⟨around, item⟩ hp e x rfl ⟨hx, n, rfl⟩
    exact enough (n := n + 1) hp hx
  case endless =>
    by_contra hnone
    push Not at hnone
    have hsettled : (s.frame dialect g).Settled (expandWith (expansionDepth s.definitionCount))
        (s.Reaches (s.frame dialect g)) := by
      refine ⟨fun _ he => he, fun hp hpq _ => hp.step hpq, fun {around use c d} hc hd => ?_⟩
      obtain ⟨n, hn⟩ := hnone around use c d hc hd
      have hsame := enough (hc.step (.definition hd)) hn
      exact .refl (fun _ he => he) (hsame ▸ hn)
    exact statement_settles hsettled .start hgives

end Enough

/-- A price is a rating and a rating asks for a price, so that they cannot be ranked; but the select that asks
defines the price anew, and the chain ends there. -/
example :
    (statementPieces .mySql (shopRegistry [novel, review])
      (.select
        { record := novel
          fields := ["id"]
          condition := some (.expr (.exists
            { record := review
              fields := ["id"]
              condition := some (.expr (.column (.of novel "price")))
              definitions := [⟨"rating", .exists
                { record := novel
                  fields := ["id"]
                  condition := some (.expr (.column (.of novel "price")))
                  definitions := [⟨"price", .value (.integer 3), .definition⟩] }, .definition⟩] }))
          definitions := [⟨"price", .column (.of review "rating"), .definition⟩] })).map
        (layout .mySql .compact) =
      .ok ("select t0.id from novels as t0 where exists (select t1.id from reviews as t1 " ++
        "where exists (select t0.id from novels as t0 where ?))") := by
  decide +kernel

end RecordSql
