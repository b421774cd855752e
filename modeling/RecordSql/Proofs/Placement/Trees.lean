import RecordSql.Proofs.Placement.Suffixes

/-!
# Where braces stand

The tokens of a text stand in it one behind the other, and so do the braces among them. What stands between
two braces lies between them in the text.

- `placeAt`: the position of a character of a text.
- `Braces`: the span of two braces in a text.
- `Strewn`: braces stand one behind the other among tokens.
- `Laid`: groups in braces stand one behind the other, and inside each other, among trees.
- `lexemesFrom?_strewn`, `nest?_laid`: the tokens of a text are strewn, and its trees are laid.
-/

namespace RecordSql.Source

open RecordSql.Text

/-! ### Places -/

section

variable (origin : Position) (text : List Char)

/-- The position of a character of a text that begins at a position. -/
def placeAt (index : Nat) : Position := origin.afterAll (text.take index)

/-- A span from an opening brace of a text to behind a closing one. -/
structure Braces (first last : Nat) (span : Span) : Prop where
  opens : text[first]? = some '\x7b'
  closes : text[last]? = some '\x7d'
  lt : first < last
  start_eq : span.start = placeAt origin text first
  stop_eq : span.stop = placeAt origin text (last + 1)

end

theorem Position.afterAll_concat (p : Position) (cs : List Char) (c : Char) :
    p.afterAll (cs ++ [c]) = (p.afterAll cs).after c := p.afterAll_append cs [c]

theorem placeAt_append (origin : Position) (front back : List Char) :
    placeAt origin (front ++ back) front.length = origin.afterAll front := by
  rw [placeAt, List.take_left]

/-! ### Tokens -/

/-- Whether a tree is a group in braces. -/
def Tree.isBraced : Tree → Bool
  | .group .brace _ _ => true
  | _ => false

/-- Whether a token is a brace. -/
def Lexeme.isBrace : Lexeme → Bool
  | .opening .brace _ | .closing .brace _ => true
  | .leaf t => t.isBraced
  | _ => false

/-- Braces stand one behind the other among tokens, from a character of a text on. -/
inductive Strewn (origin : Position) (text : List Char) : Nat → List Lexeme → Prop
  | nil {i} : Strewn origin text i []
  | opening {i first span ls} (hi : i ≤ first) (hopens : text[first]? = some '\x7b')
      (hstart : span.start = placeAt origin text first) (hrest : Strewn origin text (first + 1) ls) :
      Strewn origin text i (.opening .brace span :: ls)
  | closing {i last span ls} (hi : i ≤ last) (hcloses : text[last]? = some '\x7d')
      (hstop : span.stop = placeAt origin text (last + 1)) (hrest : Strewn origin text (last + 1) ls) :
      Strewn origin text i (.closing .brace span :: ls)
  | other {i l ls} (hl : l.isBrace = false) (hrest : Strewn origin text i ls) :
      Strewn origin text i (l :: ls)

section

variable {origin : Position} {text : List Char} {i j : Nat}

theorem Strewn.mono {ls : List Lexeme} (h : Strewn origin text j ls) (hij : i ≤ j) :
    Strewn origin text i ls := by
  induction h generalizing i with
  | nil => exact .nil
  | opening hi hopens hstart hrest _ => exact .opening (Nat.le_trans hij hi) hopens hstart hrest
  | closing hi hcloses hstop hrest _ => exact .closing (Nat.le_trans hij hi) hcloses hstop hrest
  | other hl _ ih => exact .other hl (ih hij)

/-- Tokens without braces change nothing. -/
theorem Strewn.append {ks ls : List Lexeme} (hks : ∀ k ∈ ks, k.isBrace = false)
    (h : Strewn origin text i ls) : Strewn origin text i (ks ++ ls) := by
  induction ks with
  | nil => exact h
  | cons k ks ih =>
    obtain ⟨hk, hks⟩ := List.forall_mem_cons.1 hks
    exact .other hk (ih hks)

theorem documentationLexemes_isBrace (inner : Bool) (comment : List Char) (span : Span) :
    ∀ l ∈ documentationLexemes inner comment span, l.isBrace = false := by
  cases inner <;> simp [documentationLexemes, Lexeme.isBrace, Tree.isBraced]

theorem leaf?_isBraced {cs rest : List Char} {tree : Span → Tree} (h : leaf? cs = some (tree, rest))
    (span : Span) : (tree span).isBraced = false := by
  unfold leaf? at h
  split at h
  · cases h
    rfl
  · split at h
    · obtain ⟨_, -, h⟩ := Option.map_eq_some_iff.1 h
      cases h
      rfl
    · cases h
      rfl
    · split at h
      · cases h
      · obtain ⟨_, -, h⟩ := Option.map_eq_some_iff.1 h
        cases h
        rfl

/-- A bracket that is a brace stands for this brace. -/
theorem bracket?_strewn {c : Char} {lexeme : Span → Lexeme} {ls : List Lexeme}
    (h : bracket? c = some lexeme) (hc : text[i]? = some c)
    (hrest : Strewn origin text (i + 1) ls) :
    Strewn origin text i (lexeme ⟨placeAt origin text i, placeAt origin text (i + 1)⟩ :: ls) := by
  have hmono := hrest.mono (Nat.le_succ i)
  unfold bracket? at h
  split at h
  · cases h
    exact .other rfl hmono
  · split at h
    · cases h
      exact .other rfl hmono
    · split at h
      · rename_i hbrace
        cases h
        exact .opening (Nat.le_refl i) (hbrace ▸ hc) rfl hrest
      · split at h
        · cases h
          exact .other rfl hmono
        · split at h
          · cases h
            exact .other rfl hmono
          · split at h
            · rename_i hbrace
              cases h
              exact .closing (Nat.le_refl i) (hbrace ▸ hc) rfl hrest
            · cases h

end

/-- The tokens of the rest of a text stand in this rest, in their order. -/
theorem lexemesFrom?_strewn {origin : Position} {fuel : Nat} {acc ls : List Lexeme}
    {front back : List Char} (h : lexemesFrom? fuel acc (origin.afterAll front) back = some ls) :
    ∃ more, ls = acc.reverse ++ more ∧ Strewn origin (front ++ back) front.length more := by
  induction fuel generalizing acc front back with
  | zero => cases h
  | succ fuel ih =>
    have hblanks := before_append (skipBlanks_suffix (back.length + 1) back)
    simp only [lexemesFrom?, ← Position.afterAll_append, ← Position.afterAll_concat] at h
    generalize skipBlanks (back.length + 1) back = cs at h hblanks
    -- The next token begins behind the blanks, and what is read of it moves the beginning on.
    have hmove : ∀ {rest : List Char} {earlier : List Lexeme} (read : List Char), read ++ rest = cs →
        lexemesFrom? fuel earlier (origin.afterAll (front ++ before back cs ++ read)) rest = some ls →
        ∃ more, ls = earlier.reverse ++ more ∧
          Strewn origin (front ++ back) ((front ++ before back cs).length + read.length) more := by
      intro rest earlier read hread h
      have hmore := ih h
      rw [List.append_assoc _ read, hread, List.append_assoc, hblanks] at hmore
      rwa [List.length_append] at hmore
    have hblanks_le : front.length ≤ (front ++ before back cs).length := by simp
    split at h
    · rename_i hdoc
      split at h
      · obtain ⟨more, rfl, hmore⟩ := hmove _ (before_append (documentation?_suffix hdoc)) h
        refine ⟨_, by rw [List.reverse_append, List.reverse_reverse, List.append_assoc],
          (hmore.mono ?_).append (documentationLexemes_isBrace _ _ _)⟩
        omega
      · cases h
    · split at h
      · cases h
        exact ⟨[], by simp, .nil⟩
      · rename_i c rest _
        split at h
        · rename_i hbracket
          obtain ⟨more, rfl, hmore⟩ := hmove [c] rfl h
          refine ⟨_, by rw [List.reverse_cons, List.append_assoc, List.singleton_append], ?_⟩
          have hall : front ++ back = front ++ before back (c :: rest) ++ c :: rest := by
            rw [List.append_assoc, hblanks]
          have hstop := placeAt_append origin (front ++ before back (c :: rest) ++ [c]) rest
          rw [List.append_assoc _ [c], List.singleton_append, List.length_append] at hstop
          rw [hall] at hmore ⊢
          rw [← hstop, ← placeAt_append origin _ (c :: rest)]
          exact (bracket?_strewn hbracket (by simp) hmore).mono hblanks_le
        · split at h
          · rename_i hleaf
            obtain ⟨more, rfl, hmore⟩ := hmove _ (before_append (leaf?_suffix hleaf)) h
            refine ⟨_, by rw [List.reverse_cons, List.append_assoc, List.singleton_append],
              .other (l := .leaf _) (leaf?_isBraced hleaf _) (hmore.mono ?_)⟩
            omega
          · cases h

/-! ### Trees -/

/-- Groups in braces stand one behind the other among trees, from a character of a text up to another one,
and so do the groups in each of them. -/
inductive Laid (origin : Position) (text : List Char) : Nat → List Tree → Nat → Prop
  | nil {i j} (hij : i ≤ j) : Laid origin text i [] j
  | braces {i first last j content span ts} (hi : i ≤ first) (hbraces : Braces origin text first last span)
      (hcontent : Laid origin text (first + 1) content last)
      (hrest : Laid origin text (last + 1) ts j) :
      Laid origin text i (.group .brace content span :: ts) j
  | other {i j t ts} (ht : t.isBraced = false) (hrest : Laid origin text i ts j) :
      Laid origin text i (t :: ts) j

variable {origin : Position} {text : List Char} {i j m : Nat}

namespace Laid

variable {ts us rest content : List Tree} {span : Span}

theorem le (h : Laid origin text i ts j) : i ≤ j := by
  induction h with
  | nil hij => exact hij
  | braces hi hbraces _ _ _ ih =>
    have := hbraces.lt
    omega
  | other _ _ ih => exact ih

theorem mono_left (h : Laid origin text m ts j) (him : i ≤ m) : Laid origin text i ts j := by
  induction h generalizing i with
  | nil hij => exact .nil (Nat.le_trans him hij)
  | braces hi hbraces hcontent hrest _ _ => exact .braces (Nat.le_trans him hi) hbraces hcontent hrest
  | other ht _ ih => exact .other ht (ih him)

theorem append (hts : Laid origin text i ts m) (hus : Laid origin text m us j) :
    Laid origin text i (ts ++ us) j := by
  induction hts with
  | nil hij => exact hus.mono_left hij
  | braces hi hbraces hcontent _ _ ih => exact .braces hi hbraces hcontent (ih hus)
  | other ht _ ih => exact .other ht (ih hus)

theorem mono_right (h : Laid origin text i ts m) (hmj : m ≤ j) : Laid origin text i ts j := by
  simpa using h.append (.nil hmj)

/-- What is left of trees stands behind what has been read. -/
theorem suffix (h : Laid origin text i ts j) (hrest : rest <:+ ts) : Laid origin text i rest j := by
  induction h with
  | nil hij =>
    rw [List.suffix_nil.1 hrest]
    exact .nil hij
  | braces hi hbraces hcontent hts _ ih =>
    rcases List.suffix_cons_iff.1 hrest with rfl | hrest
    · exact .braces hi hbraces hcontent hts
    · have := hbraces.lt
      exact (ih hrest).mono_left (by omega)
  | other ht hts ih =>
    rcases List.suffix_cons_iff.1 hrest with rfl | hrest
    · exact .other ht hts
    · exact ih hrest

end Laid

/-- Groups that are still open stand around the trees read last. -/
inductive Opened (origin : Position) (text : List Char) : List OpenGroup → List Tree → Nat → Prop
  | none {done i} (hdone : Laid origin text 0 done.reverse i) : Opened origin text [] done i
  | brace {g gs done first i} (hbrace : g.delimiter = .brace) (hopens : text[first]? = some '\x7b')
      (hstart : g.start = placeAt origin text first)
      (hdone : Laid origin text (first + 1) done.reverse i)
      (hearlier : Opened origin text gs g.earlier first) : Opened origin text (g :: gs) done i
  | other {g gs done first i} (hother : g.delimiter ≠ .brace) (hi : first ≤ i)
      (hearlier : Opened origin text gs g.earlier first) : Opened origin text (g :: gs) done i

theorem Opened.mono {gs : List OpenGroup} {done : List Tree} (h : Opened origin text gs done i)
    (hij : i ≤ j) : Opened origin text gs done j := by
  cases h with
  | none hdone => exact .none (hdone.mono_right hij)
  | brace hbrace hopens hstart hdone hearlier =>
    exact .brace hbrace hopens hstart (hdone.mono_right hij) hearlier
  | other hother hi hearlier => exact .other hother (Nat.le_trans hi hij) hearlier

/-- One more tree is read. -/
theorem Opened.push {gs : List OpenGroup} {done : List Tree} {t : Tree} (h : Opened origin text gs done i)
    (ht : Laid origin text i [t] j) : Opened origin text gs (t :: done) j := by
  cases h with
  | none hdone =>
    refine .none ?_
    rw [List.reverse_cons]
    exact hdone.append ht
  | brace hbrace hopens hstart hdone hearlier =>
    refine .brace hbrace hopens hstart ?_ hearlier
    rw [List.reverse_cons]
    exact hdone.append ht
  | other hother hi hearlier => exact .other hother (Nat.le_trans hi ht.le) hearlier

/-- Trees of tokens that are strewn are laid. -/
theorem nest?_laid {opened : List OpenGroup} {done ts : List Tree} {ls : List Lexeme}
    (h : nest? opened done ls = some ts) (hopened : Opened origin text opened done i)
    (hls : Strewn origin text i ls) : ∃ j, Laid origin text 0 ts j := by
  fun_induction nest? opened done ls generalizing i with
  | case1 done =>
    cases h
    cases hopened with
    | none hdone => exact ⟨i, hdone⟩
  | case2 => cases h
  | case3 opened done d span ls ih =>
    cases hls with
    | opening hi hopens hstart hrest =>
      exact ih h (.brace rfl hopens hstart (.nil (Nat.le_refl _)) (hopened.mono hi)) hrest
    | other hl hrest =>
      have hother : d ≠ .brace := by
        rintro rfl
        cases hl
      exact ih h (.other hother (Nat.le_refl _) hopened) hrest
  | case4 => cases h
  | case5 g opened done span ls ih =>
    obtain ⟨d, start, earlier⟩ := g
    cases hls with
    | closing hi hcloses hstop hrest =>
      cases hopened with
      | brace _ hopens hstart hdone hearlier =>
        have hlt := Nat.lt_of_lt_of_le (Nat.lt_of_succ_le hdone.le) hi
        refine ih h (hearlier.push (.braces (Nat.le_refl _) ⟨hopens, hcloses, hlt, hstart, hstop⟩ ?_ ?_)) hrest
        · exact hdone.mono_right hi
        · exact .nil (Nat.le_refl _)
      | other hother => exact absurd rfl hother
    | other hl hrest =>
      have hother : d ≠ .brace := by
        rintro rfl
        cases hl
      cases hopened with
      | brace hbrace => exact absurd hbrace hother
      | other _ hi hearlier =>
        refine ih h ((hearlier.mono hi).push (.other ?_ (.nil (Nat.le_refl _)))) hrest
        cases d with
        | brace => exact absurd rfl hother
        | parenthesis | bracket => rfl
  | case6 => cases h
  | case7 opened done t ls ih =>
    cases hls with
    | other hl hrest => exact ih h (hopened.push (.other hl (.nil (Nat.le_refl _)))) hrest

end RecordSql.Source
