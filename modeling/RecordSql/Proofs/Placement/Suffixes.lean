import RecordSql.Source.Lexer

/-!
# What readers of text leave

Every reader of characters leaves an end of the text that it was given. It follows that what it has read is
the part before this end.

- `literalEnd?_suffix`, `ident?_suffix`, `leaf?_suffix`: tokens.
- `skipBlanks_suffix`, `documentation?_suffix`: blanks and comments.
- `before_append`: what has been read, followed by what is left.
-/

namespace RecordSql.Source

open RecordSql.Text

variable {cs rest : List Char}

theorem suffix_of_cons {c : Char} (h : rest <:+ cs) : rest <:+ c :: cs :=
  h.trans (List.suffix_cons c cs)

/-- What has been read, followed by what is left. -/
theorem before_append (h : rest <:+ cs) : before cs rest ++ rest = cs := by
  obtain ⟨front, rfl⟩ := h
  simp [before]

/-- What is read if it can be. -/
theorem getD_suffix {read? : Option (List Char)} {other : List Char}
    (h : ∀ more, read? = some more → more <:+ cs) (hother : other <:+ cs) : read?.getD other <:+ cs := by
  cases read? with
  | none => exact hother
  | some more => exact h more rfl

/-! ### Identifiers and suffixes -/

theorem identEnd?_suffix (h : identEnd? cs = some rest) : rest <:+ cs := by
  unfold identEnd? at h
  split at h
  · cases h
  · split at h <;> cases h
    exact suffix_of_cons (List.dropWhile_suffix _)

theorem skipSuffix_suffix (cs : List Char) : skipSuffix cs <:+ cs :=
  getD_suffix (fun _ => identEnd?_suffix) List.suffix_rfl

theorem ident?_suffix {i : Ident} (h : ident? cs = some (i, rest)) : rest <:+ cs := by
  have hnamed : ∀ raw named, named <:+ cs → ((identEnd? named).bind fun rest =>
      let name := String.ofList (before named rest)
      if raw && neverRaw.contains name then none else some ((⟨raw, name⟩ : Ident), rest)) = some (i, rest) →
      rest <:+ cs := by
    intro raw named hs h
    obtain ⟨_, hend, h⟩ := Option.bind_eq_some_iff.1 h
    dsimp only at h
    split at h <;> cases h
    exact (identEnd?_suffix hend).trans hs
  unfold ident? at h
  split at h
  exact hnamed _ _ (by grind [suffix_of_cons]) h

/-! ### Quoted text -/

theorem bracedCode?_suffix {digits value n : Nat} (h : bracedCode? digits value cs = some (n, rest)) :
    rest <:+ cs := by
  fun_induction bracedCode? digits value cs <;> grind [suffix_of_cons, List.suffix_cons]

theorem escaped?_suffix {kind : QuotedKind} {c : Char} (h : escaped? kind cs = some (c, rest)) :
    rest <:+ cs := by
  unfold escaped? at h
  split at h
  · grind [suffix_of_cons]
  · grind [suffix_of_cons, bracedCode?_suffix]
  · obtain ⟨_, -, h⟩ := Option.map_eq_some_iff.1 h
    cases h
    exact List.suffix_cons _ _
  · cases h

theorem continuation?_suffix (h : continuation? cs = some rest) : rest <:+ cs := by
  fun_induction continuation? cs <;> grind [suffix_of_cons, List.suffix_cons]

theorem quotedBody?_suffix {kind : QuotedKind} {fuel : Nat} {acc value : List Char}
    (h : quotedBody? kind fuel acc cs = some (value, rest)) : rest <:+ cs := by
  induction fuel generalizing cs acc with
  | zero => cases h
  | succ fuel ih =>
    cases cs with
    | nil => cases h
    | cons c cs =>
      have hmore : ∀ acc more, quotedBody? kind fuel acc more = some (value, rest) → more <:+ cs →
          rest <:+ c :: cs := fun acc more h hs => suffix_of_cons ((ih h).trans hs)
      unfold quotedBody? at h
      split at h
      · cases h
        exact List.suffix_cons _ _
      · split at h
        · split at h <;> obtain ⟨_, hread, h⟩ := Option.bind_eq_some_iff.1 h
          · exact hmore _ _ h (continuation?_suffix hread)
          · exact hmore _ _ h (continuation?_suffix hread)
          · exact hmore _ _ h (escaped?_suffix hread)
        · split at h
          · split at h
            · exact hmore _ _ h (List.suffix_cons _ _)
            · cases h
          · split at h
            · exact hmore _ _ h List.suffix_rfl
            · cases h

theorem rawBody?_suffix {kind : QuotedKind} {hashes : Nat} {acc value : List Char}
    (h : rawBody? kind hashes acc cs = some (value, rest)) : rest <:+ cs := by
  fun_induction rawBody? kind hashes acc cs <;> grind [suffix_of_cons, List.drop_suffix]

theorem raw?_suffix {kind : QuotedKind} {value : List Char} (h : raw? kind cs = some (value, rest)) :
    rest <:+ cs := by
  unfold raw? at h
  dsimp only at h
  split at h
  · rename_i more hmore
    split at h
    · have hdrop := List.drop_suffix (cs.takeWhile (· = '#')).length cs
      rw [hmore] at hdrop
      exact ((rawBody?_suffix h).trans (List.suffix_cons _ _)).trans hdrop
    · cases h
  · cases h

theorem string?_suffix {value : List Char} (h : string? cs = some (value, rest)) : rest <:+ cs := by
  unfold string? at h
  split at h
  · exact suffix_of_cons (quotedBody?_suffix h)
  · exact suffix_of_cons (raw?_suffix h)
  · cases h

theorem exists_of_map_snd {α β : Type} {x : Option (α × β)} {b : β} (h : x.map Prod.snd = some b) :
    ∃ a, x = some (a, b) := by
  obtain ⟨⟨a, _⟩, hx, rfl⟩ := Option.map_eq_some_iff.1 h
  exact ⟨a, hx⟩

theorem stringEnd?_suffix (h : stringEnd? cs = some rest) : rest <:+ cs := by
  unfold stringEnd? at h
  split at h <;> obtain ⟨_, h⟩ := exists_of_map_snd h
  · exact suffix_of_cons (suffix_of_cons (quotedBody?_suffix h))
  · exact suffix_of_cons (suffix_of_cons (raw?_suffix h))
  · exact suffix_of_cons (suffix_of_cons (quotedBody?_suffix h))
  · exact suffix_of_cons (suffix_of_cons (raw?_suffix h))
  · exact string?_suffix h

/-- The rest behind a closing quote is a suffix, if what begins with the quote is one. -/
theorem closed_suffix {behind : Option (List Char)}
    (h : (match behind with
      | some ('\'' :: rest) => some rest
      | _ => none) = some rest) (hbehind : ∀ more, behind = some more → more <:+ cs) : rest <:+ cs := by
  split at h
  · cases h
    exact (List.suffix_cons _ _).trans (hbehind _ rfl)
  · cases h

theorem characterBody?_suffix {kind : QuotedKind} (h : characterBody? kind cs = some rest) :
    rest <:+ cs := by
  refine closed_suffix h fun more hmore => ?_
  split at hmore
  · obtain ⟨_, hmore⟩ := exists_of_map_snd hmore
    exact suffix_of_cons (escaped?_suffix hmore)
  · grind [List.suffix_cons]
  · cases hmore

theorem characterEnd?_suffix (h : characterEnd? cs = some rest) : rest <:+ cs := by
  unfold characterEnd? at h
  split at h
  · exact suffix_of_cons (characterBody?_suffix h)
  · exact suffix_of_cons (suffix_of_cons (characterBody?_suffix h))
  · cases h

/-! ### Numbers -/

theorem exponentEnd?_suffix {signed valued : Bool} (h : exponentEnd? signed valued cs = some rest) :
    rest <:+ cs := by
  fun_induction exponentEnd? signed valued cs <;> grind [suffix_of_cons]

theorem floatDigitsEnd?_suffix (h : floatDigitsEnd? cs = some rest) : rest <:+ cs := by
  have hwhole := List.dropWhile_suffix (l := cs) isDigitOrGap
  unfold floatDigitsEnd? at h
  split at h
  · cases h
  · split at h
    · cases h
    · split at h
      · rename_i more hpoint
        rw [hpoint] at hwhole
        have hfraction := (List.dropWhile_suffix (l := more) isDigitOrGap).trans
          ((List.suffix_cons _ _).trans hwhole)
        have hexponent : ∀ {e : Char} {power : List Char}, more.dropWhile isDigitOrGap = e :: power →
            (exponentEnd? false false power).getD (more.dropWhile isDigitOrGap) <:+ _ := fun {e power} he =>
          getD_suffix (fun _ h => (exponentEnd?_suffix h).trans
            ((List.suffix_cons e power).trans (he ▸ hfraction))) hfraction
        grind
      · rename_i hpower
        rw [hpower] at hwhole
        split at h
        · exact (exponentEnd?_suffix h).trans ((List.suffix_cons _ _).trans hwhole)
        · cases h
      · cases h

theorem baseDigitsEnd?_suffix {base : Nat} {empty : Bool} (h : baseDigitsEnd? base empty cs = some rest) :
    rest <:+ cs := by
  fun_induction baseDigitsEnd? base empty cs <;> grind [suffix_of_cons]

theorem numberBase_suffix (cs : List Char) : (numberBase cs).2 <:+ cs := by
  unfold numberBase
  split <;> grind [suffix_of_cons]

theorem wholeDigitsEnd?_suffix (h : wholeDigitsEnd? cs = some rest) : rest <:+ cs :=
  (baseDigitsEnd?_suffix h).trans (numberBase_suffix cs)

theorem numberEnd?_suffix (h : numberEnd? cs = some rest) : rest <:+ cs := by
  have hskip := skipSuffix_suffix cs
  unfold numberEnd? at h
  split at h
  · cases h
    exact List.nil_suffix
  · grind

theorem literalEnd?_suffix (h : literalEnd? cs = some rest) : rest <:+ cs := by
  unfold literalEnd? at h
  split at h
  · rename_i more hmore
    cases h
    refine (skipSuffix_suffix more).trans ?_
    rw [Option.orElse_eq_orElse, Option.orElse_eq_or] at hmore
    rcases Option.or_eq_some_iff.1 hmore with hmore | ⟨-, hmore⟩
    · exact stringEnd?_suffix hmore
    · exact characterEnd?_suffix hmore
  · rw [Option.orElse_eq_orElse, Option.orElse_eq_or] at h
    rcases Option.or_eq_some_iff.1 h with h | ⟨-, h⟩
    · obtain ⟨_, hdigits, h⟩ := Option.bind_eq_some_iff.1 h
      exact (numberEnd?_suffix h).trans (floatDigitsEnd?_suffix hdigits)
    · obtain ⟨_, hdigits, h⟩ := Option.bind_eq_some_iff.1 h
      exact (numberEnd?_suffix h).trans (wholeDigitsEnd?_suffix hdigits)

/-! ### Blanks and comments -/

theorem spanLine_suffix (cs : List Char) : (spanLine cs).2 <:+ cs := by
  fun_induction spanLine cs <;> grind [suffix_of_cons, List.suffix_cons]

theorem blockEnd?_suffix {depth : Nat} (h : blockEnd? depth cs = some rest) : rest <:+ cs := by
  fun_induction blockEnd? depth cs <;> grind [suffix_of_cons, List.suffix_cons]

theorem documentation?_suffix {inner : Bool} {text : List Char}
    (h : documentation? cs = some (inner, text, rest)) : rest <:+ cs := by
  unfold documentation? at h
  split at h
  · obtain ⟨-, -, rfl⟩ : _ ∧ _ ∧ _ = rest := by simpa [Prod.ext_iff] using h
    exact suffix_of_cons (suffix_of_cons (suffix_of_cons (spanLine_suffix _)))
  · obtain ⟨_, hend, h⟩ := Option.map_eq_some_iff.1 h
    cases h
    exact suffix_of_cons (suffix_of_cons (blockEnd?_suffix hend))
  · split at h
    · cases h
    · obtain ⟨-, -, rfl⟩ : _ ∧ _ ∧ _ = rest := by simpa [Prod.ext_iff] using h
      exact suffix_of_cons (suffix_of_cons (suffix_of_cons (spanLine_suffix _)))
  · split at h
    · cases h
    · obtain ⟨_, hend, h⟩ := Option.map_eq_some_iff.1 h
      cases h
      exact suffix_of_cons (suffix_of_cons (blockEnd?_suffix hend))
  · cases h

theorem commentEnd?_suffix (h : commentEnd? cs = some rest) : rest <:+ cs := by
  unfold commentEnd? at h
  split at h
  · grind [suffix_of_cons]
  · have hline := fun cs => suffix_of_cons (c := '/') (suffix_of_cons (c := '/') (spanLine_suffix cs))
    grind
  · have hblock := fun cs (h : blockEnd? 0 cs = some rest) =>
      suffix_of_cons (c := '/') (suffix_of_cons (c := '*') (blockEnd?_suffix h))
    grind
  · cases h

theorem skipBlanks_suffix (fuel : Nat) (cs : List Char) : skipBlanks fuel cs <:+ cs := by
  fun_induction skipBlanks fuel cs with
  | case1 => exact List.suffix_rfl
  | case2 _ _ _ hcomment ih => exact ih.trans (commentEnd?_suffix hcomment)
  | case3 | case5 => exact List.suffix_rfl
  | case4 _ _ _ _ _ ih => exact suffix_of_cons ih

/-! ### Tokens -/

theorem mark?_suffix {c : Char} (h : mark? cs = some (c, rest)) : rest <:+ cs := by
  unfold mark? at h
  grind [List.suffix_cons]

theorem lifetimeFront?_eq (h : lifetimeFront? cs = some rest) : rest = cs := by
  unfold lifetimeFront? at h
  grind

theorem leaf?_suffix {tree : Span → Tree} (h : leaf? cs = some (tree, rest)) : rest <:+ cs := by
  unfold leaf? at h
  split at h
  · rename_i hliteral
    cases h
    exact literalEnd?_suffix hliteral
  · split at h
    · rename_i hmark
      obtain ⟨_, hfront, h⟩ := Option.map_eq_some_iff.1 h
      cases h
      exact lifetimeFront?_eq hfront ▸ mark?_suffix hmark
    · rename_i hmark
      cases h
      exact mark?_suffix hmark
    · split at h
      · cases h
      · obtain ⟨_, hident, h⟩ := Option.map_eq_some_iff.1 h
        cases h
        exact ident?_suffix hident

end RecordSql.Source
