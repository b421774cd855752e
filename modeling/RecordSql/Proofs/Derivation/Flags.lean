import RecordSql.Derive
import RecordSql.Generate.SourceRecord

/-!
# Flags of fields

The attributes of a field are read in two ways: as lists of entries, each with its own form, and as bags of
words. A list of entries that is well formed has no word of its own but the names of its entries, so both
ways find the same flags.

- `flagged`: whether a word stands in a list, not counting lists inside it.
- `path_word`: an entry that is a single word begins with this word.
- `fieldEntry_eq_ok`: what an entry of a field can be, and what it changes.
- `fieldAttributes_flags`: a field has a key or is left out of its record for both readers.
-/

namespace RecordSql.Derive

open RecordSql.Source RecordSql.Generate

/-! ### Readers that succeed -/

section Runs

variable {ε σ α β : Type} {s s'' : σ}

/-- A reader that goes on after another one has succeeded in both. -/
theorem run_bind_eq_ok {x : StateT σ (Except ε) α} {f : α → StateT σ (Except ε) β} {b : β}
    (h : (x >>= f).run s = .ok (b, s'')) :
    ∃ a s', x.run s = .ok (a, s') ∧ (f a).run s' = .ok (b, s'') := by
  rw [StateT.run_bind] at h
  cases hx : x.run s with
  | error e =>
    rw [hx] at h
    cases h
  | ok p =>
    rw [hx] at h
    exact ⟨p.1, p.2, rfl, h⟩

end Runs

section Lists

variable {α : Type} {ts rest : List Tree}

/-- What a list reader reads is read where reasons are given. -/
theorem lift_eq_ok {p : ListReader α} {a : α} (h : (liftM p : Reader α).run ts = .ok (a, rest)) :
    p.run ts = .ok (a, rest) := by
  have hrun : (liftM p : Reader α).run ts = (p.run ts).mapError .malformed := by
    simp only [liftM, monadLift, MonadLift.monadLift, StateT.run]
    cases p ts <;> rfl
  rw [hrun] at h
  cases hp : p.run ts with
  | error f =>
    rw [hp] at h
    cases h
  | ok r =>
    rw [hp] at h
    cases h
    rfl

theorem mark_eq_ok {m : String} (h : (ListReader.mark m).run ts = .ok ((), rest)) :
    dropOp? m.toList ts = some rest := by
  unfold ListReader.mark at h
  obtain ⟨_, _, hget, h⟩ := run_bind_eq_ok h
  cases hget
  split at h
  · rename_i hdrop
    cases h
    exact hdrop
  · cases h

/-- A comma is one tree. -/
theorem comma_eq_ok (h : (ListReader.mark ",").run ts = .ok ((), rest)) :
    ∃ joint s, ts = .punct ',' joint s :: rest := by
  have hdrop : dropOp? [','] ts = some rest := mark_eq_ok h
  cases ts with
  | nil => cases hdrop
  | cons t more =>
    cases t with
    | punct d joint s =>
      simp only [dropOp?, Option.ite_none_right_eq_some, Option.some.injEq] at hdrop
      obtain ⟨rfl, rfl⟩ := hdrop
      exact ⟨joint, s, rfl⟩
    | ident | literal | group => cases hdrop

theorem ident_eq_ok {i : Ident} (h : ListReader.ident.run ts = .ok (i, rest)) :
    ∃ s, ts = .ident i s :: rest := by
  unfold ListReader.ident at h
  obtain ⟨_, _, hget, h⟩ := run_bind_eq_ok h
  cases hget
  split at h
  · cases h
    exact ⟨_, rfl⟩
  · cases h

/-- Whatever is missing, nothing has been read. -/
theorem missing_ne_ok {what : String} {a : α} : (ListReader.missing what).run ts ≠ .ok (a, rest) :=
  fun h => nomatch h

/-- The first word of a path is its first segment. -/
theorem pathBehind_eq_ok {leading : Bool} {p : PlainPath}
    (h : (do
      let ts ← get
      if atIdent ts then
        let first ← ListReader.ident
        return ⟨leading, first :: (← ListReader.segments (← get).length)⟩
      else if ts.isEmpty then ListReader.missing "nested attribute"
      else if atLiteral ts then throw .literalEntry
      else throw .tokenEntry : ListReader PlainPath).run ts = .ok (p, rest)) :
    ∃ i s more is, ts = .ident i s :: more ∧
      (ListReader.segments more.length).run more = .ok (is, rest) ∧ p = ⟨leading, i :: is⟩ := by
  obtain ⟨_, _, hget, h⟩ := run_bind_eq_ok h
  cases hget
  split at h
  · obtain ⟨i, more, hi, h⟩ := run_bind_eq_ok h
    obtain ⟨_, _, hget, h⟩ := run_bind_eq_ok h
    cases hget
    obtain ⟨is, _, his, h⟩ := run_bind_eq_ok h
    cases h
    obtain ⟨s, hs⟩ := ident_eq_ok hi
    exact ⟨i, s, more, is, hs, his, rfl⟩
  · split at h
    · exact absurd h missing_ne_ok
    · split at h <;> cases h

/-- An entry that is a single word begins with this word, and nothing more of it has been read. -/
theorem path_word {p : PlainPath} {w : String} (h : ListReader.path.run ts = .ok (p, rest))
    (hw : p.isWord w) : ∃ i s, ts = .ident i s :: rest ∧ i.isWord w := by
  unfold ListReader.path at h
  obtain ⟨_, _, hget, h⟩ := run_bind_eq_ok h
  cases hget
  cases hlead : atOp "::" ts with
  | true =>
    simp only [hlead, if_true] at h
    obtain ⟨_, _, -, h⟩ := run_bind_eq_ok h
    obtain ⟨i, s, more, is, -, -, rfl⟩ := pathBehind_eq_ok h
    cases is <;> simp [PlainPath.isWord] at hw
  | false =>
    simp only [hlead, Bool.false_eq_true, if_false] at h
    obtain ⟨i, s, more, is, rfl, his, rfl⟩ := pathBehind_eq_ok h
    cases is with
    | cons j is => simp [PlainPath.isWord] at hw
    | nil =>
      have hrest : rest = more := by
        cases hlength : more.length with
        | zero =>
          rw [hlength] at his
          cases his
          rfl
        | succ n =>
          rw [hlength, ListReader.segments] at his
          obtain ⟨_, _, hget, his⟩ := run_bind_eq_ok his
          cases hget
          split at his
          · obtain ⟨_, _, -, his⟩ := run_bind_eq_ok his
            obtain ⟨_, _, -, his⟩ := run_bind_eq_ok his
            obtain ⟨_, _, -, his⟩ := run_bind_eq_ok his
            cases his
          · cases his
            rfl
      subst hrest
      exact ⟨i, s, rfl, by simpa [PlainPath.isWord] using hw⟩

theorem parentheses_eq_ok {content : List Tree} (h : ListReader.parentheses.run ts = .ok (content, rest)) :
    ∃ s, ts = .group .parenthesis content s :: rest := by
  unfold ListReader.parentheses at h
  obtain ⟨_, _, hget, h⟩ := run_bind_eq_ok h
  cases hget
  split at h
  · cases h
    exact ⟨_, rfl⟩
  · exact absurd h missing_ne_ok

/-- A list in parentheses is one group. -/
theorem nestedList_eq_ok {σ : Type} {entry : Entry σ} {s a : σ}
    (h : (nestedList entry s).run ts = .ok (a, rest)) :
    ∃ content place, ts = .group .parenthesis content place :: rest := by
  unfold nestedList at h
  obtain ⟨content, mid, hcontent, h⟩ := run_bind_eq_ok h
  obtain ⟨place, hts⟩ := parentheses_eq_ok (lift_eq_ok hcontent)
  have hrest : mid = rest := by
    unfold within at h
    split at h
    · cases h
      rfl
    · cases h
  exact ⟨content, place, by rw [hts, hrest]⟩

end Lists

/-! ### Flags in lists of entries -/

/-- Whether a word stands in a list, not counting lists inside it. -/
def flagged (w : String) (ts : List Tree) : Bool :=
  ts.any fun t => atWord w [t]

section Flagged

variable {w v : String} {ts rest : List Tree} {f f' : FieldAttributes}

/-- A word is no other word. -/
theorem isWord_of_isWord {i : Ident} (h : i.isWord v) (w : String) : i.isWord w = (v == w) := by
  simp only [Ident.isWord, Bool.and_eq_true, Bool.not_eq_true', beq_iff_eq] at h ⊢
  simp [h.1, h.2]

theorem flagged_word {i : Ident} (s : Span) (h : i.isWord v) :
    flagged w (.ident i s :: rest) = ((v == w) || flagged w rest) := by
  rw [← isWord_of_isWord h w]
  rfl

/-- Nothing but a group stands between two places of a list. -/
inductive Grouped : List Tree → List Tree → Prop
  | none {more} : Grouped more more
  | group {d content s more} : Grouped (.group d content s :: more) more

theorem Grouped.flagged_eq (h : Grouped ts rest) (w : String) : flagged w ts = flagged w rest := by
  cases h <;> rfl

theorem Grouped.length_le (h : Grouped ts rest) : rest.length ≤ ts.length := by
  cases h <;> simp

theorem computedMark_eq_ok {c : ComputedMark} (h : computedMark.run ts = .ok (c, rest)) :
    Grouped ts rest := by
  unfold computedMark at h
  obtain ⟨_, _, hget, h⟩ := run_bind_eq_ok h
  cases hget
  split at h
  · cases h
    exact .none
  · obtain ⟨_, _, rfl⟩ := nestedList_eq_ok h
    exact .group

theorem generatedValue_eq_ok {v : GeneratedValue} (h : generatedValue.run ts = .ok (v, rest)) :
    Grouped ts rest := by
  unfold generatedValue at h
  obtain ⟨_, _, hget, h⟩ := run_bind_eq_ok h
  cases hget
  split at h
  · cases h
    exact .none
  · obtain ⟨_, _, rfl⟩ := nestedList_eq_ok h
    exact .group

/-- An entry of a field is one of five words, behind which there may be a group. Two of the words set a
flag. -/
theorem fieldEntry_eq_ok {p : PlainPath} (h : (fieldEntry p f).run ts = .ok (f', rest)) :
    ∃ v, p.isWord v ∧ Grouped ts rest ∧ f'.id = (f.id || v == "id") ∧
      f'.transient = (f.transient || v == "transient") := by
  unfold fieldEntry at h
  split at h
  · rename_i hword
    cases h
    exact ⟨_, hword, .none, by simp, by simp⟩
  · split at h
    · rename_i hword
      cases h
      exact ⟨_, hword, .none, by simp, by simp⟩
    · split at h
      · rename_i hword
        obtain ⟨_, _, hlist, h⟩ := run_bind_eq_ok h
        cases h
        obtain ⟨_, _, rfl⟩ := nestedList_eq_ok hlist
        exact ⟨_, hword, .group, by simp, by simp⟩
      · split at h
        · rename_i hword
          obtain ⟨_, _, hvalue, h⟩ := run_bind_eq_ok h
          cases h
          exact ⟨_, hword, generatedValue_eq_ok hvalue, by simp, by simp⟩
        · split at h
          · rename_i hword
            obtain ⟨_, _, hmark, h⟩ := run_bind_eq_ok h
            cases h
            exact ⟨_, hword, computedMark_eq_ok hmark, by simp, by simp⟩
          · cases h

/-- The entries of a field set the flags whose words stand in their list. -/
theorem entries_flags : ∀ {n : Nat} {f f' : FieldAttributes} {ts rest : List Tree},
    (entries fieldEntry n f).run ts = .ok (f', rest) → ts.length < n →
    f'.id = (f.id || flagged "id" ts) ∧ f'.transient = (f.transient || flagged "transient" ts)
  | 0, _, _, _, _, _, hn => absurd hn (Nat.not_lt_zero _)
  | n + 1, f, f', ts, rest, h, hn => by
    rw [entries] at h
    obtain ⟨p, behind, hpath, hrun⟩ := run_bind_eq_ok h
    obtain ⟨f₁, behind', hentry, hrun⟩ := run_bind_eq_ok hrun
    obtain ⟨v, hword, hgrouped, hid, htransient⟩ := fieldEntry_eq_ok hentry
    obtain ⟨i, s, hts, hi⟩ := path_word (lift_eq_ok hpath) hword
    have hflagged : ∀ w, flagged w ts = (v == w || flagged w behind') := fun w => by
      rw [hts, flagged_word s hi, hgrouped.flagged_eq]
    have hshorter : behind'.length < n := by
      have hle := hgrouped.length_le
      simp only [hts, List.length_cons] at hn
      omega
    rw [hflagged, hflagged, ← Bool.or_assoc, ← Bool.or_assoc, ← hid, ← htransient]
    obtain ⟨_, _, hget, hrun⟩ := run_bind_eq_ok hrun
    cases hget
    split at hrun
    · rename_i hempty
      cases hrun
      rw [List.isEmpty_iff.1 hempty]
      simp [flagged]
    · obtain ⟨_, more, hmark, hrun⟩ := run_bind_eq_ok hrun
      obtain ⟨joint, place, hcomma⟩ := comma_eq_ok (lift_eq_ok hmark)
      have hmore : ∀ w, flagged w behind' = flagged w more := fun w => by
        rw [hcomma]
        rfl
      rw [hmore, hmore]
      obtain ⟨_, _, hget, hrun⟩ := run_bind_eq_ok hrun
      cases hget
      split at hrun
      · rename_i hempty
        cases hrun
        rw [List.isEmpty_iff.1 hempty]
        simp [flagged]
      · refine entries_flags hrun ?_
        rw [hcomma, List.length_cons] at hshorter
        omega

/-! ### Flags in attributes -/

/-- A list of entries sets the flags whose words stand in it. -/
theorem readAttribute_flags {a : Attribute} (ha : a.path.isWord attributeName)
    (h : readAttribute fieldEntry f a = .ok f') :
    f'.id = (f.id || hasFlag "id" [a]) ∧ f'.transient = (f.transient || hasFlag "transient" [a]) := by
  have hname : a.path.isWord recordAttribute = true := ha
  unfold readAttribute at h
  cases hinput : a.input with
  | absent =>
    rw [hinput] at h
    cases h
  | value =>
    rw [hinput] at h
    cases h
  | list d tokens =>
    have hflag : ∀ w, hasFlag w [a] = flagged w tokens := fun w => by
      simp [hasFlag, flagged, hname, hinput]
    rw [hflag, hflag]
    rw [hinput] at h
    dsimp only at h
    split at h
    · rename_i hempty
      cases h
      rw [List.isEmpty_iff.1 hempty]
      simp [flagged]
    · cases hrun : (entries fieldEntry (tokens.length + 1) f).run tokens with
      | error e =>
        rw [hrun] at h
        cases h
      | ok r =>
        rw [hrun] at h
        cases h
        exact entries_flags hrun (Nat.lt_succ_self _)

/-- Attributes set the flags whose words stand in their lists. -/
theorem foldlM_flags {attributes : List Attribute}
    (h : (attributes.filter fun a => a.path.isWord attributeName).foldlM (readAttribute fieldEntry) f =
      .ok f') :
    f'.id = (f.id || hasFlag "id" attributes) ∧
      f'.transient = (f.transient || hasFlag "transient" attributes) := by
  induction attributes generalizing f with
  | nil =>
    cases h
    simp [hasFlag]
  | cons a attributes ih =>
    have hcons : ∀ w, hasFlag w (a :: attributes) = (hasFlag w [a] || hasFlag w attributes) := fun w => by
      simp [hasFlag]
    rw [hcons, hcons, ← Bool.or_assoc, ← Bool.or_assoc]
    rw [List.filter_cons] at h
    by_cases hname : a.path.isWord attributeName
    · rw [if_pos hname, List.foldlM_cons] at h
      cases hfirst : readAttribute fieldEntry f a with
      | error e =>
        rw [hfirst] at h
        cases h
      | ok f₁ =>
        rw [hfirst] at h
        obtain ⟨hid, htransient⟩ := readAttribute_flags hname hfirst
        rw [← hid, ← htransient]
        exact ih h
    · have hother : ∀ w, hasFlag w [a] = false := fun w => by
        have hname : a.path.isWord recordAttribute = false := Bool.eq_false_iff.2 hname
        simp [hasFlag, hname]
      rw [if_neg hname] at h
      rw [hother, hother, Bool.or_false, Bool.or_false]
      exact ih h

/-- A field whose attributes are well formed has the flags whose words stand in their lists. -/
theorem fieldAttributes_flags {attributes : List Attribute} {a : FieldAttributes}
    (h : fieldAttributes attributes = .ok a) :
    a.id = hasFlag "id" attributes ∧ a.transient = hasFlag "transient" attributes := by
  simpa using foldlM_flags h

end Flagged

end RecordSql.Derive
