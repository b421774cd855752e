import Mathlib.Algebra.GroupWithZero.Nat
import Mathlib.Data.List.Induction
import RecordSql.Proofs.Regeneration.Splice

/-!
# Windows of a splice

Where no change stands across an offset, a splice is two splices one behind the other. So the changes between two
characters that are kept can be looked at by themselves.

- `exists_split`, `exists_kept`: parts of a text up to an offset, and parts that are kept.
- `exists_window`: the parts behind a character that is kept.
- `landing`: where an offset ends up.
- `replaceAll?_changes`: the changes of some parts, carried out by themselves.
- `backToFront_filter`: the order of some edits does not depend on the others.
-/

namespace RecordSql.Generate

open RecordSql.Text

/-! ### Parts one behind the other -/

section

variable {n : Nat} {e : Edit} {ps parts : List Part} {front back : List Char}

theorem changes_bounds (h : e ∈ changes n parts) :
    n ≤ e.start ∧ e.start ≤ e.stop ∧ e.stop ≤ n + byteLength (textBefore parts) := by
  induction parts generalizing n with
  | nil => cases h
  | cons p parts ih =>
    have hbefore : byteLength (textBefore (p :: parts)) = byteLength p.before + byteLength (textBefore parts) := by
      rw [textBefore, List.flatMap_cons, byteLength_append]
      rfl
    cases p with
    | kept text =>
      have := ih h
      simp only [Part.before] at hbefore
      omega
    | changed old new =>
      simp only [Part.before] at hbefore
      rcases List.mem_cons.1 h with rfl | h
      · dsimp only
        omega
      · have := ih h
        omega

/-- What is not changed is kept. -/
theorem textAfter_eq (h : changes n parts = []) : textAfter parts = textBefore parts := by
  induction parts generalizing n with
  | nil => rfl
  | cons p parts ih =>
    cases p with
    | kept text => exact congrArg (text ++ ·) (ih h)
    | changed => cases h

/-- Parts are split where no change stands across. Insertions at this place belong to the parts in front. -/
theorem exists_split (htext : textBefore parts = front ++ back)
    (hcut : ∀ e ∈ changes n parts, e.stop ≤ n + byteLength front ∨ n + byteLength front ≤ e.start) :
    ∃ ps qs, textBefore ps = front ∧ textBefore qs = back ∧ textAfter parts = textAfter ps ++ textAfter qs ∧
      changes n parts = changes n ps ++ changes (n + byteLength front) qs ∧
      ∀ e ∈ changes (n + byteLength front) qs, n + byteLength front < e.stop := by
  induction parts generalizing n front with
  | nil =>
    obtain ⟨rfl, rfl⟩ := List.append_eq_nil_iff.1 htext.symm
    exact ⟨[], [], rfl, rfl, rfl, rfl, List.forall_mem_nil _⟩
  | cons p parts ih =>
    have htext' : p.before ++ textBefore parts = front ++ back := htext
    have hstep : ∀ {front'}, front = p.before ++ front' → textBefore parts = front' ++ back := by
      rintro front' rfl
      exact List.append_cancel_left (htext'.trans (List.append_assoc _ _ _))
    cases p with
    | kept text =>
      simp only [Part.before] at htext' hstep
      by_cases hle : byteLength text ≤ byteLength front
      · obtain ⟨front', rfl⟩ := prefix_of_byteLength_le htext' hle
        rw [byteLength_append, ← Nat.add_assoc] at hcut ⊢
        obtain ⟨ps, qs, hps, hqs, hafter, hchanges, hlater⟩ := ih (hstep rfl) hcut
        refine ⟨.kept text :: ps, qs, congrArg (text ++ ·) hps, hqs, ?_, hchanges, hlater⟩
        exact (congrArg (text ++ ·) hafter).trans (List.append_assoc _ _ _).symm
      · obtain ⟨text', rfl⟩ := prefix_of_byteLength_le htext'.symm (by omega)
        rw [List.append_assoc] at htext'
        have hback := List.append_cancel_left htext'
        refine ⟨[.kept front], .kept text' :: parts, by simp [textBefore, Part.before], hback,
          by simp [textAfter, Part.after], ?_, fun e he => ?_⟩
        · simp [changes, byteLength_append, Nat.add_assoc]
        · rw [changes] at he
          have := changes_bounds he
          rw [byteLength_append] at hle
          omega
    | changed old new =>
      simp only [Part.before] at htext' hstep
      obtain ⟨hhere, hcut⟩ := List.forall_mem_cons.1 hcut
      dsimp only at hhere
      by_cases hle : byteLength old ≤ byteLength front
      · obtain ⟨front', rfl⟩ := prefix_of_byteLength_le htext' hle
        rw [byteLength_append, ← Nat.add_assoc] at hcut ⊢
        obtain ⟨ps, qs, hps, hqs, hafter, hchanges, hlater⟩ := ih (hstep rfl) hcut
        refine ⟨.changed old new :: ps, qs, congrArg (old ++ ·) hps, hqs, ?_, ?_, hlater⟩
        · exact (congrArg (new ++ ·) hafter).trans (List.append_assoc _ _ _).symm
        · exact congrArg (_ :: ·) hchanges
      · obtain rfl : front = [] := by
          cases front with
          | nil => rfl
          | cons c front =>
            have := c.utf8Size_pos
            rw [byteLength_cons] at hhere hle
            omega
        refine ⟨[], .changed old new :: parts, rfl, htext, rfl, rfl, fun e he => ?_⟩
        rcases List.mem_cons.1 he with rfl | he
        · dsimp only at hle ⊢
          omega
        · have := changes_bounds he
          simp only [byteLength_nil] at hle this ⊢
          omega

/-- Nothing happens to a text in front of all changes. -/
theorem exists_kept (htext : textBefore parts = front ++ back)
    (hstart : ∀ e ∈ changes n parts, n + byteLength front ≤ e.start) :
    ∃ qs, textBefore qs = back ∧ textAfter parts = front ++ textAfter qs ∧
      changes n parts = changes (n + byteLength front) qs := by
  induction parts generalizing n front with
  | nil =>
    obtain ⟨rfl, rfl⟩ := List.append_eq_nil_iff.1 htext.symm
    exact ⟨[], rfl, rfl, rfl⟩
  | cons p parts ih =>
    have htext' : p.before ++ textBefore parts = front ++ back := htext
    cases p with
    | kept text =>
      simp only [Part.before] at htext'
      by_cases hle : byteLength text ≤ byteLength front
      · obtain ⟨front', rfl⟩ := prefix_of_byteLength_le htext' hle
        rw [byteLength_append, ← Nat.add_assoc] at hstart ⊢
        rw [List.append_assoc] at htext'
        obtain ⟨qs, hqs, hafter, hchanges⟩ := ih (List.append_cancel_left htext') hstart
        exact ⟨qs, hqs, (congrArg (text ++ ·) hafter).trans (List.append_assoc _ _ _).symm, hchanges⟩
      · obtain ⟨text', rfl⟩ := prefix_of_byteLength_le htext'.symm (by omega)
        rw [List.append_assoc] at htext'
        refine ⟨.kept text' :: parts, List.append_cancel_left htext', by simp [textAfter, Part.after], ?_⟩
        simp [changes, byteLength_append, Nat.add_assoc]
    | changed old new =>
      have hhere := hstart _ List.mem_cons_self
      obtain rfl : front = [] := by
        cases front with
        | nil => rfl
        | cons c front =>
          have := c.utf8Size_pos
          rw [byteLength_cons] at hhere
          dsimp only at hhere
          omega
      exact ⟨_, htext, rfl, rfl⟩

/-- The parts behind a character that is kept, up to an offset. -/
theorem exists_window {c : Char} {inner : List Char}
    (htext : textBefore parts = front ++ c :: (inner ++ back))
    (hcut : ∀ e ∈ changes 0 parts, e.stop ≤ byteLength front ∨
      (byteLength (front ++ [c]) ≤ e.start ∧ e.stop ≤ byteLength (front ++ c :: inner)) ∨
      byteLength (front ++ c :: inner) < e.start) :
    ∃ ps ms qs, textBefore ps = front ∧ textBefore ms = inner ∧ textBefore qs = back ∧
      textAfter parts = textAfter ps ++ c :: (textAfter ms ++ textAfter qs) ∧
      changes 0 parts = changes 0 ps ++ changes (byteLength (front ++ [c])) ms ++
        changes (byteLength (front ++ c :: inner)) qs ∧
      ∀ e ∈ changes (byteLength (front ++ c :: inner)) qs, byteLength (front ++ c :: inner) < e.start := by
  have hwidth := c.utf8Size_pos
  have hone : byteLength (front ++ [c]) = byteLength front + byteLength [c] := byteLength_append _ _
  have hall : byteLength (front ++ c :: inner) = byteLength (front ++ [c]) + byteLength inner := by
    rw [← byteLength_append, List.append_assoc]
    rfl
  have hpos : byteLength [c] = c.utf8Size := rfl
  obtain ⟨ps, rest, hps, hrest, hafter, hchanges, hlater⟩ := exists_split (n := 0) htext
    fun e he => by have := hcut e he; omega
  rw [Nat.zero_add] at hchanges hlater
  have hcut' : ∀ e ∈ changes (byteLength front) rest,
      (byteLength (front ++ [c]) ≤ e.start ∧ e.stop ≤ byteLength (front ++ c :: inner)) ∨
      byteLength (front ++ c :: inner) < e.start := fun e he => by
    have hlt := hlater e he
    have := hcut e (hchanges ▸ List.mem_append_right _ he)
    omega
  obtain ⟨rest', hrest', hafter', hchanges'⟩ := exists_kept (n := byteLength front)
    (show textBefore rest = [c] ++ (inner ++ back) from hrest) fun e he => by have := hcut' e he; omega
  rw [hchanges', ← hone] at hcut'
  obtain ⟨ms, qs, hms, hqs, hafter'', hchanges'', hlater'⟩ := exists_split hrest' fun e he => by
    have := hcut' e he
    omega
  rw [← hall] at hchanges'' hlater'
  refine ⟨ps, ms, qs, hps, hms, hqs, ?_, ?_, fun e he => ?_⟩
  · rw [hafter, hafter', hafter'']
    rfl
  · rw [hchanges, hchanges', ← hone, hchanges'', List.append_assoc]
  · have hlt := hlater' e he
    have := hcut' e (hchanges'' ▸ List.mem_append_right _ he)
    omega

/-- An insertion behind all other changes ends what becomes of some parts. -/
theorem exists_insertion (he : e ∈ changes n parts) (hstart : n + byteLength (textBefore parts) ≤ e.start)
    (hothers : ∀ d ∈ changes n parts, d = e ∨ d.stop < e.start) :
    ∃ ps, textBefore ps = textBefore parts ∧ textAfter parts = textAfter ps ++ e.text ∧
      changes n parts = changes n ps ++ [e] := by
  induction parts using List.reverseRecOn with
  | nil => cases he
  | append_singleton parts p ih =>
    have hbounds := changes_bounds he
    rw [textBefore_append, byteLength_append] at hstart hbounds
    rw [changes_append] at he hothers
    rw [textBefore_append, textAfter_append, changes_append]
    cases p with
    | kept text =>
      have hbefore : textBefore [.kept text] = text := by simp [textBefore, Part.before]
      have hafter : textAfter [.kept text] = text := by simp [textAfter, Part.after]
      rw [hbefore] at hstart ⊢
      rw [hafter]
      simp only [changes, List.append_nil] at he hothers ⊢
      have htext : text = [] := byteLength_eq_zero.1 (by have := changes_bounds he; omega)
      subst htext
      rw [List.append_nil, List.append_nil]
      exact ih he hstart hothers
    | changed old new =>
      have hbefore : textBefore [.changed old new] = old := by simp [textBefore, Part.before]
      have hafter : textAfter [.changed old new] = new := by simp [textAfter, Part.after]
      rw [hbefore] at hstart hbounds ⊢
      rw [hafter]
      simp only [changes] at he hothers ⊢
      obtain rfl := (hothers _ (List.mem_append_right _ List.mem_cons_self)).resolve_right (by dsimp only; omega)
      have hold : old = [] := byteLength_eq_zero.1 (by dsimp only at hstart; omega)
      subst hold
      exact ⟨parts, (List.append_nil _).symm, rfl, rfl⟩

end

/-! ### Offsets that move -/

/-- How many bytes some edits write. -/
def bytesWritten (edits : List Edit) : Nat := (edits.map fun e => byteLength e.text).sum

/-- How many bytes some edits remove. -/
def bytesRemoved (edits : List Edit) : Nat := (edits.map fun e => e.stop - e.start).sum

/-- Where the character at an offset is to be found after some edits: it moves by what those in front of it write
and remove. -/
def landing (edits : List Edit) (offset : Nat) : Nat :=
  let earlier := edits.filter fun e => e.stop ≤ offset
  offset + bytesWritten earlier - bytesRemoved earlier

section

variable {n : Nat} {ps : List Part} {edits edits' : List Edit}

theorem byteLength_textAfter (ps : List Part) (n : Nat) :
    byteLength (textAfter ps) + bytesRemoved (changes n ps) =
      byteLength (textBefore ps) + bytesWritten (changes n ps) := by
  induction ps generalizing n with
  | nil => rfl
  | cons p ps ih =>
    have hbefore : textBefore (p :: ps) = p.before ++ textBefore ps := rfl
    have hafter : textAfter (p :: ps) = p.after ++ textAfter ps := rfl
    rw [hbefore, hafter, byteLength_append, byteLength_append]
    cases p with
    | kept text =>
      have := ih (n + byteLength text)
      simp only [Part.before, Part.after, changes]
      omega
    | changed old new =>
      have := ih (n + byteLength old)
      simp only [Part.before, Part.after, changes, bytesRemoved, bytesWritten, List.map_cons, List.sum_cons]
        at this ⊢
      omega

theorem landing_perm (h : edits.Perm edits') (offset : Nat) : landing edits offset = landing edits' offset := by
  have hfilter := h.filter fun e => decide (e.stop ≤ offset)
  have hwritten := (hfilter.map fun e => byteLength e.text).sum_nat
  have hremoved := (hfilter.map fun e => e.stop - e.start).sum_nat
  simp only [landing, bytesWritten, bytesRemoved, hwritten, hremoved]

/-- An offset moves to the end of what becomes of the text in front of it. -/
theorem landing_changes (hedits : edits.Perm (changes 0 ps ++ edits'))
    (hlater : ∀ e ∈ edits', byteLength (textBefore ps) < e.stop) :
    landing edits (byteLength (textBefore ps)) = byteLength (textAfter ps) := by
  have hearlier : (changes 0 ps ++ edits').filter (fun e => e.stop ≤ byteLength (textBefore ps)) = changes 0 ps := by
    have hall : (changes 0 ps).filter (fun e => e.stop ≤ byteLength (textBefore ps)) = changes 0 ps :=
      List.filter_eq_self.2 fun e he => by
        have := changes_bounds he
        simpa using by omega
    have hnone : edits'.filter (fun e => e.stop ≤ byteLength (textBefore ps)) = [] :=
      List.filter_eq_nil_iff.2 fun e he => by
        have := hlater e he
        simpa using this
    rw [List.filter_append, hall, hnone, List.append_nil]
  have hlength := byteLength_textAfter ps 0
  rw [landing_perm hedits, landing, hearlier]
  omega

end

/-! ### Changes by themselves -/

section

variable {edits : List Edit} {e : Edit}

/-- The changes of some parts do not depend on what stands around. -/
theorem replaceAll?_changes (ps : List Part) (front back : List Char) :
    replaceAll? (changes (byteLength front) ps).reverse (front ++ (textBefore ps ++ back)) =
      some (front ++ (textAfter ps ++ back)) := by
  induction ps using List.reverseRecOn generalizing back with
  | nil => rfl
  | append_singleton ps p ih =>
    rw [changes_append, List.reverse_append, textBefore_append, textAfter_append, List.append_assoc,
      List.append_assoc]
    cases p with
    | kept text =>
      have hbefore : textBefore [.kept text] = text := by simp [textBefore, Part.before]
      have hafter : textAfter [.kept text] = text := by simp [textAfter, Part.after]
      rw [hbefore, hafter]
      exact ih (text ++ back)
    | changed old new =>
      have hbefore : textBefore [.changed old new] = old := by simp [textBefore, Part.before]
      have hafter : textAfter [.changed old new] = new := by simp [textAfter, Part.after]
      have hedit : (⟨byteLength front + byteLength (textBefore ps),
          byteLength front + byteLength (textBefore ps) + byteLength old, new⟩ : Edit).replaceIn?
            (front ++ (textBefore ps ++ (old ++ back))) = some (front ++ (textBefore ps ++ (new ++ back))) := by
        refine Edit.replaceIn?_eq_some.2 ⟨front ++ textBefore ps, old, back, ?_, ?_, ?_, ?_⟩
        · simp
        · rw [byteLength_append]
        · rw [byteLength_append]
        · simp
      rw [hbefore, hafter, changes, changes, List.reverse_singleton, List.singleton_append, replaceAll?, hedit,
        Option.bind_some]
      exact ih (new ++ back)

/-- Edits that change nothing. -/
theorem replaceAll?_idle {edits : List Edit} {text : List Char}
    (h : ∀ e ∈ edits, e.replaceIn? text = some text) : replaceAll? edits text = some text := by
  induction edits with
  | nil => rfl
  | cons e edits ih =>
    obtain ⟨he, hedits⟩ := List.forall_mem_cons.1 h
    rw [replaceAll?, he, Option.bind_some, ih hedits]

theorem applyEdits?_idle {text : List Char} (h : ∀ e ∈ edits, e.replaceIn? text = some text) :
    applyEdits? edits text = some text :=
  replaceAll?_idle fun e he => h e ((backToFront_perm edits).mem_iff.1 he)

theorem applyEdits?_singleton (e : Edit) (text : List Char) : applyEdits? [e] text = e.replaceIn? text := by
  simp [applyEdits?, backToFront, insertEdit, replaceAll?]

theorem insertEdit_filter (p : Edit → Bool) {ds : List Edit} (h : ds.Pairwise fun d e => e.start ≤ d.start) :
    (insertEdit e ds).filter p = if p e then insertEdit e (ds.filter p) else ds.filter p := by
  have hfront : ∀ {ds : List Edit}, (∀ d ∈ ds, d.start ≤ e.start) → insertEdit e ds = e :: ds := by
    intro ds hds
    cases ds with
    | nil => rfl
    | cons d ds => rw [insertEdit, if_pos (hds d List.mem_cons_self)]
  induction ds with
  | nil => cases hp : p e <;> simp [insertEdit, hp]
  | cons d ds ih =>
    obtain ⟨hd, hds⟩ := List.pairwise_cons.1 h
    rw [insertEdit]
    split
    · rename_i hle
      have hall : ∀ x ∈ (d :: ds).filter p, x.start ≤ e.start := fun x hx => by
        rcases List.mem_cons.1 (List.mem_filter.1 hx).1 with rfl | hx
        · exact hle
        · exact Nat.le_trans (hd x hx) hle
      rw [hfront hall, List.filter_cons]
    · rename_i hlt
      have hmore := ih hds
      rw [List.filter_cons, hmore, List.filter_cons]
      cases p d <;> cases p e <;> simp [insertEdit, hlt]

/-- The order of some edits does not depend on the others. -/
theorem backToFront_filter (p : Edit → Bool) (edits : List Edit) :
    (backToFront edits).filter p = backToFront (edits.filter p) := by
  have hfold : ∀ (edits sorted : List Edit), (sorted.Pairwise fun d e => e.start ≤ d.start) →
      (edits.foldl (fun sorted e => insertEdit e sorted) sorted).filter p =
        (edits.filter p).foldl (fun sorted e => insertEdit e sorted) (sorted.filter p) := by
    intro edits
    induction edits with
    | nil => exact fun _ _ => rfl
    | cons e edits ih =>
      intro sorted hsorted
      rw [List.foldl_cons, ih _ (insertEdit_sorted hsorted), insertEdit_filter p hsorted, List.filter_cons]
      cases p e <;> rfl
  exact hfold edits [] .nil

end

end RecordSql.Generate
