import Mathlib.Data.List.Basic
import RecordSql.Generate.Edit
import RecordSql.Proofs.Placement.Cuts

/-!
# Splices

Edits that lie apart from each other are carried out as one pass over the text: some parts are kept, and
each edit changes the part between its offsets.

- `Part`: a part of a text that is kept or changed; `textBefore`, `textAfter` and `changes` are what a list
  of parts is made from, what becomes of it, and the edits that do this.
- `Apart`: two edits that do not touch the same text.
- `backToFront_perm`, `backToFront_descending`: the order in which edits are carried out.
- `applyEdits?_spliced`: the result of edits that lie apart is a splice.
- `applyEdits?_isSome`: there is a result if all offsets lie between characters.
-/

namespace RecordSql.Generate

open RecordSql.Text

/-! ### Parts of a text -/

/-- A part of a text, kept or changed. -/
inductive Part
  | kept (text : List Char)
  | changed (old new : List Char)
  deriving DecidableEq, Repr

namespace Part

/-- What a part was. -/
def before : Part → List Char
  | kept text => text
  | changed old _ => old

/-- What a part becomes. -/
def after : Part → List Char
  | kept text => text
  | changed _ new => new

end Part

/-- What some parts were. -/
def textBefore (parts : List Part) : List Char := parts.flatMap Part.before

/-- What some parts become. -/
def textAfter (parts : List Part) : List Char := parts.flatMap Part.after

/-- The edits that change parts that begin at an offset. -/
def changes (offset : Nat) : List Part → List Edit
  | [] => []
  | .kept text :: parts => changes (offset + byteLength text) parts
  | .changed old new :: parts =>
    ⟨offset, offset + byteLength old, new⟩ :: changes (offset + byteLength old) parts

theorem textBefore_append (ps qs : List Part) :
    textBefore (ps ++ qs) = textBefore ps ++ textBefore qs := List.flatMap_append

theorem textAfter_append (ps qs : List Part) :
    textAfter (ps ++ qs) = textAfter ps ++ textAfter qs := List.flatMap_append

theorem changes_append (offset : Nat) (ps qs : List Part) :
    changes offset (ps ++ qs) =
      changes offset ps ++ changes (offset + byteLength (textBefore ps)) qs := by
  induction ps generalizing offset with
  | nil => rfl
  | cons p ps ih =>
    have hwhole : offset + byteLength (textBefore (p :: ps)) =
        offset + byteLength p.before + byteLength (textBefore ps) := by
      rw [textBefore, List.flatMap_cons, byteLength_append, Nat.add_assoc]
      rfl
    rw [hwhole]
    cases p <;> simp [changes, ih, Part.before]

/-! ### The order of edits -/

/-- Two edits that do not touch the same text. Only insertions may stand at one place. -/
def Apart (e d : Edit) : Prop :=
  (e.stop ≤ d.start ∨ d.stop ≤ e.start) ∧ (e.start = d.start → e.stop = e.start ∧ d.stop = d.start)

theorem Apart.symm {e d : Edit} (h : Apart e d) : Apart d e :=
  ⟨h.1.symm, fun hs => (h.2 hs.symm).symm⟩

/-- Edits in the order of a run: each one ends where the one before it starts, or further in front. -/
def Descending (edits : List Edit) : Prop :=
  edits.Pairwise fun d e => e.stop ≤ d.start

theorem insertEdit_perm (e : Edit) (ds : List Edit) : (insertEdit e ds).Perm (e :: ds) := by
  induction ds with
  | nil => exact .refl _
  | cons d ds ih =>
    rw [insertEdit]
    split
    · exact .refl _
    · exact (ih.cons d).trans (.swap e d ds)

theorem insertEdit_sorted {e : Edit} {ds : List Edit} (h : ds.Pairwise fun d e => e.start ≤ d.start) :
    (insertEdit e ds).Pairwise fun d e => e.start ≤ d.start := by
  induction ds with
  | nil => exact List.pairwise_singleton _ _
  | cons d ds ih =>
    obtain ⟨hd, hds⟩ := List.pairwise_cons.1 h
    rw [insertEdit]
    split
    · rename_i hle
      refine List.pairwise_cons.2 ⟨fun x hx => ?_, h⟩
      rcases List.mem_cons.1 hx with rfl | hx
      · exact hle
      · exact Nat.le_trans (hd x hx) hle
    · rename_i hlt
      refine List.pairwise_cons.2 ⟨fun x hx => ?_, ih hds⟩
      rcases List.mem_cons.1 ((insertEdit_perm e ds).mem_iff.1 hx) with rfl | hx
      · omega
      · exact hd x hx

theorem foldl_insertEdit (edits sorted : List Edit) :
    (edits.foldl (fun sorted e => insertEdit e sorted) sorted).Perm (edits ++ sorted) ∧
      ((sorted.Pairwise fun d e => e.start ≤ d.start) →
        (edits.foldl (fun sorted e => insertEdit e sorted) sorted).Pairwise
          fun d e => e.start ≤ d.start) := by
  induction edits generalizing sorted with
  | nil => exact ⟨.refl _, id⟩
  | cons e edits ih =>
    obtain ⟨hperm, hsorted⟩ := ih (insertEdit e sorted)
    refine ⟨hperm.trans ?_, fun h => hsorted (insertEdit_sorted h)⟩
    exact ((insertEdit_perm e sorted).append_left edits).trans List.perm_middle

/-- No edit gets lost, and none is done twice. -/
theorem backToFront_perm (edits : List Edit) : (backToFront edits).Perm edits := by
  have h := (foldl_insertEdit edits []).1
  rwa [List.append_nil] at h

/-- Edits that lie apart are carried out from back to front. -/
theorem backToFront_descending {edits : List Edit} (hle : ∀ e ∈ edits, e.start ≤ e.stop)
    (h : edits.Pairwise Apart) : Descending (backToFront edits) := by
  have hsorted := (foldl_insertEdit edits []).2 .nil
  have hapart : (backToFront edits).Pairwise Apart :=
    ((backToFront_perm edits).pairwise_iff fun h => h.symm).2 h
  refine (hsorted.and hapart).imp_of_mem fun {d e} hd he hboth => ?_
  obtain ⟨hstart, hside, hsame⟩ := hboth
  have hd := hle d ((backToFront_perm edits).mem_iff.1 hd)
  have he := hle e ((backToFront_perm edits).mem_iff.1 he)
  by_cases heq : d.start = e.start
  · have := hsame heq
    omega
  · omega

/-! ### Carrying out edits -/

/-- An edit whose offsets lie between characters. -/
def Edit.Fits (e : Edit) (text : List Char) : Prop :=
  e.start ≤ e.stop ∧ Cuts e.start text ∧ Cuts e.stop text

/-- An edit succeeds exactly if its offsets lie between characters. -/
theorem Edit.replaceIn?_eq_some {e : Edit} {text output : List Char} :
    e.replaceIn? text = some output ↔
      ∃ front old back, text = front ++ old ++ back ∧ e.start = byteLength front ∧
        e.stop = byteLength front + byteLength old ∧ output = front ++ e.text ++ back := by
  constructor
  · intro h
    unfold Edit.replaceIn? at h
    split at h
    · rename_i hle
      split at h
      · rename_i front _ _ back hstart hstop
        cases h
        obtain ⟨htext, hfront⟩ := splitAtByte?_eq_some.1 hstart
        obtain ⟨htext', hfront'⟩ := splitAtByte?_eq_some.1 hstop
        obtain ⟨old, rfl⟩ := prefix_of_byteLength_le (htext.symm.trans htext') (by omega)
        refine ⟨front, old, back, htext', hfront.symm, ?_, rfl⟩
        rw [← hfront', byteLength_append]
      · cases h
    · cases h
  · rintro ⟨front, old, back, rfl, hstart, hstop, rfl⟩
    have hle : e.start ≤ e.stop := by omega
    have hfront : splitAtByte? e.start (front ++ old ++ back) = some (front, old ++ back) := by
      rw [hstart, List.append_assoc, splitAtByte?_byteLength]
    have hback : splitAtByte? e.stop (front ++ old ++ back) = some (front ++ old, back) := by
      rw [hstop, ← byteLength_append, splitAtByte?_byteLength]
    rw [Edit.replaceIn?, if_pos hle, hfront, hback]

/-- An edit whose offsets lie between characters of a text. -/
theorem Edit.Fits.split {e : Edit} {text : List Char} (h : e.Fits text) :
    ∃ front old back, text = front ++ old ++ back ∧ e.start = byteLength front ∧
      e.stop = byteLength front + byteLength old := by
  obtain ⟨hle, ⟨front, _, hfront, hstart⟩, ⟨front', back, rfl, hstop⟩⟩ := h
  obtain ⟨old, rfl⟩ := prefix_of_byteLength_le hfront.symm (by omega)
  refine ⟨front, old, back, rfl, hstart.symm, ?_⟩
  rw [← hstop, byteLength_append]

/-- Edits in descending order within the beginning of a text leave the rest alone, and change this
beginning part by part. The edits that are still to be done all lie in front of the last one, so that they
find the text there as it was. -/
theorem replaceAll?_spliced {edits : List Edit} {front back output : List Char}
    (hdescending : Descending edits) (hwithin : ∀ e ∈ edits, e.stop ≤ byteLength front)
    (h : replaceAll? edits (front ++ back) = some output) :
    ∃ parts, textBefore parts = front ∧ textAfter parts ++ back = output ∧
      changes 0 parts = edits.reverse := by
  induction edits generalizing front back with
  | nil =>
    cases h
    exact ⟨[.kept front], by simp [textBefore, Part.before], by simp [textAfter, Part.after], rfl⟩
  | cons e edits ih =>
    obtain ⟨hlater, hdescending⟩ := List.pairwise_cons.1 hdescending
    obtain ⟨middle, hedit, h⟩ := Option.bind_eq_some_iff.1 h
    obtain ⟨left, old, right, htext, hstart, hstop, rfl⟩ := Edit.replaceIn?_eq_some.1 hedit
    have hfront := hwithin e List.mem_cons_self
    obtain ⟨right', hright⟩ : left ++ old <+: front :=
      prefix_of_byteLength_le htext.symm (by rw [byteLength_append]; omega)
    have hrest : right = right' ++ back := by
      rw [← hright, List.append_assoc] at htext
      exact (List.append_cancel_left htext).symm
    rw [List.append_assoc] at h
    obtain ⟨parts, hbefore, hafter, hchanges⟩ :=
      ih hdescending (fun d hd => hstart ▸ hlater d hd) h
    refine ⟨parts ++ [Part.changed old e.text, .kept right'], ?_, ?_, ?_⟩
    · rw [textBefore_append, hbefore, ← hright]
      simp [textBefore, Part.before]
    · rw [textAfter_append, ← hafter, hrest]
      simp [textAfter, Part.after]
    · rw [changes_append, hbefore, hchanges, List.reverse_cons, Nat.zero_add, ← hstart]
      have hedit : (⟨e.start, e.start + byteLength old, e.text⟩ : Edit) = e := by
        rw [hstart, ← hstop, ← hstart]
      rw [changes, changes, changes, hedit]

/-- The first edit of a run changes the end of a text, where all other edits of the run lie in front of it. -/
theorem replaceAll?_step {e : Edit} {edits : List Edit} {front : List Char}
    (hlater : ∀ d ∈ edits, d.stop ≤ e.start) (hfits : ∀ d ∈ e :: edits, d.Fits front) :
    ∃ left old right, front = left ++ old ++ right ∧ e.start = byteLength left ∧
      e.stop = byteLength left + byteLength old ∧ (∀ d ∈ edits, d.Fits left) ∧
      ∀ back, replaceAll? (e :: edits) (front ++ back) = replaceAll? edits (left ++ (e.text ++ (right ++ back))) := by
  obtain ⟨left, old, right, rfl, hstart, hstop⟩ := (hfits e List.mem_cons_self).split
  refine ⟨left, old, right, rfl, hstart, hstop, fun d hd => ?_, fun back => ?_⟩
  · obtain ⟨hle, hcut, hcut'⟩ := hfits d (List.mem_cons_of_mem e hd)
    have hend := hlater d hd
    rw [List.append_assoc] at hcut hcut'
    exact ⟨hle, hcut.of_append (by omega), hcut'.of_append (by omega)⟩
  · have hedit : e.replaceIn? (left ++ old ++ right ++ back) = some (left ++ (e.text ++ (right ++ back))) :=
      Edit.replaceIn?_eq_some.2 ⟨left, old, right ++ back, by simp, hstart, hstop, by simp⟩
    rw [replaceAll?, hedit, Option.bind_some]

/-- Edits in descending order are carried out if all their offsets lie between characters. -/
theorem replaceAll?_isSome {edits : List Edit} {front : List Char} (back : List Char)
    (hdescending : Descending edits) (hfits : ∀ e ∈ edits, e.Fits front) :
    ∃ output, replaceAll? edits (front ++ back) = some output := by
  induction edits generalizing front back with
  | nil => exact ⟨_, rfl⟩
  | cons e edits ih =>
    obtain ⟨hlater, hdescending⟩ := List.pairwise_cons.1 hdescending
    obtain ⟨left, old, right, -, -, -, hleft, hstep⟩ := replaceAll?_step hlater hfits
    rw [hstep]
    exact ih _ hdescending hleft

/-! ### All edits of a text -/

section

variable {edits : List Edit} {text output : List Char}

/-- Edits that lie apart result in a splice. -/
theorem applyEdits?_spliced (hle : ∀ e ∈ edits, e.start ≤ e.stop) (hapart : edits.Pairwise Apart)
    (h : applyEdits? edits text = some output) :
    ∃ parts, textBefore parts = text ∧ textAfter parts = output ∧
      changes 0 parts = (backToFront edits).reverse := by
  have hdescending := backToFront_descending hle hapart
  rw [applyEdits?, ← List.append_nil text] at h
  -- The first edit of the run ends last, and it ends within the text since it succeeds.
  have hwithin : ∀ e ∈ backToFront edits, e.stop ≤ byteLength text := by
    cases hrun : backToFront edits with
    | nil => exact List.forall_mem_nil _
    | cons d ds =>
      rw [hrun] at h hdescending
      obtain ⟨_, hedit, -⟩ := Option.bind_eq_some_iff.1 h
      obtain ⟨left, old, right, htext, hstart, hstop, -⟩ := Edit.replaceIn?_eq_some.1 hedit
      rw [List.append_nil] at htext
      have hd : d.stop ≤ byteLength text := by
        rw [htext, byteLength_append, byteLength_append]
        omega
      refine List.forall_mem_cons.2 ⟨hd, fun e he => ?_⟩
      have := (List.pairwise_cons.1 hdescending).1 e he
      omega
  obtain ⟨parts, hbefore, hafter, hchanges⟩ := replaceAll?_spliced hdescending hwithin h
  exact ⟨parts, hbefore, by rwa [List.append_nil] at hafter, hchanges⟩

/-- Edits that lie apart are carried out if all their offsets lie between characters. -/
theorem applyEdits?_isSome (hfits : ∀ e ∈ edits, e.Fits text) (hapart : edits.Pairwise Apart) :
    ∃ output, applyEdits? edits text = some output := by
  have hdescending := backToFront_descending (fun e he => (hfits e he).1) hapart
  have hsorted : ∀ e ∈ backToFront edits, e.Fits text := fun e he =>
    hfits e ((backToFront_perm edits).mem_iff.1 he)
  obtain ⟨output, h⟩ := replaceAll?_isSome [] hdescending hsorted
  exact ⟨output, by rwa [List.append_nil] at h⟩

/-- Of two edits the one that does not start first is carried out first. -/
theorem applyEdits?_pair {d e : Edit} {middle : List Char} (hle : d.start ≤ e.start)
    (he : e.replaceIn? text = some middle) (hd : d.replaceIn? middle = some output) :
    applyEdits? [d, e] text = some output := by
  simp [applyEdits?, backToFront, insertEdit, hle, replaceAll?, he, hd]

end

end RecordSql.Generate
