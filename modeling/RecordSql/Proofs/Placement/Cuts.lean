import RecordSql.Text.Bytes

/-!
# Cuts of a text

An offset cuts a text if it lies between two characters of it. Two beginnings of one text are compared by
their bytes.

- `Cuts`: an offset lies between characters.
- `prefix_takeBytes`: every beginning within a limit begins the longest one.
- `splitAtByte?_eq_some`: a text is split exactly where an offset cuts it.
- `prefix_of_byteLength_le`: of two beginnings, the one with fewer bytes begins the other one.
-/

namespace RecordSql.Text

variable {offset : Nat} {text front back front' back' : List Char}

@[simp] theorem byteLength_nil : byteLength [] = 0 := rfl

@[simp] theorem byteLength_cons (c : Char) (cs : List Char) :
    byteLength (c :: cs) = c.utf8Size + byteLength cs := rfl

theorem byteLength_eq_zero : byteLength text = 0 ↔ text = [] := by
  cases text with
  | nil => simp
  | cons c text =>
    have hsize := c.utf8Size_pos
    simp only [byteLength_cons, reduceCtorEq, iff_false]
    omega

/-! ### Beginnings -/

@[simp] theorem takeBytes_byteLength : ∀ (front back : List Char),
    takeBytes (byteLength front) (front ++ back) = front
  | [], [] => rfl
  | [], c :: cs => by
    have hsize := c.utf8Size_pos
    simp only [List.nil_append, byteLength_nil, takeBytes, ite_eq_right_iff]
    omega
  | c :: front, back => by
    have hlimit : c.utf8Size + byteLength front - c.utf8Size = byteLength front := by omega
    simp [takeBytes, hlimit, takeBytes_byteLength front back]

@[simp] theorem dropBytes_byteLength (front back : List Char) :
    dropBytes (byteLength front) (front ++ back) = back := by
  have hboth := takeBytes_append_dropBytes (byteLength front) (front ++ back)
  rw [takeBytes_byteLength] at hboth
  exact List.append_cancel_left hboth

/-- Of two beginnings of a text, the one with fewer bytes begins the other one. -/
theorem prefix_of_byteLength_le (h : front ++ back = front' ++ back')
    (hle : byteLength front ≤ byteLength front') : front <+: front' := by
  rcases List.append_eq_append_iff.1 h with ⟨more, hmore, -⟩ | ⟨more, hmore, -⟩
  · exact ⟨more, hmore.symm⟩
  · cases more with
    | nil => simp [hmore]
    | cons c more =>
      have hsize := c.utf8Size_pos
      rw [hmore, byteLength_append, byteLength_cons] at hle
      omega

/-- Every beginning within a limit begins the longest one. -/
theorem prefix_takeBytes {limit : Nat} (htext : text = front ++ back) (hlimit : byteLength front ≤ limit) :
    front <+: takeBytes limit text := by
  induction front generalizing limit text with
  | nil => exact List.nil_prefix
  | cons c front ih =>
    rw [byteLength_cons] at hlimit
    have hsize : c.utf8Size ≤ limit := by omega
    rw [htext, List.cons_append, takeBytes, if_pos hsize, List.prefix_cons_inj]
    exact ih rfl (by omega)

/-- A beginning is known by its bytes. -/
theorem eq_of_byteLength_eq (h : front ++ back = front' ++ back')
    (hsize : byteLength front = byteLength front') : front = front' ∧ back = back' := by
  have heq := (prefix_of_byteLength_le h (Nat.le_of_eq hsize)).eq_of_length_le
    (prefix_of_byteLength_le h.symm (Nat.le_of_eq hsize.symm)).length_le
  subst heq
  exact ⟨rfl, List.append_cancel_left h⟩

theorem byteLength_le_of_front (h : front <+: front') : byteLength front ≤ byteLength front' := by
  obtain ⟨more, rfl⟩ := h
  rw [byteLength_append]
  omega

/-- A longer beginning has more bytes. -/
theorem byteLength_lt_of_front (h : front <+: front') (hlength : front.length < front'.length) :
    byteLength front < byteLength front' := by
  obtain ⟨more, rfl⟩ := h
  cases more with
  | nil => simp at hlength
  | cons c more =>
    have hsize := c.utf8Size_pos
    rw [byteLength_append, byteLength_cons]
    omega

/-! ### Offsets between characters -/

/-- An offset lies between characters of a text, or at one of its ends. -/
def Cuts (offset : Nat) (text : List Char) : Prop :=
  ∃ front back, text = front ++ back ∧ byteLength front = offset

theorem cuts_byteLength (front back : List Char) : Cuts (byteLength front) (front ++ back) :=
  ⟨front, back, rfl, rfl⟩

theorem Cuts.le_byteLength (h : Cuts offset text) : offset ≤ byteLength text := by
  obtain ⟨front, back, rfl, rfl⟩ := h
  rw [byteLength_append]
  omega

/-- An offset within a beginning of a text cuts this beginning if it cuts the text. -/
theorem Cuts.of_append (h : Cuts offset (front ++ back)) (hle : offset ≤ byteLength front) :
    Cuts offset front := by
  obtain ⟨front', back', heq, rfl⟩ := h
  obtain ⟨more, hmore⟩ := prefix_of_byteLength_le heq.symm hle
  exact ⟨front', more, hmore.symm, rfl⟩

/-- An offset cuts a text in front of its first character, or where it cuts the rest behind this character. -/
theorem cuts_cons {c : Char} :
    Cuts offset (c :: text) ↔ offset = 0 ∨ c.utf8Size ≤ offset ∧ Cuts (offset - c.utf8Size) text := by
  constructor
  · rintro ⟨front, back, htext, rfl⟩
    cases front with
    | nil => exact .inl rfl
    | cons d front =>
      obtain ⟨rfl, rfl⟩ := List.cons.inj htext
      rw [byteLength_cons, Nat.add_sub_cancel_left]
      exact .inr ⟨Nat.le_add_right _ _, cuts_byteLength front back⟩
  · rintro (rfl | ⟨hle, front, back, rfl, hoffset⟩)
    · exact cuts_byteLength [] (c :: text)
    · refine ⟨c :: front, back, rfl, ?_⟩
      rw [byteLength_cons, hoffset]
      omega

@[simp] theorem splitAtByte?_byteLength (front back : List Char) :
    splitAtByte? (byteLength front) (front ++ back) = some (front, back) := by
  simp [splitAtByte?]

/-- A text is split exactly where an offset cuts it. -/
theorem splitAtByte?_eq_some :
    splitAtByte? offset text = some (front, back) ↔ text = front ++ back ∧ byteLength front = offset := by
  constructor
  · intro h
    simp only [splitAtByte?, Option.ite_none_right_eq_some, Option.some.injEq, Prod.mk.injEq] at h
    obtain ⟨hsize, rfl, rfl⟩ := h
    exact ⟨(takeBytes_append_dropBytes offset text).symm, hsize⟩
  · rintro ⟨rfl, rfl⟩
    exact splitAtByte?_byteLength front back

end RecordSql.Text
