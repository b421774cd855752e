import Mathlib.Data.Nat.Find
import RecordSql.Logging
import RecordSql.Proofs.Placement.Cuts

/-!
# Shortened texts

A text that is too long for the log is cut between two characters. The place is searched in the bytes of the
text, from the limit downwards: an offset is passed over while the byte behind it goes on with a character.

- `isBoundary`: whether an offset lies between characters, as the byte behind it tells.
- `isBoundary_utf8Encode`: the bytes of a text tell which offsets cut it.
- `boundaryUpTo?`: the search; it has no result if it has to go on below zero.
- `boundaryUpTo?_utf8Encode`: it ends behind the longest beginning within the limit.
- `shortenBySearch?`: a text cut where the search ends, if it ends between two characters.
- `shorten_longest`: this always succeeds, and leaves the longest beginning within the limit.
-/

namespace RecordSql.Text

variable {offset : Nat} {text : List Char}

/-! ### Bytes of characters -/

/-- Whether characters start with a byte; those that go on with one lie between `0x80` and `0xBF`. -/
def startsCharacter (b : UInt8) : Bool :=
  b < 0x80 || 0xC0 ≤ b

theorem startsCharacter_ofNat {n : Nat} (hn : n < 0x100) :
    startsCharacter (UInt8.ofNat n) = true ↔ n < 0x80 ∨ 0xC0 ≤ n := by
  have hvalue : (UInt8.ofNat n).toNat = n := UInt8.toNat_ofNat_of_lt' hn
  rw [startsCharacter, Bool.or_eq_true, decide_eq_true_iff, decide_eq_true_iff, UInt8.lt_iff_toNat_lt,
    UInt8.le_iff_toNat_le, hvalue]
  rfl

/-- The bytes behind the first one carry six bits each. -/
theorem not_startsCharacter (n : Nat) : ¬ startsCharacter (UInt8.ofNat (n % 0x40 + 0x80)) := by
  rw [startsCharacter_ofNat (by omega)]
  omega

/-- A character starts with its first byte and goes on with the others. -/
theorem exists_utf8EncodeChar (c : Char) :
    ∃ b more, String.utf8EncodeChar c = b :: more ∧ startsCharacter b ∧ ∀ b ∈ more, ¬ startsCharacter b := by
  have hnone := List.forall_mem_nil fun b => ¬ startsCharacter b = true
  unfold String.utf8EncodeChar
  dsimp only
  -- one case for each number of bytes
  split
  · refine ⟨_, _, rfl, ?_, hnone⟩
    rw [startsCharacter_ofNat (by omega)]
    omega
  split
  · refine ⟨_, _, rfl, ?_, List.forall_mem_cons.2 ⟨not_startsCharacter _, hnone⟩⟩
    rw [startsCharacter_ofNat (by omega)]
    omega
  split
  · refine ⟨_, _, rfl, ?_, ?_⟩
    · rw [startsCharacter_ofNat (by omega)]
      omega
    · iterate 2 refine List.forall_mem_cons.2 ⟨not_startsCharacter _, ?_⟩
      exact hnone
  · refine ⟨_, _, rfl, ?_, ?_⟩
    · rw [startsCharacter_ofNat (by omega)]
      omega
    · iterate 3 refine List.forall_mem_cons.2 ⟨not_startsCharacter _, ?_⟩
      exact hnone

/-! ### Boundaries -/

/-- Whether an offset into the bytes of a text lies between characters or at one of its ends. -/
def isBoundary (bytes : ByteArray) (offset : Nat) : Bool :=
  if offset = 0 then true
  else if h : offset < bytes.size then startsCharacter bytes[offset]
  else offset = bytes.size

theorem size_utf8Encode (text : List Char) : text.utf8Encode.size = byteLength text := by
  induction text with
  | nil => rfl
  | cons c text ih =>
    rw [List.utf8Encode_cons, ByteArray.size_append, ih, byteLength_cons, List.utf8Encode_singleton,
      List.size_toByteArray, String.length_utf8EncodeChar]

/-- A character starts with a byte of a text exactly if the text is cut in front of it. -/
theorem startsCharacter_iff_cuts {b : UInt8} (h : (text.flatMap String.utf8EncodeChar)[offset]? = some b) :
    startsCharacter b = true ↔ Cuts offset text := by
  induction text generalizing offset with
  | nil => cases h
  | cons c text ih =>
    obtain ⟨first, more, hc, hfirst, hmore⟩ := exists_utf8EncodeChar c
    have hsize := c.utf8Size_pos
    have hlength := String.length_utf8EncodeChar c
    rw [List.flatMap_cons] at h
    rw [cuts_cons]
    by_cases hbehind : c.utf8Size ≤ offset
    · rw [List.getElem?_append_right (by omega), hlength] at h
      have hoffset : offset ≠ 0 := by omega
      rw [ih h, or_iff_right hoffset, and_iff_right hbehind]
    · rw [List.getElem?_append_left (by omega), hc] at h
      have hwithin : ¬ (c.utf8Size ≤ offset ∧ Cuts (offset - c.utf8Size) text) := fun h => hbehind h.1
      rw [or_iff_left hwithin]
      cases offset with
      | zero =>
        cases h
        exact iff_of_true hfirst rfl
      | succ offset => exact iff_of_false (hmore b (List.mem_of_getElem? h)) (Nat.succ_ne_zero offset)

/-- The bytes of a text tell which offsets cut it. -/
theorem isBoundary_utf8Encode : isBoundary text.utf8Encode offset = true ↔ Cuts offset text := by
  unfold isBoundary
  by_cases hzero : offset = 0
  · rw [if_pos hzero, hzero]
    exact iff_of_true rfl (cuts_byteLength [] text)
  rw [if_neg hzero]
  split
  · rename_i hinside
    refine startsCharacter_iff_cuts ?_
    have hlist : offset < (text.flatMap String.utf8EncodeChar).length := by
      rwa [← List.size_toByteArray]
    rw [List.getElem?_eq_getElem hlist]
    exact congrArg some List.getElem_toByteArray.symm
  · rename_i houtside
    rw [size_utf8Encode] at houtside
    rw [decide_eq_true_iff, size_utf8Encode]
    constructor
    · rintro rfl
      exact ⟨text, [], (List.append_nil text).symm, rfl⟩
    · intro hcuts
      exact Nat.le_antisymm hcuts.le_byteLength (Nat.le_of_not_lt houtside)

/-! ### Searching downwards -/

/-- Searches the bytes of a text from an offset downwards for one between characters. There is no result if the
search has to go on below zero. -/
def boundaryUpTo? (bytes : ByteArray) : Nat → Option Nat
  | 0 => if isBoundary bytes 0 then some 0 else none
  | offset + 1 => if isBoundary bytes (offset + 1) then some (offset + 1) else boundaryUpTo? bytes offset

/-- Zero is never passed over, so that the search ends with the greatest boundary within the limit. -/
theorem boundaryUpTo?_eq (bytes : ByteArray) (limit : Nat) :
    boundaryUpTo? bytes limit = some (Nat.findGreatest (isBoundary bytes · = true) limit) := by
  induction limit with
  | zero => rfl
  | succ limit ih =>
    rw [boundaryUpTo?, Nat.findGreatest_succ]
    by_cases hstop : isBoundary bytes (limit + 1) = true
    · rw [if_pos hstop, if_pos hstop]
    · rw [if_neg hstop, if_neg hstop, ih]

/-- The search ends behind the longest beginning within the limit. -/
theorem boundaryUpTo?_utf8Encode (limit : Nat) (text : List Char) :
    boundaryUpTo? text.utf8Encode limit = some (byteLength (takeBytes limit text)) := by
  rw [boundaryUpTo?_eq, Option.some_inj, Nat.findGreatest_eq_iff]
  refine ⟨byteLength_takeBytes_le limit text, fun _ => ?_, fun offset hbehind hlimit hbound => ?_⟩
  · exact isBoundary_utf8Encode.2 ⟨_, _, (takeBytes_append_dropBytes limit text).symm, rfl⟩
  · obtain ⟨front, back, htext, rfl⟩ := isBoundary_utf8Encode.1 hbound
    have := byteLength_le_of_front (prefix_takeBytes htext hlimit)
    omega

example : boundaryUpTo? "h\u00e9llo".toByteArray 2 = some 1 := by decide

end RecordSql.Text

namespace RecordSql

open RecordSql.Text

/-! ### Texts of the log -/

theorem toByteArray_eq_utf8Encode (s : String) : s.toByteArray = s.toList.utf8Encode := by
  rw [← String.toByteArray_ofList, String.ofList_toList]

theorem utf8ByteSize_eq_byteLength (s : String) : s.utf8ByteSize = byteLength s.toList := by
  rw [← String.size_toByteArray, toByteArray_eq_utf8Encode, size_utf8Encode]

/-- A text of at most `limit` bytes as it is, a longer one up to where the search ends and with three dots. There
is no result if the search has none or ends within a character. -/
def shortenBySearch? (limit : Nat) (s : String) : Option String :=
  if s.utf8ByteSize ≤ limit then some s
  else do
    let stop ← boundaryUpTo? s.toByteArray limit
    let (front, _) ← splitAtByte? stop s.toList
    some (String.ofList front ++ "...")

/-- The search always ends between two characters. -/
theorem shortenBySearch?_eq (limit : Nat) (s : String) : shortenBySearch? limit s = some (shorten limit s) := by
  unfold shortenBySearch? shorten
  split
  · rfl
  have hcut : splitAtByte? (byteLength (takeBytes limit s.toList)) s.toList =
      some (takeBytes limit s.toList, dropBytes limit s.toList) :=
    splitAtByte?_eq_some.2 ⟨(takeBytes_append_dropBytes limit s.toList).symm, rfl⟩
  rw [toByteArray_eq_utf8Encode, boundaryUpTo?_utf8Encode, Option.bind_eq_bind, Option.bind_some, hcut]
  rfl

/-- The bytes of a text tell where it falls into two parts. -/
theorem isBoundary_iff_append {s : String} {offset : Nat} :
    isBoundary s.toByteArray offset = true ↔
      ∃ front back : String, s = front ++ back ∧ front.utf8ByteSize = offset := by
  rw [toByteArray_eq_utf8Encode, isBoundary_utf8Encode]
  constructor
  · rintro ⟨front, back, htext, rfl⟩
    refine ⟨String.ofList front, String.ofList back, ?_, ?_⟩
    · rw [← String.ofList_append, ← htext, String.ofList_toList]
    · rw [utf8ByteSize_eq_byteLength, String.toList_ofList]
  · rintro ⟨front, back, rfl, rfl⟩
    exact ⟨front.toList, back.toList, String.toList_append, (utf8ByteSize_eq_byteLength front).symm⟩

/-- Shortening never searches below zero and never cuts within a character. A text within the limit stays as it is.
Of a longer one the search finds the end of a beginning within the limit, which is kept with three dots behind
it, and every other beginning within the limit begins this one. -/
theorem shorten_longest (limit : Nat) (s : String) :
    shortenBySearch? limit s = some (shorten limit s) ∧
    (∀ offset, isBoundary s.toByteArray offset = true ↔
      ∃ front back : String, s = front ++ back ∧ front.utf8ByteSize = offset) ∧
    (s.utf8ByteSize ≤ limit → shorten limit s = s) ∧
    (limit < s.utf8ByteSize → ∃ front back : String, s = front ++ back ∧ shorten limit s = front ++ "..." ∧
      boundaryUpTo? s.toByteArray limit = some front.utf8ByteSize ∧ front.utf8ByteSize ≤ limit ∧
      ∀ front' back' : String, s = front' ++ back' → front'.utf8ByteSize ≤ limit →
        ∃ more, front = front' ++ more) := by
  refine ⟨shortenBySearch?_eq limit s, fun _ => isBoundary_iff_append, fun hfits => if_pos hfits, fun hlong => ?_⟩
  have hsize : (String.ofList (takeBytes limit s.toList)).utf8ByteSize = byteLength (takeBytes limit s.toList) := by
    rw [utf8ByteSize_eq_byteLength, String.toList_ofList]
  refine ⟨String.ofList (takeBytes limit s.toList), String.ofList (dropBytes limit s.toList), ?_, ?_, ?_, ?_, ?_⟩
  · rw [← String.ofList_append, takeBytes_append_dropBytes, String.ofList_toList]
  · exact if_neg (Nat.not_le_of_lt hlong)
  · rw [toByteArray_eq_utf8Encode, boundaryUpTo?_utf8Encode, hsize]
  · rw [hsize]
    exact byteLength_takeBytes_le limit s.toList
  · intro front' back' htext hlimit
    rw [utf8ByteSize_eq_byteLength] at hlimit
    have hparts : s.toList = front'.toList ++ back'.toList := by rw [htext, String.toList_append]
    obtain ⟨more, hmore⟩ := prefix_takeBytes hparts hlimit
    exact ⟨String.ofList more, by rw [← hmore, String.ofList_append, String.ofList_toList]⟩

/-- A text whose second character takes two bytes. -/
def accentedWord : String := "h\u00e9llo"

/-- The limit of two bytes lies within the second character. -/
theorem accentedWord_shortened :
    accentedWord.utf8ByteSize ≤ 6 ∧ shorten 6 accentedWord = accentedWord ∧ 2 < accentedWord.utf8ByteSize ∧
      accentedWord = "h" ++ "\u00e9llo" ∧ "h".utf8ByteSize ≤ 2 ∧
      ∃ front back : String, accentedWord = front ++ back ∧ shorten 2 accentedWord = front ++ "..." ∧
        boundaryUpTo? accentedWord.toByteArray 2 = some front.utf8ByteSize ∧ front.utf8ByteSize ≤ 2 ∧
        ∃ more, front = "h" ++ more := by
  have hfits : accentedWord.utf8ByteSize ≤ 6 := by decide
  have hlong : 2 < accentedWord.utf8ByteSize := by decide
  have hparts : accentedWord = "h" ++ "\u00e9llo" := by decide
  have hlimit : "h".utf8ByteSize ≤ 2 := by decide
  obtain ⟨-, -, hwhole, -⟩ := shorten_longest 6 accentedWord
  obtain ⟨-, -, -, hcut⟩ := shorten_longest 2 accentedWord
  obtain ⟨front, back, htext, hshort, hsearch, hsize, hlongest⟩ := hcut hlong
  exact ⟨hfits, hwhole hfits, hlong, hparts, hlimit, front, back, htext, hshort, hsearch, hsize,
    hlongest _ _ hparts hlimit⟩

end RecordSql
