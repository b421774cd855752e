/-!
# Bytes of a text

Offsets into a text count bytes of its UTF-8 form; a text is cut only between characters.

- `byteLength`: how many bytes a text takes.
- `takeBytes`, `dropBytes`: the longest beginning of at most so many bytes, and the rest after it.
- `splitAtByte?`: both parts, if an offset lies between characters.
-/

namespace RecordSql.Text

/-- How many bytes a text takes. -/
def byteLength : List Char → Nat
  | [] => 0
  | c :: cs => c.utf8Size + byteLength cs

/-- The longest beginning of at most `limit` bytes. -/
def takeBytes (limit : Nat) : List Char → List Char
  | [] => []
  | c :: cs => if c.utf8Size ≤ limit then c :: takeBytes (limit - c.utf8Size) cs else []

/-- What follows the longest beginning of at most `limit` bytes. -/
def dropBytes (limit : Nat) : List Char → List Char
  | [] => []
  | c :: cs => if c.utf8Size ≤ limit then dropBytes (limit - c.utf8Size) cs else c :: cs

/-- The parts before and after an offset; nothing if the offset cuts a character or lies past the
end. -/
def splitAtByte? (offset : Nat) (cs : List Char) : Option (List Char × List Char) :=
  let front := takeBytes offset cs
  if byteLength front = offset then some (front, dropBytes offset cs) else none

theorem byteLength_append (cs ds : List Char) :
    byteLength (cs ++ ds) = byteLength cs + byteLength ds := by
  induction cs with
  | nil => simp [byteLength]
  | cons c cs ih => simp [byteLength, ih, Nat.add_assoc]

theorem takeBytes_append_dropBytes (limit : Nat) (cs : List Char) :
    takeBytes limit cs ++ dropBytes limit cs = cs := by
  induction cs generalizing limit with
  | nil => rfl
  | cons c cs ih =>
    by_cases h : c.utf8Size ≤ limit
    · simp [takeBytes, dropBytes, h, ih]
    · simp [takeBytes, dropBytes, h]

theorem byteLength_takeBytes_le (limit : Nat) (cs : List Char) :
    byteLength (takeBytes limit cs) ≤ limit := by
  induction cs generalizing limit with
  | nil => simp [takeBytes, byteLength]
  | cons c cs ih =>
    by_cases h : c.utf8Size ≤ limit
    · have := ih (limit - c.utf8Size)
      simp only [takeBytes, h, if_true, byteLength]
      omega
    · simp [takeBytes, h, byteLength]

end RecordSql.Text
