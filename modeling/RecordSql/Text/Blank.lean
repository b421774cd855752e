/-!
# Blank characters

`isBlank` is the Unicode property White_Space; `trim` removes blanks at both ends.
-/

namespace RecordSql.Text

/-- Unicode property White_Space. -/
def isBlank (c : Char) : Bool :=
  let n := c.toNat
  (0x9 ≤ n && n ≤ 0xD) || n == 0x20 || n == 0x85 || n == 0xA0 || n == 0x1680 ||
    (0x2000 ≤ n && n ≤ 0x200A) || n == 0x2028 || n == 0x2029 || n == 0x202F || n == 0x205F ||
    n == 0x3000

/-- The characters without their leading blanks. -/
def trimLeft (cs : List Char) : List Char :=
  cs.dropWhile isBlank

/-- The characters without their trailing blanks. -/
def trimRight (cs : List Char) : List Char :=
  (cs.reverse.dropWhile isBlank).reverse

/-- The characters without blanks at either end. -/
def trim (cs : List Char) : List Char :=
  trimRight (trimLeft cs)

/-- Whether there is nothing but blanks. -/
def allBlank (cs : List Char) : Bool :=
  cs.all isBlank

end RecordSql.Text
