/-!
# Numerals

Reading and writing natural numbers in ASCII digits.

- `spanDigits`: the decimal digits in front, and the rest.
- `decimal?`, `hexadecimal?`: the value of a whole text of digits.
- `padded`: decimal text of a least width.
-/

namespace RecordSql.Text

/-- The value of a decimal digit. -/
def digitValue? (c : Char) : Option Nat :=
  if c.isDigit then some (c.toNat - '0'.toNat) else none

/-- The value of a hexadecimal digit of either case. -/
def hexValue? (c : Char) : Option Nat :=
  if c.isDigit then some (c.toNat - '0'.toNat)
  else if 'a' ≤ c && c ≤ 'f' then some (c.toNat - 'a'.toNat + 10)
  else if 'A' ≤ c && c ≤ 'F' then some (c.toNat - 'A'.toNat + 10)
  else none

/-- The value of digits in a base, most significant first; nothing if one is no digit. -/
def positional? (base : Nat) (value? : Char → Option Nat) : Nat → List Char → Option Nat
  | acc, [] => some acc
  | acc, c :: cs =>
    match value? c with
    | some d => positional? base value? (base * acc + d) cs
    | none => none

/-- A nonempty text of decimal digits. -/
def decimal? (cs : List Char) : Option Nat :=
  if cs.isEmpty then none else positional? 10 digitValue? 0 cs

/-- A nonempty text of hexadecimal digits. -/
def hexadecimal? (cs : List Char) : Option Nat :=
  if cs.isEmpty then none else positional? 16 hexValue? 0 cs

/-- The decimal digits in front, and the rest. -/
def spanDigits (cs : List Char) : List Char × List Char :=
  (cs.takeWhile Char.isDigit, cs.dropWhile Char.isDigit)

/-- Bytes written with two hexadecimal digits each. -/
def hexBytes? : List Char → Option (List UInt8)
  | [] => some []
  | [_] => none
  | a :: b :: cs =>
    match hexValue? a, hexValue? b, hexBytes? cs with
    | some x, some y, some bytes => some (UInt8.ofNat (16 * x + y) :: bytes)
    | _, _, _ => none

/-- Decimal text, filled with zeros on the left up to a width. -/
def padded (width n : Nat) : String :=
  let digits := toString n
  String.ofList (List.replicate (width - digits.length) '0') ++ digits

end RecordSql.Text
