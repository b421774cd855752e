import RecordSql.Decimal.Shortest

/-!
# Decimal notation

How the digits of a number are laid out: positionally while the point stands near them, else with an
exponent.

- `Layout`: the decisions of one written form.
- `Layout.write`: a word in that form.
-/

namespace RecordSql.Decimal

/-- Decisions of a written form. A number is written positionally while the place of its point is at
least `leastPoint` and at most `greatestPoint`. -/
structure Layout where
  leastPoint : Int
  greatestPoint : Int
  notANumber : String
  infinite : String

/-- A list of digits as text. -/
def digitText (ds : List Nat) : String :=
  String.ofList (ds.map Nat.digitChar)

/-- Positional text with at least one place after the point. -/
def positional (d : Digits) : String :=
  let zeros (n : Nat) := List.replicate n 0
  if d.point ≤ 0 then "0." ++ digitText (zeros d.point.natAbs ++ d.digits)
  else
    let whole := d.digits.take d.point.toNat
    let places := d.digits.drop d.point.toNat
    digitText (whole ++ zeros (d.point.toNat - whole.length)) ++ "." ++
      (if places.isEmpty then "0" else digitText places)

/-- Text with one digit before the point and an exponent. -/
def scientific (d : Digits) : String :=
  let exponent := toString (d.point - 1)
  match d.digits with
  | [] => "0e0"
  | [first] => digitText [first] ++ "e" ++ exponent
  | first :: rest => digitText [first] ++ "." ++ digitText rest ++ "e" ++ exponent

/-- The text of a word. -/
def Layout.write (l : Layout) (x : Binary64) : String :=
  let sign := if x.negative then "-" else ""
  if x.isNaN then l.notANumber
  else if !x.isFinite then sign ++ l.infinite
  else if x.significand = 0 then sign ++ "0.0"
  else
    let d := shortest x
    sign ++ (if l.leastPoint ≤ d.point && d.point ≤ l.greatestPoint then positional d
      else scientific d)

/-- The form in debug text: positional from `0.0001` up to, and without, `10 ^ 16`. -/
def debugLayout : Layout where
  leastPoint := -3
  greatestPoint := 16
  notANumber := "NaN"
  infinite := "inf"

/-- The form in documents: positional from `0.00001` up to, and without, `10 ^ 16`. There a number that
is not finite has no form of its own. -/
def documentLayout : Layout where
  leastPoint := -4
  greatestPoint := 16
  notANumber := "null"
  infinite := "null"

end RecordSql.Decimal
