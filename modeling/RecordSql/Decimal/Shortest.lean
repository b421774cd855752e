import RecordSql.Decimal.Binary64

/-!
# Shortest decimal digits

The fewest digits that read back to a given finite nonzero word, chosen by exact arithmetic on natural
numbers: on grids of one digit, two digits and so on the two neighbours of the value are tested against
the interval of reals that round to it, and the first grid with a hit wins.

- `Magnitude`: a positive dyadic number with its rounding interval.
- `shortest`: digits and the power of ten in front of which the point stands.
-/

namespace RecordSql.Decimal

/-- Digits `d₁ d₂ … dₙ` that stand for `0.d₁d₂…dₙ · 10 ^ point`. -/
structure Digits where
  digits : List Nat
  point : Int
  deriving DecidableEq, Repr

/-- A value `num / den` between the ends `low / den` and `high / den` of its rounding interval; the ends
belong to it when `closed` holds. -/
structure Magnitude where
  num : Nat
  low : Nat
  high : Nat
  den : Nat
  closed : Bool

/-- The magnitude of a finite nonzero word. Distances are counted in quarters of the last place, because
below a power of two the neighbour is only half as far. -/
def Binary64.magnitude (x : Binary64) : Magnitude :=
  let unit := if x.scale ≥ 2 then twoTo (x.scale - 2).toNat else 1
  let den := if x.scale ≥ 2 then 1 else twoTo (2 - x.scale).toNat
  let below := if x.fraction = 0 && 1 < x.exponentField then 1 else 2
  { num := 4 * x.significand * unit
    low := (4 * x.significand - below) * unit
    high := (4 * x.significand + 2) * unit
    den := den
    closed := x.significand % 2 == 0 }

/-- Whether `k · 10 ^ p` rounds to the value. -/
def Magnitude.accepts (v : Magnitude) (k : Nat) (p : Int) : Bool :=
  let a := k * tenTo p.toNat * v.den
  let scale := tenTo (-p).toNat
  if v.closed then v.low * scale ≤ a && a ≤ v.high * scale
  else v.low * scale < a && a < v.high * scale

/-- The value in units of `10 ^ p`, rounded down. -/
def Magnitude.floorAt (v : Magnitude) (p : Int) : Nat :=
  v.num * tenTo (-p).toNat / (v.den * tenTo p.toNat)

/-- Whether the grid point above `k · 10 ^ p` is nearer than `k · 10 ^ p` itself; a tie goes to the even
one. -/
def Magnitude.roundsUp (v : Magnitude) (k : Nat) (p : Int) : Bool :=
  let twice := 2 * v.num * tenTo (-p).toNat
  let middle := (2 * k + 1) * (v.den * tenTo p.toNat)
  middle < twice || (middle == twice && k % 2 == 1)

/-- The neighbour on the grid `10 ^ p` that rounds to the value, the nearer one if both do. -/
def Magnitude.hit (v : Magnitude) (p : Int) : Option Nat :=
  let k := v.floorAt p
  match v.accepts k p && k != 0, v.accepts (k + 1) p with
  | true, true => some (if v.roundsUp k p then k + 1 else k)
  | true, false => some k
  | false, true => some (k + 1)
  | false, false => none

/-- The decimal digits of a natural number, most significant first. -/
def digitsOf (n : Nat) : List Nat :=
  (Nat.toDigits 10 n).map fun c => c.toNat - 48

/-- The number of digits in front of the point, at most zero for a value below one. -/
def Magnitude.point (v : Magnitude) : Int :=
  if v.den ≤ v.num then (digitsOf (v.num / v.den)).length
  else
    match (List.range 400).find? fun j => v.den ≤ v.num * tenTo (j + 1) with
    | some j => -(j : Int)
    | none => -400

/-- The digits without trailing zeros. -/
def dropTrailingZeros (ds : List Nat) : List Nat :=
  (ds.reverse.dropWhile (· == 0)).reverse

/-- The first hit on grids of one to seventeen digits. -/
def shortest (x : Binary64) : Digits :=
  let v := x.magnitude
  let point := v.point
  let grids := (List.range 17).map fun (i : Nat) => point - 1 - (i : Int)
  match grids.findSome? fun (p : Int) => (v.hit p).map fun k => (k, p) with
  | some (k, p) =>
    let ds := digitsOf k
    ⟨dropTrailingZeros ds, ds.length + p⟩
  | none => ⟨[0], 1⟩

end RecordSql.Decimal
