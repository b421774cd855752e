/-!
# Powers of two and ten

The powers that limits of words and decimal places are made of.
-/

namespace RecordSql.Decimal

/-- A power of two. -/
def twoTo (n : Nat) : Nat := Nat.pow 2 n

/-- A power of ten. -/
def tenTo (n : Nat) : Nat := Nat.pow 10 n

end RecordSql.Decimal
