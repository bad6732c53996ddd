import NetLookup.Decimal.Shortest

/-! # Percentages with one decimal place -/

namespace NetLookup.Decimal

/-- The quotient rounded to the nearest whole number, a half to the even neighbour. -/
def roundQuotient (n d : Nat) : Nat :=
  let q := n / d
  let twice := 2 * (n % d)
  if twice < d then q else if d < twice then q + 1 else if q % 2 = 0 then q else q + 1

/-- A hundred times a number, with one place after the point and a percent sign. -/
def percent (x : Float) : String :=
  match Binary.ofFloat (x * 100) with
  | .notANumber => "nan%"
  | .infinite negative => signed negative "inf%".toList
  | .finite negative m q =>
    let tenths := roundQuotient (10 * m * powerOf2 q.toNat) (powerOf2 (-q).toNat)
    signed negative (digitsOf (tenths / 10) ++ '.' :: digitsOf (tenths % 10) ++ ['%'])

end NetLookup.Decimal
