/-! # Binary floating-point numbers taken apart -/

namespace NetLookup.Decimal

/-- The value of a 64-bit floating-point number: a finite one is ± `mantissa` · 2 ^ `exponent`. -/
inductive Binary where
  | notANumber
  | infinite (negative : Bool)
  | finite (negative : Bool) (mantissa : Nat) (exponent : Int)
  deriving DecidableEq

def powerOf2 (n : Nat) : Nat := Nat.pow 2 n

/-- The least exponent, which the numbers nearest to zero have. -/
def leastExponent : Int := -1074

def Binary.ofFloat (x : Float) : Binary :=
  let bits := x.toBits.toNat
  let negative := bits / powerOf2 63 == 1
  let field : Nat := bits / powerOf2 52 % powerOf2 11
  let fraction := bits % powerOf2 52
  if field = 2047 then if fraction = 0 then .infinite negative else .notANumber
  else if field = 0 then .finite negative fraction leastExponent
  else .finite negative (powerOf2 52 + fraction) (leastExponent + ((field : Int) - 1))

/-- The number of binary digits. -/
def bitLength (n : Nat) : Nat := if n = 0 then 0 else n.log2 + 1

/-- `± mantissa · 2 ^ exponent` if it is a 64-bit floating-point number. -/
def exactFloat? (negative : Bool) (mantissa : Nat) (exponent : Int) : Option Float :=
  let sign := if negative then powerOf2 63 else 0
  let length := bitLength mantissa
  let top := length + exponent
  if mantissa = 0 then some (Float.ofBits (UInt64.ofNat sign))
  else if 53 < length ∨ 1024 < top ∨ exponent < leastExponent then none
  else if top < leastExponent + 53 then
    some (Float.ofBits (UInt64.ofNat (sign + mantissa * powerOf2 (exponent - leastExponent).toNat)))
  else
    let field := (top - 53 - leastExponent + 1).toNat
    some (Float.ofBits (UInt64.ofNat
      (sign + field * powerOf2 52 + (mantissa * powerOf2 (53 - length) - powerOf2 52))))

end NetLookup.Decimal
