import NetLookup.Decimal.Binary
import NetLookup.Failure

/-! # Whole powers of floating-point numbers

Where the power is itself a floating-point number it is built from its digits; elsewhere it is left
to the machine. A power out of range is a fault, a power too small is zero. -/

namespace NetLookup.Decimal

/-- Moves factors of two from the mantissa to the exponent. -/
def oddPart : Nat → Nat → Int → Nat × Int
  | 0, m, q => (m, q)
  | fuel + 1, m, q => if m % 2 = 0 then oddPart fuel (m / 2) (q + 1) else (m, q)

/-- Floating-point numbers from 2 ^ 53 on are even. -/
def oddExponent (n : Int) : Bool := n.natAbs < powerOf2 53 && n % 2 == 1

/-- The least number that rounds to no floating-point number. -/
def beyondFloats : Nat := powerOf2 1024 - powerOf2 970

def zeroOf (negative : Bool) : Float := if negative then -0.0 else 0.0

/-- The `n`-th power of two. -/
def powerOfTwo (n : Int) : Except Failure Float :=
  if 1024 ≤ n then .error (.fault .overflow)
  else .ok ((exactFloat? false 1 n).getD 0)

/-- A power that the machine computes. -/
def machinePower (base : Float) (n : Int) : Except Failure Float :=
  let x := base.pow (Float.ofInt n)
  match Binary.ofFloat x with
  | .infinite _ => .error (.fault .overflow)
  | _ => .ok x

/-- The `n`-th power of `base`, which is `m · 2 ^ q` with `m` above zero. -/
def powerOfPositive (base : Float) (m : Nat) (q n : Int) : Except Failure Float :=
  let (odd, shift) := oddPart 53 m q
  if odd = 1 then powerOfTwo (shift * n)
  else if 0 < n ∧ n ≤ 53 ∧ Nat.pow odd n.toNat < powerOf2 53 then
    match exactFloat? false (Nat.pow odd n.toNat) (shift * n) with
    | some x => .ok x
    | none => machinePower base n
  else machinePower base n

def power (base : Float) (n : Int) : Except Failure Float :=
  if n = 0 then .ok 1.0
  else if beyondFloats ≤ n.natAbs then .error (.fault .overflow)
  else
    match Binary.ofFloat base with
    | .notANumber => .ok base
    | .infinite negative =>
      if 0 < n then .ok (if negative && !oddExponent n then -base else base)
      else .ok (zeroOf (negative && oddExponent n))
    | .finite negative 0 _ =>
      if n < 0 then .error (.fault .divisionByZero)
      else .ok (zeroOf (negative && oddExponent n))
    | .finite negative m q =>
      (powerOfPositive (if negative then -base else base) m q n).map fun x =>
        if negative && oddExponent n then -x else x

end NetLookup.Decimal
