import NetLookup.Decimal.Shortest

/-! # Floating-point numbers that are not whole -/

namespace NetLookup.Decimal

/-- `± mantissa / 2 ^ places`, taken apart in the one way in which a 64-bit number is. -/
structure Fraction where
  negative : Bool
  mantissa : Nat
  places : Nat
  notWhole : mantissa % powerOf2 places ≠ 0
  packed : mantissa < powerOf2 53 ∧ places ≤ leastExponent.natAbs ∧
    (powerOf2 52 ≤ mantissa ∨ places = leastExponent.natAbs)
  deriving DecidableEq

namespace Fraction

def numerator (x : Fraction) : Int := if x.negative then -x.mantissa else x.mantissa

def text (x : Fraction) : String := signed x.negative (layout (shortest x.mantissa (-x.places)))

end Fraction

/-- How two quotients compare, each by a power of two. -/
def compareQuotients (a b : Int × Nat) : Ordering := compare (a.1 * powerOf2 b.2) (b.1 * powerOf2 a.2)

end NetLookup.Decimal
