/-! # Sets of characters by ranges of their numbers -/

namespace NetLookup.Text

/-- Ranges with both their ends. -/
abbrev Ranges := List (Nat × Nat)

def Ranges.holds (rs : Ranges) (c : Char) : Bool := rs.any fun r => r.1 ≤ c.toNat && c.toNat ≤ r.2

end NetLookup.Text
