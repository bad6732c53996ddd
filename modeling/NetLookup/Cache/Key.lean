import NetLookup.Json.Order

/-! # What cached values are filed under -/

namespace NetLookup

/-- The key of an entry: a text, a number, or nothing. Truth values count as 1 and 0. -/
inductive Key where
  | nothing
  | num (n : Int)
  | frac (x : Decimal.Fraction)
  | text (s : String)
  deriving DecidableEq

namespace Key

/-- Lists, objects and resources cannot be keys. -/
def ofJson : Json → Except Failure Key
  | .null => .ok nothing
  | .bool b => .ok (num (if b then 1 else 0))
  | .num n => .ok (num n)
  | .frac x => .ok (frac x)
  | .str s => .ok (text s)
  | .arr _ | .obj _ | .resource _ _ => .error (.fault .wrongType)

def toJson : Key → Json
  | nothing => .null
  | num n => .num n
  | frac x => .frac x
  | text s => .str s

theorem ofJson_toJson (k : Key) : ofJson k.toJson = .ok k := by cases k <;> rfl

theorem ofJson_eq_text {v : Json} {s : String} : ofJson v = .ok (text s) ↔ v = .str s := by
  cases v <;> simp [ofJson]

end Key

/-- The place of an entry. Keys of different areas never meet. -/
structure Slot where
  area : String
  key : Key
  deriving DecidableEq

end NetLookup
