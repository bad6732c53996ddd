import NetLookup.Json.Access

/-! # The order of values

Texts are ordered by code points, numbers by size, and lists by the first items that differ. Values of
different kinds have no order, nor have two nulls or two objects. -/

namespace NetLookup.Json

def textLe (a b : String) : Bool := decide (a ≤ b)

/-! ## Comparison -/

/-- The number that a value is equal to, as a quotient by a power of two. -/
def quotient? : Json → Option (Int × Nat)
  | frac x => some (x.numerator, x.places)
  | v => v.number?.map (·, 0)

mutual

/-- How two values compare, if they have an order. -/
def compare? : Json → Json → Option Ordering
  | str a, str b => some (compare a b)
  | arr a, arr b => compareItems? a b
  | a, b =>
    match a.quotient?, b.quotient? with
    | some m, some n => some (Decimal.compareQuotients m n)
    | _, _ => none

/-- Equal items are passed over, whether they have an order or not. -/
def compareItems? : List Json → List Json → Option Ordering
  | [], [] => some .eq
  | [], _ :: _ => some .lt
  | _ :: _, [] => some .gt
  | a :: as, b :: bs => if same a b then compareItems? as bs else compare? a b

end

def le (a b : Json) : Bool := compare? a b != some .gt

@[simp] theorem compare?_str (a b : String) : compare? (str a) (str b) = some (compare a b) := by
  simp [compare?]

/-! ## Sorting -/

/-- Whether any two of the values have an order. -/
def comparable : List Json → Bool
  | [] => true
  | v :: vs => vs.all (fun w => (compare? v w).isSome) && comparable vs

/-- Values in ascending order, equal ones as they came. -/
def sorted (vs : List Json) : Except Failure (List Json) :=
  if comparable vs then .ok (vs.mergeSort le) else .error (.fault .wrongType)

theorem comparable_map_str (texts : List String) : comparable (texts.map str) = true := by
  induction texts with
  | nil => rfl
  | cons t ts ih => simp [comparable, ih]

theorem sorted_map_str (texts : List String) :
    sorted (texts.map str) = .ok ((texts.map str).mergeSort le) := by
  simp [sorted, comparable_map_str]

end NetLookup.Json
