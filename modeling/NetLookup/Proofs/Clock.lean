import NetLookup.Duration
import Mathlib.Data.Prod.Lex
import Mathlib.Data.Int.Order.Basic

/-! # A clock that never runs backwards

A deadline that was reached at one reading is reached at every later one. Readings in ascending order
have this property, as the order of floating-point numbers is transitive. -/

namespace NetLookup

open Float.Model

/-! ## The order of floating-point numbers -/

/-- Where a number stands in the order. What is no number stands nowhere, and both zeros stand at one
place. -/
def place : UnpackedFloat → Option (Int ×ₗ Int ×ₗ Int)
  | .notANumber => none
  | .infinity .negative => some (toLex (-2, toLex (0, 0)))
  | .finite .negative m e _ => some (toLex (-1, toLex (-e, -m)))
  | .zero _ => some (toLex (0, toLex (0, 0)))
  | .finite .positive m e _ => some (toLex (1, toLex (e, m)))
  | .infinity .positive => some (toLex (2, toLex (0, 0)))

theorem isLE_compare_then (e f : Int) (m n : Nat) :
    ((compare e f).then (compare m n)).isLE = true ↔ e < f ∨ e = f ∧ m ≤ n := by
  rw [Ordering.isLE_then_iff_or, compare_lt_iff_lt, compare_eq_iff_eq, Nat.isLE_compare]

theorem isGE_compare_then (e f : Int) (m n : Nat) :
    ((compare e f).then (compare m n)).isGE = true ↔ f < e ∨ e = f ∧ n ≤ m := by
  rw [← Ordering.isLE_swap, Ordering.swap_then, Nat.compare_swap, Int.compare_swap,
    isLE_compare_then, eq_comm]

theorem le_iff_place (a b : UnpackedFloat) :
    a.le b = true ↔ ∃ x ∈ place a, ∃ y ∈ place b, x ≤ y := by
  rcases a with (_ | _) | _ | _ | ⟨_ | _, m, e, _⟩ <;>
    rcases b with (_ | _) | _ | _ | ⟨_ | _, n, f, _⟩ <;>
    unfold UnpackedFloat.le UnpackedFloat.compare place <;>
    dsimp only <;>
    simp [Prod.Lex.toLex_le_toLex, isLE_compare_then, isGE_compare_then] <;>
    -- Two infinities are left. They compare by their signs.
    rfl

theorem float_le_trans {a b c : Float} (hab : a ≤ b) (hbc : b ≤ c) : a ≤ c := by
  have key (x y : Float) : x ≤ y ↔ x.toModel.unpack.le y.toModel.unpack = true := by
    show decide (x.toModel ≤ y.toModel) = true ↔ _
    rw [decide_eq_true_iff]
    rfl
  rw [key, le_iff_place] at *
  obtain ⟨x, hx, y, hy, hxy⟩ := hab
  obtain ⟨y', hy', z, hz, hyz⟩ := hbc
  obtain rfl : y = y' := Option.mem_unique hy hy'
  exact ⟨x, hx, z, hz, le_trans hxy hyz⟩

/-! ## Readings -/

def StaysReached (earlier later : Float) : Prop :=
  ∀ deadline : Float, deadline ≤ earlier → deadline ≤ later

theorem StaysReached.of_le {earlier later : Float} (h : earlier ≤ later) :
    StaysReached earlier later :=
  fun _ hd => float_le_trans hd h

/-- A deadline once reached stays reached. -/
def NeverBack (readings : List Float) : Prop := readings.Pairwise StaysReached

theorem NeverBack.of_ascending {readings : List Float} (h : readings.Pairwise (· ≤ ·)) :
    NeverBack readings :=
  h.imp StaysReached.of_le

/-! ## Deadlines -/

namespace Ttl

/-- How many seconds a time to live lasts. A span lasts its microseconds, read with six decimal places. -/
def inSeconds : Ttl → Float
  | .seconds x => x
  | .span ⟨.ofNat n⟩ => .ofScientific n true 6
  | .span ⟨.negSucc n⟩ => -.ofScientific (n + 1) true 6

theorem deadline_eq (ttl : Ttl) (now : Float) : ttl.deadline now = now + ttl.inSeconds := by
  refine congrArg (now + ·) ?_
  rcases ttl with ⟨n | n⟩ | x
  · have hahead : ¬ Int.ofNat n < 0 := Int.not_lt.2 (Int.natCast_nonneg n)
    simp only [toSeconds, Duration.toSeconds, if_neg hahead]
    rfl
  · simp only [toSeconds, Duration.toSeconds, if_pos (Int.negSucc_lt_zero n)]
    rfl
  · rfl

end Ttl

end NetLookup
