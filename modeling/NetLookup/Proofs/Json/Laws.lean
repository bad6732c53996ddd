import NetLookup.Json.Order
import Mathlib.Data.String.Basic

/-! # Equality and order of values

Two values are equal just in case they have the same core: truth values become the numbers they count as,
and what messages write for a resource is left out. So equality is an equivalence. Texts are ordered by code
points, and different ones that are sorted strictly ascend. -/

namespace NetLookup.Json

/-! ## Equality -/

mutual

/-- What of a value counts when it is compared. -/
def core : Json → Json
  | null => null
  | bool b => num (if b then 1 else 0)
  | num n => num n
  | frac x => frac x
  | str s => str s
  | arr items => arr (coreItems items)
  | obj fields => obj (coreFields fields)
  | resource _ fields => resource "" (coreFields fields)

def coreItems : List Json → List Json
  | [] => []
  | v :: vs => v.core :: coreItems vs

def coreFields : List (String × Json) → List (String × Json)
  | [] => []
  | (name, v) :: fields => (name, v.core) :: coreFields fields

end

mutual

theorem same_iff_core (a b : Json) : a.same b = true ↔ a.core = b.core := by
  cases a with
  | arr items =>
    cases b with
    | arr others => simpa [same, core] using sameItems_iff_core items others
    | _ => simp [same, core]
  | obj fields =>
    cases b with
    | obj others => simpa [same, core] using sameFields_iff_core fields others
    | _ => simp [same, core]
  | resource _ fields =>
    cases b with
    | resource _ others => simpa [same, core] using sameFields_iff_core fields others
    | _ => simp [same, core]
  | bool a =>
    cases b with
    | bool b => cases a <;> cases b <;> simp [same, core]
    | _ => simp [same, core]
  | _ => cases b <;> simp [same, core]

theorem sameItems_iff_core (as bs : List Json) :
    sameItems as bs = true ↔ coreItems as = coreItems bs := by
  cases as with
  | nil => cases bs <;> simp [sameItems, coreItems]
  | cons a as =>
    cases bs with
    | nil => simp [sameItems, coreItems]
    | cons b bs => simp [sameItems, coreItems, same_iff_core a b, sameItems_iff_core as bs]

theorem sameFields_iff_core (as bs : List (String × Json)) :
    sameFields as bs = true ↔ coreFields as = coreFields bs := by
  cases as with
  | nil => cases bs <;> simp [sameFields, coreFields]
  | cons a as =>
    obtain ⟨name, a⟩ := a
    cases bs with
    | nil => simp [sameFields, coreFields]
    | cons b bs =>
      obtain ⟨other, b⟩ := b
      simp [sameFields, coreFields, same_iff_core a b, sameFields_iff_core as bs, and_assoc]

end

section Equivalence

variable {a b c : Json}

theorem same_trans (hab : a.same b = true) (hbc : b.same c = true) : a.same c = true :=
  (same_iff_core a c).2 (((same_iff_core a b).1 hab).trans ((same_iff_core b c).1 hbc))

end Equivalence

/-! ## Texts in order -/

theorem le_str (a b : String) : le (str a) (str b) = textLe a b := by
  unfold le textLe
  rw [compare?_str, Bool.eq_iff_iff, bne_iff_ne, decide_eq_true_iff]
  exact (not_congr Option.some_inj).trans compare_le_iff_le

theorem sorted_texts (texts : List String) :
    sorted (texts.map str) = .ok ((texts.mergeSort textLe).map str) := by
  rw [sorted_map_str, ← List.map_mergeSort fun a _ b _ => (le_str a b).symm]

end NetLookup.Json
