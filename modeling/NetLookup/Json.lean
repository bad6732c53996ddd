import NetLookup.Decimal.Fraction

/-! # The values that remote answers are made of -/

namespace NetLookup

/-- A value in a remote answer. A whole number is not told from the same one with a point and a zero. -/
inductive Json where
  | null
  | bool (b : Bool)
  | num (n : Int)
  | frac (x : Decimal.Fraction)
  | str (s : String)
  | arr (items : List Json)
  | obj (fields : List (String × Json))
  /-- A resource in the place of a value: what messages write for it, and its fields. -/
  | resource (written : String) (fields : List (String × Json))
  deriving Inhabited

/-! ## Named values -/

/-- Values with names, in the order in which the names first came. -/
abbrev Named (β : Type) := List (String × β)

abbrev Fields := Named Json

namespace Named

variable {β : Type}

/-- A new name goes to the end; a present one keeps its place and takes the value. -/
def set : Named β → String → β → Named β
  | [], name, v => [(name, v)]
  | (k, w) :: rest, name, v => if k = name then (name, v) :: rest else (k, w) :: set rest name v

/-- Of two pairs with one name the later gives the value and the earlier the place. -/
def ofPairs (pairs : List (String × β)) : Named β := pairs.foldl (fun fs p => fs.set p.1 p.2) []

theorem lookup_set_self (fs : Named β) (name : String) (v : β) :
    (fs.set name v).lookup name = some v := by
  induction fs with
  | nil => simp [set]
  | cons p fs ih =>
    obtain ⟨k, w⟩ := p
    by_cases h : k = name
    · simp [set, h]
    · have hk : (name == k) = false := by simpa using fun e => h e.symm
      simp [set, h, List.lookup_cons, hk, ih]

theorem lookup_set_of_ne (fs : Named β) {name other : String} (v : β) (h : other ≠ name) :
    (fs.set name v).lookup other = fs.lookup other := by
  have ho : (other == name) = false := by simpa using h
  induction fs with
  | nil => simp [set, List.lookup_cons, ho]
  | cons p fs ih =>
    obtain ⟨k, w⟩ := p
    by_cases hk : k = name
    · subst hk
      simp [set, List.lookup_cons, ho]
    · simp [set, hk, List.lookup_cons, ih]

/-- The names, each at the place of its first value. -/
theorem map_fst_set (fs : Named β) (name : String) (v : β) :
    (fs.set name v).map (·.1)
      = if name ∈ fs.map (·.1) then fs.map (·.1) else fs.map (·.1) ++ [name] := by
  induction fs with
  | nil => simp [set]
  | cons p fs ih =>
    obtain ⟨k, w⟩ := p
    by_cases h : k = name
    · simp [set, h]
    · have hk : ¬ name = k := fun e => h e.symm
      by_cases hm : name ∈ fs.map (·.1)
      · simp_all [set]
      · simp_all [set]

end Named

namespace Json

/-! ## Truth, numbers, texts -/

/-- Whether a value counts as present: nothing, `false`, zero and what is empty do not. -/
def truthy : Json → Bool
  | null => false
  | bool b => b
  | num n => n != 0
  | frac _ => true
  | str s => s != ""
  | arr items => !items.isEmpty
  | obj fields => !fields.isEmpty
  | resource _ _ => true

/-- The whole number that a value is equal to; truth values count as 1 and 0. -/
def number? : Json → Option Int
  | num n => some n
  | bool true => some 1
  | bool false => some 0
  | _ => none

def text? : Json → Option String
  | str s => some s
  | _ => none

def isNull : Json → Bool
  | null => true
  | _ => false

/-! ## Equality -/

mutual

/-- Equality of values; a truth value equals the number it counts as. -/
def same : Json → Json → Bool
  | null, null => true
  | str a, str b => a == b
  | arr a, arr b => sameItems a b
  | obj a, obj b => sameFields a b
  | resource _ a, resource _ b => sameFields a b
  | bool a, bool b => a == b
  | num a, num b => a == b
  | frac a, frac b => a == b
  | bool a, num b => (if a then 1 else 0) == b
  | num a, bool b => a == (if b then 1 else 0)
  | _, _ => false

def sameItems : List Json → List Json → Bool
  | [], [] => true
  | a :: as, b :: bs => same a b && sameItems as bs
  | _, _ => false

def sameFields : List (String × Json) → List (String × Json) → Bool
  | [], [] => true
  | (k, a) :: as, (l, b) :: bs => k == l && same a b && sameFields as bs
  | _, _ => false

end

@[simp] theorem same_str (a b : String) : same (str a) (str b) = (a == b) := by simp [same]

end Json

end NetLookup
