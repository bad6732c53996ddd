import NetLookup.Cache.Key
import NetLookup.Decimal.Percent
import NetLookup.Duration

/-! # A cache whose entries have a deadline

An entry is forgotten when it is read at or past its deadline, when it is overwritten, and when all
overdue entries are removed. Nothing else removes one, and there is no limit on their number. -/

namespace NetLookup

variable {α : Type}

structure Entry (α : Type) where
  slot : Slot
  value : α
  deadline : Float
  /-- The key as it was given when the slot was empty: a truth value or a number. -/
  label : Json

/-- Whether the deadline is reached. -/
def Entry.expired (e : Entry α) (now : Float) : Bool := decide (e.deadline ≤ now)

/-- The entries, and how often a read found a live one or none. -/
structure Cache (α : Type) where
  entries : List (Entry α)
  hits : Nat
  misses : Nat

namespace Cache

def empty : Cache α := ⟨[], 0, 0⟩

/-- The entry of a slot, overdue or not. -/
def find? (c : Cache α) (s : Slot) : Option (Entry α) := c.entries.find? (·.slot == s)

/-! ## Operations -/

/-- The entries of all slots but one. -/
def without (c : Cache α) (s : Slot) : List (Entry α) := c.entries.filter (·.slot != s)

/-- The label that a slot has, or else the one given. -/
def labelOr (c : Cache α) (s : Slot) (label : Json) : Json :=
  match c.find? s with
  | some e => e.label
  | none => label

/-- Replaces the value and the deadline together. -/
def set (c : Cache α) (s : Slot) (value : α) (deadline : Float) (label : Json := s.key.toJson) :
    Cache α :=
  { c with entries := ⟨s, value, deadline, c.labelOr s label⟩ :: c.without s }

/-- The live value of a slot. An overdue entry is dropped and counts as a miss. -/
def get (c : Cache α) (s : Slot) (now : Float) : Option α × Cache α :=
  match c.find? s with
  | none => (none, { c with misses := c.misses + 1 })
  | some e =>
    if e.expired now then (none, { c with entries := c.without s, misses := c.misses + 1 })
    else (some e.value, { c with hits := c.hits + 1 })

/-- Removes all overdue entries and counts them. -/
def purge (c : Cache α) (now : Float) : Nat × Cache α :=
  let live := c.entries.filter fun e => !e.expired now
  (c.entries.length - live.length, { c with entries := live })

def size (c : Cache α) : Nat := c.entries.length

/-- The share of reads that found a live value. -/
def hitRate (c : Cache α) : Float :=
  if c.hits + c.misses = 0 then 0 else Float.ofNat c.hits / Float.ofNat (c.hits + c.misses)

def describe (c : Cache α) : String :=
  "TTLCache(entries=" ++ toString c.size ++ ", hit_rate=" ++ Decimal.percent c.hitRate ++ ")"

/-! ## Entries by slot -/

@[simp] theorem find?_empty (s : Slot) : (empty : Cache α).find? s = none := rfl

theorem find?_without (c : Cache α) (s t : Slot) :
    (c.without s).find? (·.slot == t) = if t = s then none else c.find? t := by
  unfold without find?
  induction c.entries with
  | nil => simp
  | cons e es ih =>
    by_cases hs : e.slot = s <;> by_cases ht : e.slot = t <;> simp_all

@[simp] theorem find?_set_self (c : Cache α) (s : Slot) (v : α) (d : Float) (label : Json) :
    (c.set s v d label).find? s = some ⟨s, v, d, c.labelOr s label⟩ := by
  simp [set, find?]

theorem find?_set_of_ne (c : Cache α) {s t : Slot} (v : α) (d : Float) (label : Json) (h : t ≠ s) :
    (c.set s v d label).find? t = c.find? t := by
  have hst : (s == t) = false := by simpa using fun e => h e.symm
  have := find?_without c s t
  simp only [find?] at this ⊢
  simp [set, hst, this, h]

theorem find?_slot {c : Cache α} {s : Slot} {e : Entry α} (h : c.find? s = some e) :
    e.slot = s := by
  simpa using List.find?_some h

/-! ## Listing -/

/-- Entries in the order of areas, and within an area of keys, all of which must have an order. -/
def listing (c : Cache α) : Except Failure (List (Entry α)) := do
  let areas := ((c.entries.map (·.slot.area)).mergeSort Json.textLe).eraseDups
  let groups ← areas.mapM fun area => do
    let keys ← Json.sorted ((c.entries.filter (·.slot.area == area)).map (·.slot.key.toJson))
    return keys.filterMap fun k => c.entries.find? fun e =>
      e.slot.area == area && e.slot.key.toJson.same k
  return groups.flatten

end Cache

/-! ## Views -/

/-- An area of a cache with the time to live that its entries get. -/
structure View where
  area : String
  ttl : Ttl

namespace View

def slot (v : View) (key : Key) : Slot := ⟨v.area, key⟩

def get (v : View) (c : Cache α) (key : Key) (now : Float) : Option α × Cache α :=
  c.get (v.slot key) now

/-- Stores a value; a time to live of its own goes before that of the view. -/
def set (v : View) (c : Cache α) (key : Key) (value : α) (now : Float) (ttl : Ttl := v.ttl)
    (label : Json := key.toJson) : Cache α :=
  c.set (v.slot key) value (ttl.deadline now) label

def describe (v : View) : String :=
  "CacheNamespace(name=" ++ Text.quoted v.area ++ ", ttl=" ++ v.ttl.describe ++ ")"

end View

end NetLookup
