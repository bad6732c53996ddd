import NetLookup.Proofs.Cache.History
import Mathlib.Data.List.DropRight

/-! # The accounts of a cache

Overdue entries stay until a read or a purge meets them. So what is stored, how many reads found something
and how many entries a purge removes are all told by the history, also if the clock runs backwards. -/

namespace NetLookup.Cache

variable {α : Type}

/-! ## What a history leaves -/

def live (now : Float) (stored : Option (α × Float)) : Bool := stored.any fun x => !decide (x.2 ≤ now)

namespace Use

def looksAt (s : Slot) : Use α → Bool
  | purge => true
  | u => u.reads? == some s

end Use

namespace History

def since (h : History α) (s : Slot) : History α := h.rtakeWhile fun u => (u.2.storesTo s u.1).isNone

/-- Whether no use looks at a slot at or past a deadline. -/
def spares (h : History α) (s : Slot) (deadline : Float) : Bool :=
  h.all fun u => !(u.2.looksAt s && decide (deadline ≤ u.1))

/-- The last store to a slot, unless a use since then looked at it at or past its deadline. -/
def standing (h : History α) (s : Slot) : Option (α × Float) :=
  (h.stores s).getLast?.filter fun x => (h.since s).spares s x.2

/-- Whether a use is a read of a slot whose deadline is not reached, whatever the value is. -/
def finds (before : History α) (now : Float) (u : Use α) : Bool :=
  u.reads?.any fun s => live now (before.standing s)

def readCount (h : History α) : Nat := h.countP fun u => u.2.reads?.isSome

def foundCount (h : History α) : Nat :=
  h.zipIdx.countP fun x => finds (h.take x.2) x.1.1 x.1.2

def standingAfter (s : Slot) (now : Float) (u : Use α) (before : Option (α × Float)) :
    Option (α × Float) :=
  match u.storesTo s now with
  | some x => some x
  | none => if u.looksAt s then before.filter fun x => !decide (x.2 ≤ now) else before

theorem since_append (h : History α) (now : Float) (u : Use α) (s : Slot) :
    since (h ++ [(now, u)]) s
      = if (u.storesTo s now).isNone then h.since s ++ [(now, u)] else [] :=
  List.rtakeWhile_concat _ _ _

theorem spares_append (h : History α) (now : Float) (u : Use α) (s : Slot) (deadline : Float) :
    spares (h ++ [(now, u)]) s deadline
      = (h.spares s deadline && !(u.looksAt s && decide (deadline ≤ now))) := by
  simp [spares, List.all_append]

theorem standing_append (h : History α) (now : Float) (u : Use α) (s : Slot) :
    standing (h ++ [(now, u)]) s = standingAfter s now u (h.standing s) := by
  unfold standing standingAfter
  rw [stores_append, since_append]
  cases hu : u.storesTo s now with
  | some x => simp [Option.filter, spares]
  | none =>
    cases hl : (h.stores s).getLast? with
    | none => simp [hl]
    | some x =>
      cases hlook : u.looksAt s with
      | false => simp [hl, hlook, spares_append]
      | true =>
        -- the entry stood until now, or an earlier use had dropped it
        cases hspared : (h.since s).spares s x.2 <;>
          by_cases hdue : x.2 ≤ now <;>
          simp [hl, hlook, hspared, hdue, spares_append, Option.filter]

theorem readCount_append (h : History α) (now : Float) (u : Use α) :
    readCount (h ++ [(now, u)]) = h.readCount + if u.reads?.isSome then 1 else 0 := by
  simp [readCount, List.countP_append, List.countP_cons]

theorem foundCount_append (h : History α) (now : Float) (u : Use α) :
    foundCount (h ++ [(now, u)]) = h.foundCount + if h.finds now u then 1 else 0 := by
  have hbefore : h.zipIdx.countP (fun x => finds ((h ++ [(now, u)]).take x.2) x.1.1 x.1.2)
      = h.foundCount := by
    refine List.countP_congr fun x hx => ?_
    have hlt : x.2 < h.length := by simpa using (List.mem_zipIdx hx).2.1
    rw [List.take_append_of_le_length hlt.le]
  rw [foundCount, List.zipIdx_append, List.countP_append, hbefore]
  simp [List.countP_cons]

end History

/-! ## One use -/

def holds (c : Cache α) (s : Slot) : Option (α × Float) :=
  (c.find? s).map fun e => (e.value, e.deadline)

theorem holds_of_filter {c d : Cache α} {s : Slot} {now : Float}
    (h : d.find? s = (c.find? s).filter fun e => !e.expired now) :
    d.holds s = (c.holds s).filter fun x => !decide (x.2 ≤ now) := by
  unfold holds
  rw [h]
  cases c.find? s with
  | none => rfl
  | some e => by_cases hdue : e.deadline ≤ now <;> simp [Entry.expired, hdue, Option.filter]

theorem holds_get (c : Cache α) (s t : Slot) (now : Float) :
    (c.get t now).2.holds s
      = if t = s then (c.holds s).filter (fun x => !decide (x.2 ≤ now)) else c.holds s := by
  have hfind := find?_get c t s now
  by_cases hts : t = s
  · subst hts
    rw [if_pos rfl] at hfind ⊢
    exact holds_of_filter hfind
  · rw [if_neg (Ne.symm hts)] at hfind
    rw [if_neg hts, holds, hfind, holds]

theorem holds_set (c : Cache α) (s t : Slot) (v : α) (d : Float) (label : Json) :
    (c.set t v d label).holds s = if t = s then some (v, d) else c.holds s := by
  by_cases hts : t = s
  · subst hts
    simp [holds]
  · rw [if_neg hts, holds, find?_set_of_ne c v d label (Ne.symm hts), holds]

theorem Distinct.holds_perform {c : Cache α} (hc : c.Distinct) (s : Slot) (now : Float) (u : Use α) :
    (u.perform now c).2.holds s = History.standingAfter s now u (c.holds s) := by
  have stored (t : Slot) (v : α) (d : Float) :
      ((some (t, v, d)).filter (·.1 = s)).map (·.2) = if t = s then some (v, d) else none := by
    by_cases hts : t = s <;> simp [Option.filter, hts]
  have stores (t : Slot) (v : α) (d : Float) (label : Json) :
      (c.set t v d label).holds s
        = match (if t = s then some (v, d) else none) with
          | some x => some x
          | none => c.holds s := by
    rw [holds_set]
    split <;> rfl
  unfold History.standingAfter
  cases u with
  | set t v ttl label =>
    rw [Use.storesTo, Use.stores?, stored, ← Ttl.deadline_eq]
    exact stores t v _ label
  | get t => exact (holds_get c s t now).trans (by simp [Use.storesTo, Use.stores?, Use.looksAt, Use.reads?])
  | purge => exact holds_of_filter (hc.find?_purge s now)
  | setThrough v key value ttl label =>
    rw [Use.storesTo, Use.stores?, stored, ← Ttl.deadline_eq]
    exact stores (v.slot key) value _ label
  | getThrough v key =>
    exact (holds_get c s ⟨v.area, key⟩ now).trans
      (by simp [Use.storesTo, Use.stores?, Use.looksAt, Use.reads?])

theorem get_hits (c : Cache α) (s : Slot) (now : Float) :
    (c.get s now).2.hits = c.hits + (live now (c.holds s)).toNat := by
  unfold get holds live
  cases c.find? s with
  | none => rfl
  | some e => by_cases hdue : e.deadline ≤ now <;> simp [Entry.expired, hdue]

theorem get_total (c : Cache α) (s : Slot) (now : Float) :
    (c.get s now).2.hits + (c.get s now).2.misses = c.hits + c.misses + 1 := by
  unfold get
  cases c.find? s with
  | none => exact (Nat.add_assoc ..).symm
  | some e =>
    by_cases hdue : e.expired now
    · simp only [hdue, if_true]
      omega
    · simp only [hdue, Bool.false_eq_true, if_false]
      omega

theorem get_unexpired (c : Cache α) (s : Slot) (now : Float) :
    (c.get s now).1 = unexpired now (c.holds s) := by
  rw [get_answer, holds]
  cases c.find? s with
  | none => rfl
  | some e => by_cases hdue : e.deadline ≤ now <;> simp [unexpired, Option.filter, Entry.expired, hdue]

theorem perform_hits (c : Cache α) (now : Float) (u : Use α) :
    (u.perform now c).2.hits = c.hits + (u.reads?.any fun s => live now (c.holds s)).toNat := by
  cases u with
  | get s => exact get_hits c s now
  | getThrough v key => exact get_hits c (v.slot key) now
  | set _ _ _ _ | purge | setThrough _ _ _ _ _ => rfl

theorem perform_total (c : Cache α) (now : Float) (u : Use α) :
    (u.perform now c).2.hits + (u.perform now c).2.misses
      = c.hits + c.misses + u.reads?.isSome.toNat := by
  cases u with
  | get s => exact get_total c s now
  | getThrough v key => exact get_total c (v.slot key) now
  | set _ _ _ _ | purge | setThrough _ _ _ _ _ => rfl

/-! ## One purge -/

structure Purged (c : Cache α) (now : Float) (count : Nat) (after : Cache α) : Prop where
  kept : ∀ e, e ∈ after.entries ↔ e ∈ c.entries ∧ ¬ e.deadline ≤ now
  shrank : after.size + count = c.size
  /-- Nothing is left to remove. -/
  done : (after.purge now).1 = 0
  hits : after.hits = c.hits
  misses : after.misses = c.misses

theorem purged (c : Cache α) (now : Float) : c.Purged now (c.purge now).1 (c.purge now).2 where
  kept e := by simp [purge, Entry.expired]
  shrank := Nat.add_sub_of_le (List.length_filter_le _ _)
  done := by simp [purge]
  hits := rfl
  misses := rfl

/-! ## Runs -/

structure Accounts (c : Cache α) (h : History α) : Prop where
  single : c.Distinct
  stored : ∀ s value deadline,
    (∃ label, ⟨s, value, deadline, label⟩ ∈ c.entries) ↔ h.standing s = some (value, deadline)
  answers : ∀ s now, (c.get s now).1 = unexpired now (h.standing s)
  hits : c.hits = h.foundCount
  reads : c.hits + c.misses = h.readCount

theorem Distinct.holds_eq_some {c : Cache α} (hc : c.Distinct) (s : Slot) (value : α)
    (deadline : Float) :
    c.holds s = some (value, deadline) ↔ ∃ label, ⟨s, value, deadline, label⟩ ∈ c.entries := by
  unfold holds
  constructor
  · intro h
    obtain ⟨e, he, hvalue⟩ := Option.map_eq_some_iff.1 h
    obtain ⟨rfl, rfl⟩ : e.value = value ∧ e.deadline = deadline := by simpa using hvalue
    obtain ⟨hmem, rfl⟩ := hc.find?_eq_some.1 he
    exact ⟨e.label, hmem⟩
  · rintro ⟨label, hmem⟩
    rw [hc.find?_eq_some.2 ⟨hmem, rfl⟩]
    rfl

theorem toNat_eq_ite (b : Bool) : b.toNat = if b then 1 else 0 := by
  cases b with
  | true => rfl
  | false => rfl

namespace History

theorem holds_cache (h : History α) (s : Slot) : h.cache.holds s = h.standing s := by
  induction h using List.reverseRecOn with
  | nil => rfl
  | append_singleton h u ih =>
    rw [cache_append, (distinct_cache h).holds_perform, ih, standing_append]

theorem hits_cache (h : History α) : h.cache.hits = h.foundCount := by
  induction h using List.reverseRecOn with
  | nil => rfl
  | append_singleton h u ih =>
    rw [cache_append, perform_hits, ih, foundCount_append, finds]
    simp only [holds_cache, toNat_eq_ite]

theorem total_cache (h : History α) : h.cache.hits + h.cache.misses = h.readCount := by
  induction h using List.reverseRecOn with
  | nil => rfl
  | append_singleton h u ih =>
    rw [cache_append, perform_total, ih, readCount_append, toNat_eq_ite]

/-- After any history, whatever the clock does, each slot holds its last store unless a use has met that
past its deadline; the counters are the reads that found something in time and the rest; and a purge
removes what is overdue, counts it, and leaves nothing for another at the same reading. -/
theorem accounts_hold (h : History α) :
    h.cache.Accounts h ∧
      ∀ now, h.cache.Purged now (h.cache.purge now).1 (h.cache.purge now).2 := by
  have stored (s : Slot) (value : α) (deadline : Float) :
      (∃ label, ⟨s, value, deadline, label⟩ ∈ h.cache.entries) ↔ h.standing s = some (value, deadline) := by
    rw [← (distinct_cache h).holds_eq_some, holds_cache]
  have answers (s : Slot) (now : Float) : (h.cache.get s now).1 = unexpired now (h.standing s) := by
    rw [get_unexpired, holds_cache]
  exact ⟨⟨distinct_cache h, stored, answers, hits_cache h, total_cache h⟩, purged h.cache⟩

/-- A late read drops what an earlier reading of the clock would find. -/
example :
    standing [(10, .set ⟨"area", .text "key"⟩ false (.seconds 5) .null),
      (20, .get ⟨"area", .text "key"⟩), (12, .get ⟨"area", .text "key"⟩)] ⟨"area", .text "key"⟩ = none := by
  decide +kernel

end History

end NetLookup.Cache
