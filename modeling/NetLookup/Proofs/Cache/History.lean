import NetLookup.Proofs.Cache.Entries
import NetLookup.Proofs.Clock
import Mathlib.Data.List.Induction

/-! # What a cache answers after any history

A cache forgets an entry when it reads it too late, when it purges, and when it stores anew. None of
this shows: a read answers what the last store of its slot says, whatever else was done in between. -/

namespace NetLookup.Cache

variable {α : Type}

/-! ## Uses -/

inductive Use (α : Type) where
  | set (s : Slot) (value : α) (ttl : Ttl) (label : Json)
  | get (s : Slot)
  | purge
  /-- A time to live that is given goes before that of the view. -/
  | setThrough (v : View) (key : Key) (value : α) (ttl : Option Ttl) (label : Json)
  | getThrough (v : View) (key : Key)

namespace Use

def perform (now : Float) : Use α → Cache α → Option α × Cache α
  | set s value ttl label, c => (none, c.set s value (ttl.deadline now) label)
  | get s, c => c.get s now
  | purge, c => (none, (c.purge now).2)
  | setThrough v key value ttl label, c => (none, v.set c key value now (ttl.getD v.ttl) label)
  | getThrough v key, c => v.get c key now

def reads? : Use α → Option Slot
  | get s => some s
  | getThrough v key => some ⟨v.area, key⟩
  | _ => none

/-- The slot that a use stores to, the value, and the deadline. -/
def stores? (now : Float) : Use α → Option (Slot × α × Float)
  | set s value ttl _ => some (s, value, now + ttl.inSeconds)
  | setThrough v key value ttl _ => some (⟨v.area, key⟩, value, now + (ttl.getD v.ttl).inSeconds)
  | _ => none

def storesTo (s : Slot) (now : Float) (u : Use α) : Option (α × Float) :=
  ((u.stores? now).filter (·.1 = s)).map (·.2)

end Use

/-- Uses, the earliest first, each with the reading of the clock at it. -/
abbrev History (α : Type) := List (Float × Use α)

namespace History

def readings (h : History α) : List Float := h.map (·.1)

def cache (h : History α) : Cache α := h.foldl (fun c u => (u.2.perform u.1 c).2) empty

def stores (h : History α) (s : Slot) : List (α × Float) :=
  h.filterMap fun u => u.2.storesTo s u.1

end History

def unexpired (now : Float) : Option (α × Float) → Option α
  | some (value, deadline) => if deadline ≤ now then none else some value
  | none => none

/-- The cache holds the last store to a slot, or has forgotten it after its deadline. -/
structure Recalls (c : Cache α) (s : Slot) (last : Option (α × Float)) (now : Float) : Prop where
  entry : ∀ e, c.find? s = some e → last = some (e.value, e.deadline)
  forgotten : c.find? s = none → ∀ x, last = some x → x.2 ≤ now

namespace Recalls

variable {c : Cache α} {s : Slot} {last : Option (α × Float)} {now : Float}

theorem of_empty (s : Slot) (now : Float) : Recalls (empty : Cache α) s none now :=
  ⟨fun _ h => by simp at h, fun _ _ h => by simp at h⟩

theorem later (h : Recalls c s last now) {later : Float} (hl : StaysReached now later) :
    Recalls c s last later :=
  ⟨h.entry, fun hc x hx => hl _ (h.forgotten hc x hx)⟩

theorem of_filter (h : Recalls c s last now) {d : Cache α}
    (hd : d.find? s = (c.find? s).filter fun e => !e.expired now) : Recalls d s last now := by
  cases hc : c.find? s with
  | none =>
    rw [hc, Option.filter_none] at hd
    exact ⟨fun e he => by simp [hd] at he, fun _ => h.forgotten hc⟩
  | some e =>
    have hlast := h.entry e hc
    by_cases he : e.expired now
    · have hnone : d.find? s = none := by simp [hd, hc, Option.filter, he]
      refine ⟨fun e he => by simp [hnone] at he, fun _ x hx => ?_⟩
      obtain rfl : (e.value, e.deadline) = x := by simpa [hlast] using hx
      simpa [Entry.expired] using he
    · have hsome : d.find? s = some e := by simp [hd, hc, Option.filter, he]
      refine ⟨fun e' he' => ?_, fun hn => by simp [hsome] at hn⟩
      obtain rfl : e = e' := by simpa [hsome] using he'
      exact hlast

theorem of_same (h : Recalls c s last now) {d : Cache α} (hd : d.find? s = c.find? s) :
    Recalls d s last now :=
  ⟨fun e he => h.entry e (hd ▸ he), fun hn => h.forgotten (hd ▸ hn)⟩

theorem get (h : Recalls c s last now) (t : Slot) : Recalls (c.get t now).2 s last now := by
  have hfind := find?_get c t s now
  split at hfind
  · rename_i hst
    exact h.of_filter (hst ▸ hfind)
  · exact h.of_same hfind

theorem purge (h : Recalls c s last now) (hc : c.Distinct) : Recalls (c.purge now).2 s last now :=
  h.of_filter (hc.find?_purge s now)

theorem set (h : Recalls c s last now) (t : Slot) (v : α) (d : Float) (label : Json) :
    Recalls (c.set t v d label) s (if t = s then some (v, d) else last) now := by
  by_cases hts : t = s
  · subst hts
    rw [if_pos rfl]
    exact ⟨fun e he => by simp at he; simp [← he], fun hn => by simp at hn⟩
  · rw [if_neg hts]
    exact h.of_same (find?_set_of_ne c v d label (Ne.symm hts))

theorem answer (h : Recalls c s last now) : (c.get s now).1 = unexpired now last := by
  rw [get_answer]
  cases hc : c.find? s with
  | none =>
    cases hl : last with
    | none => rfl
    | some x =>
      have := h.forgotten hc x hl
      simp [unexpired, this]
  | some e =>
    rw [h.entry e hc]
    by_cases he : e.deadline ≤ now <;> simp [unexpired, Option.filter, Entry.expired, he]

theorem perform (h : Recalls c s last now) (hc : c.Distinct) (u : Use α) :
    Recalls (u.perform now c).2 s ((u.storesTo s now).or last) now := by
  have stored (t : Slot) (v : α) (d : Float) :
      (((some (t, v, d)).filter (·.1 = s)).map (·.2)).or last = if t = s then some (v, d) else last := by
    by_cases hts : t = s <;> simp [Option.filter, hts]
  cases u with
  | set t v ttl label =>
    rw [Use.storesTo, Use.stores?, stored, ← Ttl.deadline_eq]
    exact h.set t v _ label
  | get t => exact h.get t
  | purge => exact h.purge hc
  | setThrough v key value ttl label =>
    rw [Use.storesTo, Use.stores?, stored, ← Ttl.deadline_eq]
    exact h.set (v.slot key) value _ label
  | getThrough v key => exact h.get (v.slot key)

end Recalls

theorem Distinct.perform {c : Cache α} (hc : c.Distinct) (now : Float) (u : Use α) :
    (u.perform now c).2.Distinct := by
  cases u with
  | set s v ttl label => exact hc.set s v _ label
  | get s => exact hc.get s now
  | purge => exact hc.purge now
  | setThrough v key value ttl label => exact hc.set (v.slot key) value _ label
  | getThrough v key => exact hc.get (v.slot key) now

/-! ## Runs -/

namespace History

theorem cache_append (h : History α) (now : Float) (u : Use α) :
    cache (h ++ [(now, u)]) = (u.perform now h.cache).2 := by
  simp [cache]

theorem stores_append (h : History α) (now : Float) (u : Use α) (s : Slot) :
    stores (h ++ [(now, u)]) s = h.stores s ++ (u.storesTo s now).toList := by
  rw [stores, List.filterMap_append]
  cases hu : u.storesTo s now <;> simp [stores, hu]

theorem distinct_cache (h : History α) : h.cache.Distinct := by
  induction h using List.reverseRecOn with
  | nil => exact distinct_empty
  | append_singleton h u ih =>
    rw [cache_append]
    exact ih.perform u.1 u.2

/-- After any history with a clock that never ran backwards, the cache is true to the last store. -/
theorem recalls_cache (h : History α) (s : Slot) (hclock : NeverBack h.readings) (now : Float)
    (hnow : ∀ t ∈ h.readings, StaysReached t now) :
    Recalls h.cache s (h.stores s).getLast? now := by
  induction h using List.reverseRecOn generalizing now with
  | nil => exact Recalls.of_empty s now
  | append_singleton h u ih =>
    obtain ⟨t, u⟩ := u
    rw [NeverBack, readings, List.map_append, List.pairwise_append] at hclock
    obtain ⟨hclock, -, hbefore⟩ := hclock
    -- Up to the last use, nothing was due that was not due at the reading of that use.
    have hrecalls := ih hclock t fun r hr => hbefore r hr t (by simp)
    have hlast : (stores (h ++ [(t, u)]) s).getLast? = (u.storesTo s t).or (stores h s).getLast? := by
      rw [stores_append]
      cases u.storesTo s t <;> simp
    rw [cache_append, hlast]
    exact (hrecalls.perform (distinct_cache h) u).later (hnow t (by simp [readings]))

theorem read_eq (h : History α) (now : Float) (u : Use α) (s : Slot) (hu : u.reads? = some s) :
    (u.perform now h.cache).1 = (h.cache.get s now).1 := by
  cases u with
  | get t =>
    obtain rfl : t = s := by simpa [Use.reads?] using hu
    rfl
  | getThrough v key =>
    obtain rfl : ⟨v.area, key⟩ = s := by simpa [Use.reads?] using hu
    rfl
  | set t v ttl label => simp [Use.reads?] at hu
  | purge => simp [Use.reads?] at hu
  | setThrough v key value ttl label => simp [Use.reads?] at hu

/-- A read, directly or through a view, answers the value of the last store to its slot if that has not
reached its deadline, and nothing else. So histories with the same stores to a slot answer alike, however
they differ in stores to other slots, in reads and in purges. -/
theorem read_answers_last_store (h : History α) (now : Float) (u : Use α) (s : Slot)
    (hu : u.reads? = some s) (hclock : NeverBack (h.readings ++ [now])) :
    (u.perform now h.cache).1 = unexpired now (h.stores s).getLast? ∧
      ∀ other : History α, NeverBack (other.readings ++ [now]) → other.stores s = h.stores s →
        (u.perform now other.cache).1 = (u.perform now h.cache).1 := by
  have answer (g : History α) (hg : NeverBack (g.readings ++ [now])) :
      (u.perform now g.cache).1 = unexpired now (g.stores s).getLast? := by
    rw [NeverBack, List.pairwise_append] at hg
    rw [read_eq g now u s hu]
    exact (recalls_cache g s hg.1 now fun t ht => hg.2.2 t ht now (by simp)).answer
  refine ⟨answer h hclock, fun other hother hsame => ?_⟩
  rw [answer other hother, answer h hclock, hsame]

def twoViews : History Nat :=
  [(0, .setThrough ⟨"area", .seconds 10⟩ (.text "key") 1 none .null),
    (4, .set ⟨"area", .text "other"⟩ 7 (.seconds 1) .null),
    (5, .setThrough ⟨"area", .span (.ofMinutes 1)⟩ (.text "key") 2 none .null),
    (6, .setThrough ⟨"area", .span (.ofMinutes 1)⟩ (.text "half") 3 (some (.span ⟨1500000⟩)) .null),
    (11, .purge), (12, .get ⟨"area", .text "key"⟩)]

/-- The overwrite counts for a minute, up to 65, and the rest of the history does not. A second and a half are
over at 7.5. -/
theorem read_answers_overwrite :
    ((Use.getThrough ⟨"area", .seconds 10⟩ (.text "key")).perform 64.5 twoViews.cache).1 = some 2 ∧
      ((Use.get ⟨"area", .text "key"⟩).perform 65 twoViews.cache).1 = none ∧
      ((Use.get ⟨"area", .text "key"⟩).perform 30 (cache (twoViews.take 3))).1
        = ((Use.get ⟨"area", .text "key"⟩).perform 30 twoViews.cache).1 ∧
      ((Use.get ⟨"area", .text "half"⟩).perform 7 (cache (twoViews.take 4))).1 = some 3 ∧
      ((Use.get ⟨"area", .text "half"⟩).perform 7.5 (cache (twoViews.take 4))).1 = none := by
  have clock (h : History Nat) (now : Float) (hs : (h.readings ++ [now]).Pairwise (· ≤ ·)) :
      NeverBack (h.readings ++ [now]) := .of_ascending hs
  have overwritten : twoViews.stores ⟨"area", .text "key"⟩ = [(1, 10), (2, 65)] := by decide +kernel
  have half : stores (twoViews.take 4) ⟨"area", .text "half"⟩ = [(3, 7.5)] := by decide +kernel
  refine ⟨?_, ?_, ?_, ?_, ?_⟩
  · rw [(read_answers_last_store twoViews 64.5 _ _ rfl (clock _ _ (by decide +kernel))).1, overwritten]
    decide +kernel
  · rw [(read_answers_last_store twoViews 65 _ _ rfl (clock _ _ (by decide +kernel))).1, overwritten]
    decide +kernel
  · exact (read_answers_last_store twoViews 30 _ _ rfl (clock _ _ (by decide +kernel))).2 _
      (clock _ _ (by decide +kernel)) (by decide +kernel)
  · rw [(read_answers_last_store _ 7 _ _ rfl (clock _ _ (by decide +kernel))).1, half]
    decide +kernel
  · rw [(read_answers_last_store _ 7.5 _ _ rfl (clock _ _ (by decide +kernel))).1, half]
    decide +kernel

end History

end NetLookup.Cache
