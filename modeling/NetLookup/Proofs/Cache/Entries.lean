import NetLookup.Cache
import Mathlib.Data.List.Nodup

/-! # What reading, storing and purging do to the entries

No two entries have one slot. So the entries that are left after a purge are still found. -/

namespace NetLookup.Cache

variable {α : Type}

/-! ## One entry for each slot -/

def Distinct (c : Cache α) : Prop := (c.entries.map (·.slot)).Nodup

theorem distinct_empty : (empty : Cache α).Distinct := List.nodup_nil

theorem find?_mem {c : Cache α} {s : Slot} {e : Entry α} (h : c.find? s = some e) :
    e ∈ c.entries :=
  List.mem_of_find?_eq_some h

theorem Distinct.find?_eq_some {c : Cache α} (hc : c.Distinct) {s : Slot} {e : Entry α} :
    c.find? s = some e ↔ e ∈ c.entries ∧ e.slot = s := by
  unfold Distinct at hc
  unfold find?
  generalize c.entries = es at hc ⊢
  induction es with
  | nil => simp
  | cons x xs ih =>
    obtain ⟨hx, hxs⟩ := List.nodup_cons.1 hc
    -- The first entry of the slot is the one found, and there is no other.
    by_cases h : x.slot = s
    · rw [List.find?_cons_of_pos (by simpa using h)]
      constructor
      · rintro ⟨⟩
        exact ⟨List.mem_cons_self, h⟩
      · rintro ⟨he, hs⟩
        rcases List.mem_cons.1 he with rfl | he
        · rfl
        · exact absurd (List.mem_map.2 ⟨e, he, hs.trans h.symm⟩) hx
    · rw [List.find?_cons_of_neg (by simpa using h), ih hxs, List.mem_cons]
      constructor
      · rintro ⟨he, hs⟩
        exact ⟨Or.inr he, hs⟩
      · rintro ⟨rfl | he, hs⟩
        · exact absurd hs h
        · exact ⟨he, hs⟩

theorem Distinct.of_sublist {c : Cache α} (hc : c.Distinct) {d : Cache α}
    (h : d.entries.Sublist c.entries) : d.Distinct :=
  List.Nodup.sublist (h.map _) hc

theorem without_sublist (c : Cache α) (s : Slot) : (c.without s).Sublist c.entries :=
  List.filter_sublist

/-! ## Reading -/

theorem get_entries_sublist (c : Cache α) (s : Slot) (now : Float) :
    (c.get s now).2.entries.Sublist c.entries := by
  unfold get
  split
  · exact List.Sublist.refl _
  · split
    · exact without_sublist c s
    · exact List.Sublist.refl _

theorem Distinct.get {c : Cache α} (hc : c.Distinct) (s : Slot) (now : Float) :
    (c.get s now).2.Distinct :=
  hc.of_sublist (get_entries_sublist c s now)

theorem find?_get (c : Cache α) (s t : Slot) (now : Float) :
    (c.get s now).2.find? t
      = if t = s then (c.find? s).filter (fun e => !e.expired now) else c.find? t := by
  cases hs : c.find? s with
  | none =>
    have same : (c.get s now).2.find? t = c.find? t := by simp only [get, hs]; rfl
    rw [same]
    split
    · rename_i h
      rw [h, hs]
      rfl
    · rfl
  | some e =>
    by_cases he : e.expired now
    · have gone : (c.get s now).2.find? t = if t = s then none else c.find? t := by
        rw [← find?_without c s t]
        simp only [get, hs, he, if_true]
        rfl
      simp [gone, Option.filter, he]
    · have same : (c.get s now).2.find? t = c.find? t := by
        simp only [get, hs, he, if_false, Bool.false_eq_true]
        rfl
      rw [same]
      split
      · rename_i h
        simp [h, hs, Option.filter, he]
      · rfl

theorem get_answer (c : Cache α) (s : Slot) (now : Float) :
    (c.get s now).1 = ((c.find? s).filter (fun e => !e.expired now)).map (·.value) := by
  unfold get
  cases c.find? s with
  | none => rfl
  | some e => by_cases he : e.expired now <;> simp [he, Option.filter]

/-! ## Storing -/

theorem Distinct.set {c : Cache α} (hc : c.Distinct) (s : Slot) (v : α) (d : Float) (label : Json) :
    (c.set s v d label).Distinct := by
  refine List.nodup_cons.2 ⟨?_, hc.sublist ((without_sublist c s).map _)⟩
  simp [without]

/-! ## Purging -/

theorem Distinct.purge {c : Cache α} (hc : c.Distinct) (now : Float) : (c.purge now).2.Distinct :=
  hc.of_sublist List.filter_sublist

theorem Distinct.find?_purge {c : Cache α} (hc : c.Distinct) (t : Slot) (now : Float) :
    (c.purge now).2.find? t = (c.find? t).filter (fun e => !e.expired now) := by
  ext e
  rw [(hc.purge now).find?_eq_some, Option.filter_eq_some_iff, hc.find?_eq_some]
  simp [Cache.purge]
  tauto

end NetLookup.Cache
