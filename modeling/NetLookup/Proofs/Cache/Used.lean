import NetLookup.Proofs.Cache.History

/-! # A cache in use

Between two moments the cache of an operation is only read and stored to. What matters of that are the
stores: everything that is known of the cache before carries over to the cache after them. -/

namespace NetLookup.Cache

variable {α : Type}

/-- A slot, the value stored to it, and the deadline. -/
abbrev Store (α : Type) := Slot × α × Float

def storedTo (s : Slot) (stores : List (Store α)) : List (α × Float) :=
  (stores.filter (·.1 = s)).map (·.2)

theorem storedTo_append (s : Slot) (a b : List (Store α)) :
    storedTo s (a ++ b) = storedTo s a ++ storedTo s b := by
  simp [storedTo]

theorem storedTo_eq_nil {s : Slot} {stores : List (Store α)} (h : ∀ w ∈ stores, w.1 ≠ s) :
    storedTo s stores = [] := by
  simpa [storedTo, List.filter_eq_nil_iff] using h

theorem exists_of_last_storedTo {s : Slot} {stores : List (Store α)} {x : α × Float}
    (h : (storedTo s stores).getLast? = some x) : ∃ w ∈ stores, w.2 = x := by
  obtain ⟨w, hw, heq⟩ := List.mem_map.1 (List.mem_of_getLast? h)
  exact ⟨w, List.mem_of_mem_filter hw, heq⟩

/-- What reads at one moment, with the given stores between them, make of a cache. -/
inductive Used (now : Float) : List (Store α) → Cache α → Cache α → Prop where
  | refl (c : Cache α) : Used now [] c c
  | get {stores : List (Store α)} {c d : Cache α} (h : Used now stores c d) (s : Slot) :
    Used now stores c (d.get s now).2
  | set {stores : List (Store α)} {c d : Cache α} (h : Used now stores c d) (s : Slot) (v : α)
    (deadline : Float) (label : Json) :
    Used now (stores ++ [(s, v, deadline)]) c (d.set s v deadline label)

namespace Used

variable {now : Float} {stores more : List (Store α)} {c d e : Cache α}

theorem trans (h : Used now stores c d) (k : Used now more d e) : Used now (stores ++ more) c e := by
  induction k with
  | refl => rwa [List.append_nil]
  | get _ s ih => exact (ih h).get s
  | set _ s v deadline label ih =>
    rw [← List.append_assoc]
    exact (ih h).set s v deadline label

theorem distinct (h : Used now stores c d) (hc : c.Distinct) : d.Distinct := by
  induction h with
  | refl => exact hc
  | get _ s ih => exact (ih hc).get s now
  | set _ s v deadline label ih => exact (ih hc).set s v deadline label

theorem entries (h : Used now stores c d) {P : Slot → α → Prop}
    (hc : ∀ e ∈ c.entries, P e.slot e.value) (hs : ∀ w ∈ stores, P w.1 w.2.1) :
    ∀ e ∈ d.entries, P e.slot e.value := by
  induction h with
  | refl => exact hc
  | get _ s ih =>
    intro e he
    exact ih hc hs e ((get_entries_sublist _ s now).subset he)
  | @set stores c d h s v deadline label ih =>
    have hbefore := ih hc fun w hw => hs w (by simp [hw])
    have hlast := hs (s, v, deadline) (by simp)
    intro e he
    rcases List.mem_cons.1 he with rfl | he
    · exact hlast
    · exact hbefore e ((without_sublist d s).subset he)

theorem recalls (h : Used now stores c d) {s : Slot} {last : Option (α × Float)}
    (hc : Recalls c s last now) : Recalls d s ((storedTo s stores).getLast?.or last) now := by
  induction h with
  | refl => exact hc
  | get _ t ih => exact (ih hc).get t
  | @set stores c d h t v deadline label ih =>
    have hset := (ih hc).set t v deadline label
    rw [storedTo_append]
    by_cases hts : t = s
    · simpa [storedTo, hts] using hset
    · simpa [storedTo, hts] using hset

end Used

/-! ## Stores alone -/

def storeAll (c : Cache α) (stores : List (Store α)) : Cache α :=
  stores.foldl (fun c x => c.set x.1 x.2.1 x.2.2) c

theorem find?_storeAll (c : Cache α) (stores : List (Store α)) (s : Slot) :
    ((c.storeAll stores).find? s).map (fun e => (e.value, e.deadline))
      = (storedTo s stores).getLast?.or ((c.find? s).map fun e => (e.value, e.deadline)) := by
  induction stores using List.reverseRecOn with
  | nil => rfl
  | append_singleton stores x ih =>
    obtain ⟨t, v, deadline⟩ := x
    unfold storeAll at ih ⊢
    rw [List.foldl_append, storedTo_append]
    by_cases hts : t = s
    · subst hts
      simp [storedTo, find?_set_self]
    · simp [storedTo, hts, find?_set_of_ne _ _ _ _ (Ne.symm hts), ih]

end NetLookup.Cache
