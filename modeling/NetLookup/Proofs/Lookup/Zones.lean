import NetLookup.Proofs.Lookup.Attempts
import NetLookup.Proofs.Json.Laws

/-! # One subnet for each zone

The choice compares a candidate with those that were admitted before it. All earlier snapshots lie in the
zones of admitted ones, so it chooses each candidate that is the first of its zone, and no other. -/

namespace NetLookup

/-! ## Zones -/

namespace Subnet

theorem usable_append (x : Subnet) (as bs : List Subnet) :
    x.usable (as ++ bs) = (x.usable as && x.usable bs) :=
  List.all_append

theorem usable_eq_false {x : Subnet} {admitted : List Subnet} :
    x.usable admitted = false ↔ ∃ y ∈ admitted, x.zone.same y.zone = true := by
  simp [usable]

end Subnet

namespace Lookup

/-- A subnet that is passed over does not matter to later ones. -/
theorem usable_addUsable (x y : Subnet) (admitted : List Subnet) :
    x.usable (addUsable admitted y) = x.usable (admitted ++ [y]) := by
  unfold addUsable
  cases hy : y.usable admitted with
  | true => rfl
  | false =>
    -- An admitted `z` stands for the zone of `y`, to all that lie in it.
    obtain ⟨z, hz, hsame⟩ := Subnet.usable_eq_false.1 hy
    rw [if_neg (by simp), Subnet.usable_append]
    cases hxy : x.zone.same y.zone with
    | true =>
      rw [Subnet.usable_eq_false.2 ⟨z, hz, Json.same_trans hxy hsame⟩]
      rfl
    | false => simp [Subnet.usable, hxy]

theorem usable_foldl_addUsable (x : Subnet) (earlier : List Subnet) :
    x.usable (earlier.foldl addUsable []) = x.usable earlier := by
  induction earlier using List.reverseRecOn with
  | nil => rfl
  | append_singleton earlier y ih =>
    rw [List.foldl_append]
    show x.usable (addUsable (earlier.foldl addUsable []) y) = _
    rw [usable_addUsable, Subnet.usable_append, Subnet.usable_append, ih]

/-! ## The first of each zone -/

/-- Whether a candidate has a snapshot in a zone in which no earlier candidate has one. -/
def firstInZone (snapshot : String → Option Subnet) (ids : List String) (id : String) : Bool :=
  (snapshot id).any (·.usable ((ids.takeWhile (· != id)).filterMap snapshot))

def firstInZones (snapshot : String → Option Subnet) (ids : List String) : List String :=
  ids.filter (firstInZone snapshot ids)

def admittedOf (snapshot : String → Option Subnet) (ids : List String) : List Subnet :=
  (ids.filterMap snapshot).foldl addUsable []

section Choice

variable {snapshot : String → Option Subnet} {before rest ids : List String} {id : String}

theorem admittedOf_snoc (snapshot : String → Option Subnet) (before : List String) (id : String) :
    admittedOf snapshot (before ++ [id]) = (snapshot id).elim (admittedOf snapshot before)
      (addUsable (admittedOf snapshot before)) := by
  unfold admittedOf
  rw [List.filterMap_append, List.foldl_append]
  cases h : snapshot id <;> simp [h]

theorem takeWhile_ne (h : (before ++ id :: rest).Nodup) :
    (before ++ id :: rest).takeWhile (· != id) = before := by
  have hid : id ∉ before := fun hmem => List.disjoint_of_nodup_append h hmem List.mem_cons_self
  rw [List.takeWhile_append_of_pos]
  · simp
  · intro other hother
    simpa using ne_of_mem_of_not_mem hother hid

theorem firstInZone_next (snapshot : String → Option Subnet) (h : (before ++ id :: rest).Nodup) :
    firstInZone snapshot (before ++ id :: rest) id
      = (snapshot id).any (·.usable (admittedOf snapshot before)) := by
  unfold firstInZone
  rw [takeWhile_ne h]
  simp only [admittedOf, usable_foldl_addUsable]

theorem admittedOf_append (before : List String) (h : (before ++ rest).Nodup) :
    admittedOf snapshot (before ++ rest) = admittedOf snapshot before
      ++ (rest.filter (firstInZone snapshot (before ++ rest))).filterMap snapshot := by
  induction rest generalizing before with
  | nil => simp
  | cons id rest ih =>
    have hnext := firstInZone_next snapshot h
    -- The next candidate joins those before, and all of them stay the same.
    rw [List.append_cons] at h hnext ⊢
    rw [ih _ h, admittedOf_snoc, List.filter_cons, hnext]
    cases hid : snapshot id with
    | none => simp
    | some x =>
      by_cases husable : x.usable (admittedOf snapshot before) = true
      · simp [addUsable, husable, hid]
      · simp [addUsable, husable]

theorem admittedOf_eq (h : ids.Nodup) :
    admittedOf snapshot ids = (firstInZones snapshot ids).filterMap snapshot :=
  admittedOf_append [] h

/-! ## What is stored -/

variable {v : View} {now : Float} {fetched : List (Key × Subnet)} {known : Named Stored}

def storeOf (v : View) (now : Float) (fetched : List (Key × Subnet)) (id : String) :
    Option (Cache.Store Stored) :=
  (lastFetched fetched id).map fun x => v.stamped now (.text id) (.subnet x)

theorem chooseEffect_cons (h : standing fetched known id = .ok (snapshot id)) (admitted : List Subnet) :
    chooseEffect v now fetched known (id :: ids) admitted
      = (Effect.mk (.ok ()) [] (if (snapshot id).any (·.usable admitted) then
          (storeOf v now fetched id).toList else [])).andThen fun _ =>
            chooseEffect v now fetched known ids ((snapshot id).elim admitted (addUsable admitted)) := by
  unfold standing at h
  rw [chooseEffect]
  unfold storeOf
  cases hfetched : lastFetched fetched id with
  | some x =>
    have hsnapshot : snapshot id = some x := by simpa [hfetched] using h.symm
    by_cases husable : x.usable admitted = true
    · simp [hsnapshot, husable, addUsable]
    · simp [hsnapshot, husable, addUsable, Effect.andThen]
  | none =>
    cases hknown : known.lookup id with
    | some stored =>
      cases hstored : stored.asSubnet with
      | error e => simp [hfetched, hknown, hstored, Except.map] at h
      | ok x =>
        have hsnapshot : snapshot id = some x := by
          simpa [hfetched, hknown, hstored, Except.map] using h.symm
        simp [hsnapshot, hstored, addUsable, Effect.andThen, Effect.of]
    | none =>
      have hsnapshot : snapshot id = none := by simpa [hfetched, hknown] using h.symm
      simp [hsnapshot, Effect.andThen]

/-- What was fetched for the candidates that are the first of their zones is stored, and nothing else. -/
theorem chooseEffect_rest (v : View) (now : Float) (before : List String)
    (h : ∀ id ∈ rest, standing fetched known id = .ok (snapshot id)) (hnodup : (before ++ rest).Nodup) :
    (chooseEffect v now fetched known rest (admittedOf snapshot before)).stores
      = (rest.filter (firstInZone snapshot (before ++ rest))).filterMap (storeOf v now fetched) := by
  induction rest generalizing before with
  | nil => rfl
  | cons id rest ih =>
    have hnext := firstInZone_next snapshot hnodup
    rw [List.append_cons] at hnodup hnext ⊢
    rw [chooseEffect_cons (h id List.mem_cons_self), ← admittedOf_snoc, List.filter_cons, hnext]
    simp only [Effect.andThen, ih _ (fun other hother => h other (List.mem_cons_of_mem id hother)) hnodup]
    split
    · rw [List.filterMap_cons]
      cases storeOf v now fetched id <;> rfl
    · rfl

theorem chooseEffect_eq (v : View) (now : Float)
    (h : ∀ id ∈ ids, standing fetched known id = .ok (snapshot id)) (hnodup : ids.Nodup) :
    chooseEffect v now fetched known ids []
      = ⟨.ok ((firstInZones snapshot ids).filterMap snapshot), [],
        (firstInZones snapshot ids).filterMap (storeOf v now fetched)⟩ := by
  have hanswer := chooseEffect_answer v now h []
  have hstores := chooseEffect_rest v now [] h hnodup
  have hevents := chooseEffect_events v now fetched known ids []
  have hadmitted : (ids.filterMap snapshot).foldl addUsable []
      = (firstInZones snapshot ids).filterMap snapshot := admittedOf_eq hnodup
  rw [hadmitted] at hanswer
  calc chooseEffect v now fetched known ids []
      = ⟨(chooseEffect v now fetched known ids []).answer,
          (chooseEffect v now fetched known ids []).events,
          (chooseEffect v now fetched known ids []).stores⟩ := rfl
    _ = _ := by rw [hanswer, hevents]; exact congrArg _ hstores

theorem choose_run (v : View) (fetched : List (Key × Subnet)) (known : Named Stored) (ids : List String)
    (admitted : List Subnet) (st : State) :
    (choose v fetched known ids admitted).run.run st
      = ((chooseEffect v st.clock fetched known ids admitted).answer, { st with
          cache := st.cache.storeAll (chooseEffect v st.clock fetched known ids admitted).stores }) := by
  -- With the same ids admitted so far, both recursions take the same branch at each id.
  induction ids generalizing admitted st with
  | nil => rfl
  | cons id ids ih =>
    unfold choose chooseEffect
    cases lastFetched fetched id with
    | some x =>
      by_cases husable : x.usable admitted = true
      · simp only [husable, if_true]
        rw [Work.bind_run_ok (View.write_run v (.text id) (.subnet x) _ st), ih]
        rfl
      · simp only [husable, if_false, Bool.false_eq_true]
        exact ih admitted st
    | none =>
      cases known.lookup id with
      | some stored =>
        simp only [Effect.of_andThen]
        rw [Work.check_bind_run]
        cases stored.asSubnet with
        | error e => rfl
        | ok x => exact ih _ st
      | none => exact ih admitted st

end Choice

/-! ## One for each zone -/

section Zones

variable {snapshot : String → Option Subnet} {ids : List String} {id one other : String} {x y : Subnet}

theorem exists_of_mem_firstInZones (h : id ∈ firstInZones snapshot ids) : ∃ x, snapshot id = some x := by
  obtain ⟨x, hx, -⟩ := (Option.any_eq_true _ _).1 (List.mem_filter.1 h).2
  exact ⟨x, hx⟩

end Zones

end Lookup

end NetLookup
