import NetLookup.Proofs.Lookup.Named

/-! # The subnets of a cluster

Candidates without a live snapshot are fetched, all at once. The choice then goes through all candidates
in order, and stores what it admits of the fetched ones. -/

namespace NetLookup.Lookup

/-! ## Reading -/

def liveSnapshots (v : View) : (Slot → Option Stored) → List String → Named Stored :=
  v.liveWith Prod.mk

theorem lookup_liveSnapshots (v : View) (live : Slot → Option Stored) (ids : List String) (id : String) :
    (liveSnapshots v live ids).lookup id = if id ∈ ids then live (v.slot (.text id)) else none := by
  unfold liveSnapshots View.liveWith
  induction ids with
  | nil => rfl
  | cons first ids ih =>
    -- If the first id is looked up and not live, its repeats are not live either.
    by_cases hid : id = first
    · subst hid
      cases hlive : live (v.slot (.text id)) with
      | some snapshot => simp [hlive]
      | none => simp [hlive, ih]
    · have hne : (id == first) = false := by simpa using hid
      cases hlive : live (v.slot (.text first)) with
      | some snapshot => simp [hlive, List.lookup_cons, hne, hid, ih]
      | none => simp [hlive, hid, ih]

theorem readSnapshots_eq (v : View) (ids : List String) :
    readSnapshots v ids = v.readWith Prod.mk ids := by
  induction ids with
  | nil => rfl
  | cons id ids ih =>
    unfold readSnapshots View.readWith
    rw [ih]
    refine bind_congr fun found => bind_congr fun rest => ?_
    cases found with
    | some snapshot => rfl
    | none => rfl

theorem readSnapshots_does (v : View) (ids : List String) :
    (readSnapshots v ids).Does fun seen =>
      .of (.ok (liveSnapshots v seen.live ids, v.notLive seen.live ids)) := by
  rw [readSnapshots_eq]
  exact v.readWith_does _ ids

/-! ## Fetching -/

def fetchEffect (missing : List String) (r : Remote) : Effect (List (Key × Subnet)) :=
  if missing.isEmpty then .of (.ok [])
  else (describeEffect "describe_subnets" "Subnets"
    (Filter.params [Filter.entry "subnet-id" (missing.map .str)]) r).andThen fun records =>
      .of (records.mapM fetchedOf)

theorem fetchSnapshots_does (missing : List String) :
    (fetchSnapshots missing).Does fun seen => fetchEffect missing seen.remote := by
  unfold fetchSnapshots fetchEffect
  by_cases hnone : missing.isEmpty = true
  · simp only [hnone, if_true]
    exact Work.pure_does []
  · simp only [hnone, if_false, Bool.false_eq_true]
    exact (describe_does _ _ rfl).bind (fun _ => rfl) fun records => Work.check_does _

theorem fetchEffect_stores (missing : List String) (r : Remote) :
    (fetchEffect missing r).stores = [] := by
  unfold fetchEffect Effect.andThen describeEffect
  split
  · rfl
  · split <;> rfl

/-- The subnets that a world has, unless it does not tell. -/
def fetchedIn (w : Remote) : Option (List (Key × Subnet)) :=
  (w.listed .ec2 "describe_subnets" "Subnets").toOption.bind fun records =>
    (records.mapM fetchedOf).toOption

theorem fetchEffect_told {missing : List String} (h : missing ≠ []) (r : Remote) :
    (fetchEffect missing r).answer.toOption = fetchedIn r := by
  have hmissing : missing.isEmpty = false := by simpa using h
  unfold fetchEffect fetchedIn
  simp only [hmissing, Bool.false_eq_true, if_false]
  unfold Effect.andThen describeEffect
  cases r.listed .ec2 "describe_subnets" "Subnets" with
  | error e => rfl
  | ok records => rfl

theorem fetchEffect_eq_ok {missing : List String} (h : missing ≠ []) {r : Remote}
    {fetched : List (Key × Subnet)} :
    (fetchEffect missing r).answer = .ok fetched ↔ fetchedIn r = some fetched := by
  rw [← fetchEffect_told h]
  cases (fetchEffect missing r).answer <;> simp [Except.toOption]

theorem fetchEffect_ok {missing : List String} {r : Remote} {fetched : List (Key × Subnet)}
    (h : (fetchEffect missing r).answer = .ok fetched) : fetched = [] ∨ fetchedIn r = some fetched := by
  by_cases hmissing : missing = []
  · left
    subst hmissing
    simpa [fetchEffect, Effect.of] using h.symm
  · exact Or.inr ((fetchEffect_eq_ok hmissing).1 h)

/-! ## Choosing -/

def chooseEffect (v : View) (now : Float) (fetched : List (Key × Subnet)) (known : Named Stored) :
    List String → List Subnet → Effect (List Subnet)
  | [], admitted => .of (.ok admitted)
  | id :: ids, admitted =>
    match lastFetched fetched id, known.lookup id with
    | some subnet, _ =>
      if subnet.usable admitted then
        (Effect.mk (.ok ()) [] [v.stamped now (.text id) (.subnet subnet)]).andThen fun _ =>
          chooseEffect v now fetched known ids (admitted ++ [subnet])
      else chooseEffect v now fetched known ids admitted
    | none, some stored =>
      (Effect.of stored.asSubnet).andThen fun subnet =>
        chooseEffect v now fetched known ids
          (if subnet.usable admitted then admitted ++ [subnet] else admitted)
    | none, none => chooseEffect v now fetched known ids admitted

theorem choose_does (v : View) (fetched : List (Key × Subnet)) (known : Named Stored)
    (ids : List String) (admitted : List Subnet) :
    (choose v fetched known ids admitted).Does fun seen =>
      chooseEffect v seen.clock fetched known ids admitted := by
  -- What is stored is not read again, so the effect of the rest does not depend on it.
  induction ids generalizing admitted with
  | nil => exact Work.pure_does admitted
  | cons id ids ih =>
    unfold choose chooseEffect
    cases lastFetched fetched id with
    | some subnet =>
      by_cases husable : subnet.usable admitted = true
      · simp only [husable, if_true]
        exact (Work.write_does v (.text id) _ _).bind_blind (fun _ => ih _) fun _ _ _ => rfl
      · simp only [husable, if_false, Bool.false_eq_true]
        exact ih admitted
    | none =>
      cases known.lookup id with
      | some stored =>
        exact (Work.check_does stored.asSubnet).bind (fun _ => rfl) fun subnet => ih _
      | none => exact ih admitted

theorem chooseEffect_stores (v : View) (now : Float) (fetched : List (Key × Subnet))
    (known : Named Stored) (ids : List String) (admitted : List Subnet) :
    ∀ w ∈ (chooseEffect v now fetched known ids admitted).stores, ∃ id subnet,
      lastFetched fetched id = some subnet ∧ w = v.stamped now (.text id) (.subnet subnet) := by
  induction ids generalizing admitted with
  | nil => simp [chooseEffect, Effect.of]
  | cons id ids ih =>
    unfold chooseEffect
    cases hfetched : lastFetched fetched id with
    | some subnet =>
      by_cases husable : subnet.usable admitted = true
      · simp only [husable, if_true, Effect.andThen, List.cons_append, List.nil_append]
        intro w hw
        rcases List.mem_cons.1 hw with rfl | hw
        · exact ⟨id, subnet, hfetched, rfl⟩
        · exact ih _ w hw
      · simp only [husable, if_false, Bool.false_eq_true]
        exact ih admitted
    | none =>
      cases known.lookup id with
      | some stored =>
        simp only [Effect.of_andThen]
        cases stored.asSubnet with
        | error e => simp [Effect.of]
        | ok subnet => exact ih _
      | none => exact ih admitted

def standing (fetched : List (Key × Subnet)) (known : Named Stored) (id : String) :
    Except Failure (Option Subnet) :=
  match lastFetched fetched id, known.lookup id with
  | some subnet, _ => .ok (some subnet)
  | none, some stored => stored.asSubnet.map some
  | none, none => .ok none

def addUsable (admitted : List Subnet) (subnet : Subnet) : List Subnet :=
  if subnet.usable admitted then admitted ++ [subnet] else admitted

/-- It does not matter whether a snapshot was fetched or cached. -/
theorem chooseEffect_answer (v : View) (now : Float) {fetched : List (Key × Subnet)}
    {known : Named Stored} {ids : List String} {snapshot : String → Option Subnet}
    (h : ∀ id ∈ ids, standing fetched known id = .ok (snapshot id)) (admitted : List Subnet) :
    (chooseEffect v now fetched known ids admitted).answer
      = .ok ((ids.filterMap snapshot).foldl addUsable admitted) := by
  induction ids generalizing admitted with
  | nil => rfl
  | cons id ids ih =>
    have hid := h id List.mem_cons_self
    have hrest (admitted : List Subnet) :=
      ih (fun other hother => h other (List.mem_cons_of_mem id hother)) admitted
    -- What stands for the id and the branch that is taken depend on the same two lookups.
    unfold standing at hid
    unfold chooseEffect
    cases hfetched : lastFetched fetched id with
    | some subnet =>
      have hsnapshot : snapshot id = some subnet := by simpa [hfetched] using hid.symm
      by_cases husable : subnet.usable admitted = true
      · simp [husable, Effect.andThen, hrest, hsnapshot, addUsable]
      · simp [husable, hrest, hsnapshot, addUsable]
    | none =>
      cases hknown : known.lookup id with
      | some stored =>
        cases hstored : stored.asSubnet with
        | error e => simp [hfetched, hknown, hstored, Except.map] at hid
        | ok subnet =>
          have hsnapshot : snapshot id = some subnet := by
            simpa [hfetched, hknown, hstored, Except.map] using hid.symm
          simp [Effect.of_andThen, hstored, hrest, hsnapshot, addUsable]
      | none =>
        have hsnapshot : snapshot id = none := by simpa [hfetched, hknown] using hid.symm
        simp [hrest, hsnapshot]

/-! ## All of it -/

def finished (s : Settings) (scheme : Scheme) (admitted : List Subnet) : Except Failure (List Json) :=
  (Json.sorted (admitted.map (·.id))).bind fun found =>
    if found.length < minimalCount then .error (insufficient s scheme found) else .ok found

def amongEffect (s : Settings) (scheme : Scheme) (ids : List String) (seen : Sight) :
    Effect (List Json) :=
  let v := clusterSubnetsById s
  (fetchEffect (v.notLive seen.live ids) seen.remote).andThen fun fetched =>
    (chooseEffect v seen.clock fetched (liveSnapshots v seen.live ids) ids []).andThen fun admitted =>
      .of (finished s scheme admitted)

def clusterEffect (s : Settings) (scheme : Json) (seen : Sight) : Effect (List Json) :=
  (Effect.of (Scheme.ofJson scheme)).andThen fun scheme =>
    (Effect.mk ((clusterIndex s.clusterName).answer seen.remote)
      ((clusterIndex s.clusterName).events seen.remote) []).andThen fun index =>
        amongEffect s scheme (candidates index scheme.roleTag) seen

theorem clusterEffect_stores {s : Settings} {scheme : Json} {seen : Sight} {x : Cache.Store Stored}
    (hx : x ∈ (clusterEffect s scheme seen).stores) :
    ∃ fetched id subnet, fetchedIn seen.remote = some fetched ∧
      lastFetched fetched id = some subnet ∧
      x = (clusterSubnetsById s).stamped seen.clock (.text id) (.subnet subnet) := by
  rcases Effect.mem_stores_andThen hx with hx | ⟨scheme, -, hx⟩
  · cases hx
  rcases Effect.mem_stores_andThen hx with hx | ⟨index, -, hx⟩
  · cases hx
  rcases Effect.mem_stores_andThen hx with hx | ⟨fetched, hfetch, hx⟩
  · rw [fetchEffect_stores] at hx
    cases hx
  rcases Effect.mem_stores_andThen hx with hx | ⟨admitted, -, hx⟩
  · obtain ⟨id, subnet, hlast, rfl⟩ := chooseEffect_stores _ _ _ _ _ _ x hx
    rcases fetchEffect_ok hfetch with rfl | hworld
    · cases hlast
    · exact ⟨fetched, id, subnet, hworld, hlast, rfl⟩
  · cases hx

theorem clusterIndex_uncached (cluster : String) : (clusterIndex cluster).Uncached :=
  (Work.listAll_asks _ _ _ _ rfl).1.bind fun _ =>
    (Work.check_uncached _).bind fun _ => Work.pure_uncached _

def among (s : Settings) (scheme : Scheme) (ids : List String) : Work (List Json) := do
  let (known, missing) ← readSnapshots (clusterSubnetsById s) ids
  let fetched ← fetchSnapshots missing
  let admitted ← choose (clusterSubnetsById s) fetched known ids []
  Work.check (finished s scheme admitted)

theorem among_does (s : Settings) (scheme : Scheme) (ids : List String) :
    (among s scheme ids).Does (amongEffect s scheme ids) := by
  have hchoice (known : Named Stored) (fetched : List (Key × Subnet)) :=
    (choose_does (clusterSubnetsById s) fetched known ids []).bind_blind
      (fun admitted => Work.check_does (finished s scheme admitted)) fun _ _ _ => rfl
  have hfetch (split : Named Stored × List String) :=
    (fetchSnapshots_does split.2).bind_blind (hchoice split.1) fun _ _ _ => rfl
  have hdoes := (readSnapshots_does (clusterSubnetsById s) ids).bind (fun _ => rfl) hfetch
  simp only [Effect.of_andThen] at hdoes
  exact hdoes

theorem clusterSubnets_eq (s : Settings) (scheme : Json) :
    clusterSubnets s scheme = (do
      let scheme ← Work.check (Scheme.ofJson scheme)
      let index ← clusterIndex s.clusterName
      among s scheme (candidates index scheme.roleTag)) := by
  unfold clusterSubnets among
  refine bind_congr fun scheme => bind_congr fun index => bind_congr fun split => ?_
  refine bind_congr fun fetched => bind_congr fun admitted => ?_
  unfold finished
  cases Json.sorted (admitted.map (·.id)) with
  | error e => rfl
  | ok found =>
    rw [show Work.check (.ok found) = pure found from rfl, pure_bind]
    by_cases hfew : found.length < minimalCount
    · simp only [Except.bind, hfew, if_true]
      rfl
    · simp only [Except.bind, hfew, if_false]
      rfl

theorem clusterSubnets_does (s : Settings) (scheme : Json) :
    (clusterSubnets s scheme).Does (clusterEffect s scheme) := by
  rw [clusterSubnets_eq]
  refine (Work.check_does (Scheme.ofJson scheme)).bind (fun _ => rfl) fun scheme => ?_
  exact (clusterIndex_uncached s.clusterName).does.bind (fun _ => rfl) fun index => among_does s scheme _

end NetLookup.Lookup
