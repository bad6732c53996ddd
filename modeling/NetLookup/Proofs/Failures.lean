import NetLookup.Proofs.Ends
import NetLookup.Proofs.Stores

/-! # What a failure leaves of the cache

Every store comes after the last point at which its operation can meet a failure of our own. There are two
exceptions: the network of the host may be found before the request for names fails, and snapshots are
stored before it shows that they are too few. -/

namespace NetLookup

/-! ## Entries that are kept -/

namespace Cache

variable {α : Type} {now : Float}

/-- An entry is as it was, or is gone and was overdue. -/
def Kept (now : Float) (before after : Option (Entry α)) : Prop :=
  after = before ∨ after = none ∧ ∃ e, before = some e ∧ e.expired now = true

theorem Kept.filter {before after : Option (Entry α)} (h : Kept now before after) :
    Kept now before (after.filter fun e => !e.expired now) := by
  rcases h with rfl | ⟨rfl, hgone⟩
  · cases after with
    | none => exact Or.inl rfl
    | some e =>
      by_cases he : e.expired now = true
      · exact Or.inr ⟨by simp [Option.filter, he], e, rfl, he⟩
      · exact Or.inl (by simp [Option.filter, he])
  · exact Or.inr ⟨rfl, hgone⟩

theorem Used.kept {stores : List (Store α)} {c d : Cache α} (h : Used now stores c d) {s : Slot}
    (hs : ∀ x ∈ stores, x.1 ≠ s) : Kept now (c.find? s) (d.find? s) := by
  induction h with
  | refl => exact Or.inl rfl
  | get _ t ih =>
    -- A read may drop what is due, and nothing else.
    rw [find?_get]
    split
    · rename_i hst
      exact hst ▸ (ih hs).filter
    · exact ih hs
  | @set stores c d h t v deadline label ih =>
    have hts : t ≠ s := hs (t, v, deadline) (by simp)
    rw [find?_set_of_ne d v deadline label (Ne.symm hts)]
    exact ih fun x hx => hs x (by simp [hx])

end Cache

/-! ## Failures before stores -/

variable {α β : Type} {sort : Failure → Prop}

def Effect.Spares (sort : Failure → Prop) (E : Effect α) : Prop :=
  ∀ e, E.answer = .error e → sort e → E.stores = []

namespace Effect.Spares

theorem of_no_stores {E : Effect α} (h : E.stores = []) : E.Spares sort := fun _ _ _ => h

theorem of_ends {E : Effect α} (h : Ends (fun _ => True) (fun e => ¬ sort e) E.answer) :
    E.Spares sort :=
  fun _ he hsort => absurd hsort (h.failure he)

theorem map {E : Effect α} (h : E.Spares sort) (f : α → β) : (E.map f).Spares sort :=
  fun e he hsort => h e (error_of_map he) hsort

theorem andThen {E : Effect α} {F : α → Effect β} (hE : E.stores = [])
    (hF : ∀ a, E.answer = .ok a → (F a).Spares sort) : (E.andThen F).Spares sort := by
  intro e he hsort
  unfold Effect.andThen at he ⊢
  cases hanswer : E.answer with
  | error e' => exact hE
  | ok a =>
    rw [hanswer] at he
    simp only [hE, List.nil_append]
    exact hF a hanswer e he hsort

end Effect.Spares

theorem View.orAskEffect_spares {v : View} {key : String} {use : Stored → β}
    {ask : Work (β × Option Stored)} (seen : Sight) :
    (v.orAskEffect key use ask seen).Spares sort := by
  intro e he _
  unfold orAskEffect at he ⊢
  split at he
  · cases he
  · unfold askEffect at he ⊢
    cases hanswer : ask.answer seen.remote with
    | ok a =>
      rw [hanswer] at he
      cases he
    | error e' => rfl

theorem Lookup.networkEffect_spares (s : Settings) (seen : Sight) :
    (networkEffect s seen).Spares sort := by
  unfold networkEffect
  split
  · exact .of_no_stores rfl
  · exact View.orAskEffect_spares seen

theorem Lookup.networkEffect_asked {s : Settings} {seen : Sight} {id : Json} {value : Option Stored}
    (hunset : nonEmpty s.vpcId = none) (hunknown : seen.live ((vpcIds s).slot (.text "")) = none)
    (hasked : (askNetwork s).answer seen.remote = .ok (id, value)) :
    (networkEffect s seen).answer = .ok id := by
  unfold networkEffect View.orAskEffect
  simp only [hunset, hunknown, View.askEffect, hasked]
  rfl

/-! ## Lookups by name -/

theorem filedIds_onlyFaults {read : Reader} (hread : ∀ record, OnlyFaults (read record))
    (unnamed : Json → List Json) (records : List Json) :
    OnlyFaults (filedIds read unnamed records) := by
  induction records with
  | nil => exact .ok []
  | cons record records ih =>
    have hrecord := hread record
    unfold filedIds
    rcases hresult : read record with e | ⟨_ | name, id⟩
    · exact hrecord.failure hresult
    · exact ih.map
    · cases hname : Key.ofJson name with
      | error e =>
        simp only [hname]
        exact (Key.ofJson_onlyFaults name).failure hname
      | ok key =>
        simp only [hname]
        exact ih.map

namespace NameLookup

theorem read_onlyFaults (n : NameLookup) (record : Json) : OnlyFaults (n.read record) := by
  cases n with
  | subnets => exact (Subnet.ofJson_onlyFaults record).map
  | groups => exact (SecurityGroup.ofJson_onlyFaults record).map

def missing (n : NameLookup) (s : Settings) (seen : Sight) (names : List String) : List String :=
  (n.view s).notLive seen.live names

section Cases

variable {n : NameLookup} {s : Settings} {seen : Sight} {names : List String}

theorem effect_of_live (h : n.missing s seen names = []) :
    n.effect s names seen = .of (.ok ((n.view s).liveValues seen.live names)) :=
  if_pos (List.isEmpty_iff.2 h)

theorem effect_of_missing (h : n.missing s seen names ≠ []) :
    n.effect s names seen
      = ((n.view s).queryEffect s n.listing n.recordsKey n.read n.unnamed (n.missing s seen names)
          seen).map ((n.view s).liveValues seen.live names ++ ·) :=
  if_neg fun hnone => h (List.isEmpty_iff.1 hnone)

end Cases

structure Refused (n : NameLookup) (s : Settings) (seen : Sight) (names : List String)
    (network : Json) (e : Failure) : Prop where
  asked : n.missing s seen names ≠ []
  found : (Lookup.networkEffect s seen).answer = .ok network
  refused : ∃ cause, seen.remote.listed .ec2 n.listing n.recordsKey = .error cause ∧
    e = cause.named mainService (.str n.listing)
      (Lookup.namedParams (n.missing s seen names) network)

theorem effect_failure {n : NameLookup} {s : Settings} {seen : Sight} {names : List String}
    {e : Failure} (hfail : (n.effect s names seen).answer = .error e) (hown : e.isOwn = true) :
    (n.effect s names seen).stores = [] ∨
      ∃ network, n.Refused s seen names network e ∧
        (n.effect s names seen).stores = (Lookup.networkEffect s seen).stores := by
  have hspares : (Lookup.networkEffect s seen).Spares fun e => e.isOwn = true :=
    Lookup.networkEffect_spares s seen
  by_cases hmissing : n.missing s seen names = []
  · rw [effect_of_live hmissing] at hfail
    cases hfail
  · rw [effect_of_missing hmissing] at hfail ⊢
    have hfail := error_of_map hfail
    unfold View.queryEffect at hfail
    unfold Effect.map View.queryEffect
    cases hnetwork : (Lookup.networkEffect s seen).answer with
    | error e' =>
      simp only [Effect.andThen, hnetwork] at hfail ⊢
      cases hfail
      exact Or.inl (hspares e hnetwork hown)
    | ok network =>
      cases hlisted : seen.remote.listed .ec2 n.listing n.recordsKey with
      | error cause =>
        simp only [Effect.andThen, hnetwork, describeEffect, hlisted, mapError_error] at hfail ⊢
        cases hfail
        exact Or.inr ⟨network, ⟨hmissing, hnetwork, cause, hlisted, rfl⟩, List.append_nil _⟩
      | ok records =>
        simp only [Effect.andThen, hnetwork, describeEffect, hlisted, mapError_ok] at hfail
        -- The records were listed, so only reading them can have failed, which is no failure of our own.
        have hfault := (filedIds_onlyFaults n.read_onlyFaults n.unnamed records).failure hfail
        rw [hfault.foreign] at hown
        cases hown

theorem run_call (n : NameLookup) (s : Settings) (names : List String) :
    (n.call names).run s
      = (n.view s).byName s n.listing n.recordsKey n.read n.unnamed names >>= fun ids =>
        pure (.value (.arr ids)) := by
  cases n with
  | subnets => exact congrArg (· >>= _) (Lookup.subnets_eq s names)
  | groups => exact congrArg (· >>= _) (Lookup.securityGroups_eq s names)

end NameLookup

namespace View

variable (v : View) (s : Settings) (operation key : String) (read : Reader)
  (unnamed : Json → List Json)

theorem query_run (names : List String) {st : State} {network : Json}
    (hnetwork : (Lookup.networkEffect s st.sight).answer = .ok network) :
    ∃ t : State, t.clock = st.clock ∧ t.cache = ((Lookup.vpcId s).run.run st).2.cache ∧
      (v.query s operation key read unnamed names).run.run st
        = match st.remote.listed .ec2 operation key with
          | .ok records => (v.fileAll read unnamed records).run.run t
          | .error cause => (.error (cause.named mainService (.str operation)
              (Lookup.namedParams names network)), t) := by
  obtain ⟨cache, hrun, -⟩ := Lookup.vpcId_does s st
  rw [hnetwork] at hrun
  have hparams : Listing.anySaid [Listing.ownName] (Lookup.namedParams names network) = false := rfl
  let located : State :=
    { st with cache := cache, trace := st.trace ++ (Lookup.networkEffect s st.sight).events }
  have hdescribe := Work.listAll_run .ec2 mainService operation key hparams located
  unfold query describeAll
  rw [Work.bind_run_ok hrun, hrun, Work.bind_run, hdescribe]
  refine ⟨located.adding (firstPage st.remote .ec2 operation (Lookup.namedParams names network)), rfl, rfl, ?_⟩
  show _ = match located.remote.listed .ec2 operation key with
    | .ok _ => _
    | .error _ => _
  cases located.remote.listed .ec2 operation key <;> rfl

theorem query_cache_of_refused (names : List String) {st : State} {network : Json} {cause : Failure}
    (hnetwork : (Lookup.networkEffect s st.sight).answer = .ok network)
    (hlisted : st.remote.listed .ec2 operation key = .error cause) :
    ((v.query s operation key read unnamed names).run.run st).2.cache
      = ((Lookup.vpcId s).run.run st).2.cache := by
  obtain ⟨t, -, hcache, hrun⟩ := v.query_run s operation key read unnamed names hnetwork
  rw [hlisted] at hrun
  rw [hrun]
  exact hcache

theorem byName_cache {names : List String} {st : State} (hmissing : v.notLive st.live names ≠ []) :
    ∃ cache trace, Cache.Used st.clock [] st.cache cache ∧
      ((v.byName s operation key read unnamed names).run.run st).2.cache
        = ((v.query s operation key read unnamed (v.notLive st.live names)).run.run
            { st with cache := cache, trace := trace }).2.cache := by
  obtain ⟨cache, hrun, hused⟩ := v.readAll_does names st
  have hnone : (v.notLive st.live names).isEmpty = false := by simpa using hmissing
  simp only [Effect.of, State.sight, List.append_nil] at hrun hused
  refine ⟨cache, st.trace, hused, ?_⟩
  unfold byName
  rw [Work.bind_run_ok hrun]
  simp only [hnone, Bool.false_eq_true, if_false]
  exact Work.bind_cache (fun ids => (Work.pure_uncached _).keepsCache) _

end View

/-! ## The subnets of a cluster -/

namespace Lookup

theorem chooseEffect_onlyFaults (v : View) (now : Float) (fetched : List (Key × Subnet))
    (known : Named Stored) (ids : List String) (admitted : List Subnet) :
    OnlyFaults (chooseEffect v now fetched known ids admitted).answer := by
  induction ids generalizing admitted with
  | nil => exact .ok admitted
  | cons id ids ih =>
    unfold chooseEffect
    cases lastFetched fetched id with
    | some subnet =>
      by_cases husable : subnet.usable admitted = true
      · simp only [husable, if_true, Effect.answer_andThen]
        exact ih _
      · simp only [husable, if_false, Bool.false_eq_true]
        exact ih admitted
    | none =>
      cases known.lookup id with
      | some stored =>
        simp only [Effect.answer_andThen]
        exact (Stored.asSubnet_onlyFaults stored).bind fun subnet => ih _
      | none => exact ih admitted

theorem finished_ends (s : Settings) (scheme : Scheme) (admitted : List Subnet) :
    Ends (fun _ => True) (fun e => e.isOwn = true → ∃ found, e = insufficient s scheme found)
      (finished s scheme admitted) := by
  have hsorted := Json.sorted_onlyFaults (admitted.map (·.id))
  refine Ends.bind (hsorted.mono (fun _ _ => trivial) fun e he hown => ?_) fun found _ => ?_
  · rw [he.foreign] at hown
    cases hown
  · split
    · exact fun _ => ⟨found, rfl⟩
    · trivial

end Lookup

def Operation.TooFew (s : Settings) (op : Operation) (e : Failure) : Prop :=
  ∃ scheme asked found, op = .clusterSubnets scheme ∧ e = Lookup.insufficient s asked found

theorem Lookup.clusterEffect_spares (s : Settings) (scheme : Json) (seen : Sight) :
    (clusterEffect s scheme seen).Spares fun e =>
      e.isOwn = true ∧ ¬ (Operation.clusterSubnets scheme).TooFew s e := by
  refine .andThen rfl fun asked _ => .andThen rfl fun index _ => ?_
  refine .andThen (fetchEffect_stores _ _) fun fetched _ => .of_ends ?_
  rw [Effect.answer_andThen]
  have hchosen := chooseEffect_onlyFaults (clusterSubnetsById s) seen.clock fetched
    (liveSnapshots (clusterSubnetsById s) seen.live (candidates index asked.roleTag))
    (candidates index asked.roleTag) []
  refine Ends.bind (hchosen.mono (fun _ _ => trivial) fun e he hsort => ?_) fun admitted _ => ?_
  · rw [he.foreign] at hsort
    cases hsort.1
  · refine (finished_ends s asked admitted).mono (fun _ _ => trivial) fun e he hsort => ?_
    obtain ⟨found, heq⟩ := he hsort.1
    exact hsort.2 ⟨scheme, asked, found, rfl, heq⟩

/-! ## All operations -/

namespace Operation

/-- Except for lookups by name, every failure of our own comes before all stores. -/
theorem effect_spares {s : Settings} {op : Operation} {E : Sight → Effect Answer}
    (h : op.effect? s = some E) (hop : ∀ n names, op ≠ NameLookup.call n names) (seen : Sight) :
    (E seen).Spares fun e => e.isOwn = true ∧ ¬ op.TooFew s e := by
  cases op with
  | subnets names => exact absurd rfl (hop .subnets names)
  | securityGroups names => exact absurd rfl (hop .groups names)
  | clusterSubnets scheme =>
    obtain rfl := Option.some.inj h
    exact (Lookup.clusterEffect_spares s scheme seen).map _
  | vpcId =>
    obtain rfl := Option.some.inj h
    exact (Lookup.networkEffect_spares s seen).map _
  | vpc id =>
    obtain rfl := Option.some.inj h
    exact (View.orAskEffect_spares seen).map _
  | nodeHealthy id =>
    obtain rfl := Option.some.inj h
    exact (View.orAskEffect_spares seen).map _
  | _ => cases h

end Operation

namespace NameLookup

/-- The lookup of our network within a lookup by name succeeded and was stored, and then the request for
the names was refused. -/
structure FoundNetwork (n : NameLookup) (s : Settings) (names : List String) (m : Moment)
    (cache : Cache Stored) (e : Failure) (entry : Entry Stored) : Prop where
  unset : nonEmpty s.vpcId = none
  unknown : (m.state cache).live ((Lookup.vpcIds s).slot (.text "")) = none
  deadline : entry.deadline = (Lookup.vpcIds s).ttl.deadline m.clock
  refused : ∃ network, (Lookup.askNetwork s).answer m.remote = .ok (network, some entry.value) ∧
    n.Refused s (m.state cache).sight names network e

theorem entry_of_refused {n : NameLookup} {s : Settings} {names : List String} {m : Moment}
    {cache : Cache Stored} {network id : Json} {e : Failure} {value : Stored}
    (hrefused : n.Refused s (m.state cache).sight names network e)
    (hunset : nonEmpty s.vpcId = none)
    (hunknown : (m.state cache).live ((Lookup.vpcIds s).slot (.text "")) = none)
    (hasked : (Lookup.askNetwork s).answer m.remote = .ok (id, some value)) :
    ∃ entry, ((n.call names).cacheAfter s m cache).find? ((Lookup.vpcIds s).slot (.text ""))
      = some entry ∧ entry.value = value ∧ entry.deadline = (Lookup.vpcIds s).ttl.deadline m.clock := by
  obtain ⟨read, trace, hused, hbyName⟩ :=
    (n.view s).byName_cache s n.listing n.recordsKey n.read n.unnamed hrefused.asked
  obtain ⟨cause, hlisted, -⟩ := hrefused.refused
  have hsight := State.sight_of_used hused trace
  have hnetwork : (Lookup.networkEffect s
      (State.sight { m.state cache with cache := read, trace := trace })).answer = .ok network := by
    rw [hsight]
    exact hrefused.found
  have hquery := (n.view s).query_cache_of_refused s n.listing n.recordsKey n.read n.unnamed
    (n.missing s (m.state cache).sight names) hnetwork hlisted
  -- After the refusal nothing is stored any more, so the lookup of our network came last.
  have hafter : (n.call names).cacheAfter s m cache
      = ((Lookup.vpcId s).run.run { m.state cache with cache := read, trace := trace }).2.cache := by
    unfold Operation.cacheAfter
    rw [run_call, Work.bind_cache fun ids => (Work.pure_uncached _).keepsCache]
    exact hbyName.trans hquery
  have hlive : State.live { m.state cache with cache := read, trace := trace }
      ((Lookup.vpcIds s).slot (.text "")) = none :=
    (congrArg (Sight.live · _) hsight).trans hunknown
  rw [hafter, Lookup.vpcId_eq]
  simp only [hunset]
  exact (Lookup.vpcIds s).orAsk_entry "" Stored.toJson (Lookup.askNetwork_uncached s) hlive hasked

theorem kept_or_found {n : NameLookup} {s : Settings} {names : List String} {m : Moment}
    {cache : Cache Stored} {e : Failure} (hown : e.isOwn = true)
    (hfail : (n.effect s names (m.state cache).sight).answer = .error e) (slot : Slot) :
    Cache.Kept m.clock (cache.find? slot) (((n.call names).cacheAfter s m cache).find? slot) ∨
      slot = (Lookup.vpcIds s).slot (.text "") ∧ ∃ entry,
        ((n.call names).cacheAfter s m cache).find? slot = some entry ∧
          n.FoundNetwork s names m cache e entry := by
  have hused := (n.call names).cacheAfter_used m cache (n.effect?_call s names)
  rcases effect_failure hfail hown with hnone | ⟨network, hrefused, hstores⟩
  · exact Or.inl (hused.kept fun x hx => by simp [Effect.map, hnone] at hx)
  · by_cases hslot : ∃ x ∈ (Lookup.networkEffect s (m.state cache).sight).stores, x.1 = slot
    · obtain ⟨x, hx, rfl⟩ := hslot
      obtain ⟨hunset, hunknown, id, value, hasked, rfl⟩ := Lookup.mem_stores_networkEffect hx
      obtain ⟨entry, hentry, rfl, hdeadline⟩ := entry_of_refused hrefused hunset hunknown hasked
      have hfound := Lookup.networkEffect_asked hunset hunknown hasked
      obtain rfl : id = network := Except.ok.inj (hfound.symm.trans hrefused.found)
      exact Or.inr ⟨rfl, entry, hentry, hunset, hunknown, hdeadline, id, hasked, hrefused⟩
    · refine Or.inl (hused.kept fun x hx hxs => hslot ⟨x, ?_, hxs⟩)
      exact hstores ▸ hx

end NameLookup

/-- After a failure of our own every entry is as it was, unless it was overdue. Two things are left out: a
choice of too few subnets, and the network of the host, which a lookup by name may have found before it was
refused. -/
theorem Operation.failure_keeps (s : Settings) (op : Operation) (m : Moment) (cache : Cache Stored)
    (e : Failure) (hfail : (op.outcome s m cache).1 = .error e) (hown : e.isOwn = true)
    (henough : ¬ op.TooFew s e) (slot : Slot) :
    Cache.Kept m.clock (cache.find? slot) ((op.cacheAfter s m cache).find? slot) ∨
      slot = (Lookup.vpcIds s).slot (.text "") ∧ ∃ n names entry, op = NameLookup.call n names ∧
        (op.cacheAfter s m cache).find? slot = some entry ∧ n.FoundNetwork s names m cache e entry := by
  cases heffect : op.effect? s with
  | none =>
    rw [op.cacheAfter_kept m cache heffect]
    exact Or.inl (Or.inl rfl)
  | some E =>
    rw [op.outcome_eq m cache heffect] at hfail
    by_cases hop : ∃ n names, op = NameLookup.call n names
    · obtain ⟨n, names, rfl⟩ := hop
      rw [n.effect?_call] at heffect
      obtain rfl := Option.some.inj heffect
      rcases NameLookup.kept_or_found hown (error_of_map hfail) slot with hkept | ⟨hslot, entry, hfound⟩
      · exact Or.inl hkept
      · exact Or.inr ⟨hslot, n, names, entry, rfl, hfound⟩
    · have hnone := effect_spares heffect (fun n names heq => hop ⟨n, names, heq⟩) _ e hfail
        ⟨hown, henough⟩
      refine Or.inl ((op.cacheAfter_used m cache heffect).kept fun x hx => ?_)
      simp [hnone] at hx

/-- A world in which the host is known, and subnets cannot be listed. -/
def noSubnets : Remote where
  pages _ operation :=
    if operation = "describe_instances" then
      [.obj [("Reservations", .arr [.obj [("Instances", .arr [.obj [("VpcId", .str "east")]])]])]]
    else []
  outage _ operation :=
    if operation = "describe_subnets" then some (.atPage 0 (.sdk .noCredentials)) else none
  deletion _ := none
  tagsFailure := none
  token := ⟨none, none, "", .ok .null⟩
  identity := ⟨none, none, "", .ok (.obj [("instanceId", .str "host")])⟩

def oneName : Cache Stored := Cache.empty.set ⟨"EC2.GetSubnets", .text "old"⟩ (.plain (.str "s1")) 9

/-- The request for the other name fails. The known name is kept, and the network of the host is there for an
hour. -/
theorem Operation.failure_keeps_noSubnets :
    ∃ e, ((Operation.subnets ["old", "new"]).outcome {} ⟨noSubnets, 5, fun _ => 0⟩ oneName).1 = .error e ∧
      ((Operation.subnets ["old", "new"]).cacheAfter {} ⟨noSubnets, 5, fun _ => 0⟩ oneName).find?
        ⟨"EC2.GetSubnets", .text "old"⟩ = oneName.find? ⟨"EC2.GetSubnets", .text "old"⟩ ∧
      ∃ n names entry,
        NameLookup.FoundNetwork n {} names ⟨noSubnets, 5, fun _ => 0⟩ oneName e entry ∧
        ((Operation.subnets ["old", "new"]).cacheAfter {} ⟨noSubnets, 5, fun _ => 0⟩ oneName).find?
          ⟨"EC2.GetVPCID", .text ""⟩ = some entry ∧ entry.value = .plain (.str "east") ∧
          entry.deadline = 3605 := by
  have hends : (match ((Operation.subnets ["old", "new"]).outcome {} ⟨noSubnets, 5, fun _ => 0⟩
      oneName).1 with
      | .error e => e.isOwn
      | .ok _ => false) = true := by decide +kernel
  have hstored : (((Operation.subnets ["old", "new"]).cacheAfter {} ⟨noSubnets, 5, fun _ => 0⟩
      oneName).find? ⟨"EC2.GetVPCID", .text ""⟩).map (·.value) = some (.plain (.str "east")) := by rfl
  split at hends
  · rename_i e hfail
    have hkeeps := failure_keeps {} (.subnets ["old", "new"]) ⟨noSubnets, 5, fun _ => 0⟩ oneName e hfail
      hends (fun ⟨_, _, _, hop, _⟩ => by cases hop)
    refine ⟨e, hfail, ?_, ?_⟩
    · rcases hkeeps ⟨"EC2.GetSubnets", .text "old"⟩ with (hsame | ⟨-, old, hold, hexpired⟩) | ⟨hslot, -⟩
      · exact hsame
      · cases hold
        exact absurd hexpired (by decide)
      · exact absurd hslot (by decide)
    · rcases hkeeps ⟨"EC2.GetVPCID", .text ""⟩ with
        (hsame | ⟨hnone, -⟩) | ⟨-, n, names, entry, -, hentry, hfound⟩
      · rw [hsame] at hstored
        cases hstored
      · rw [hnone] at hstored
        cases hstored
      · rw [hentry] at hstored
        exact ⟨n, names, entry, hfound, hentry, Option.some.inj hstored,
          hfound.deadline.trans (by decide +kernel)⟩
  · cases hends

end NetLookup
