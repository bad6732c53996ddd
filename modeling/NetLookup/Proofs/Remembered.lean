import NetLookup.Proofs.AskedAgain
import NetLookup.Proofs.Chosen

/-! # What is remembered of a choice

Candidates may be cached or fetched, and chosen or not. Those that are both fetched and chosen are stored,
also if there are too few of them, and no other entry changes. So of the candidates that one lookup asked
for, the next one asks for those that were not chosen. -/

namespace NetLookup

namespace Lookup

section Stores

variable {s : Settings} {now : Float} {chosen : List String} {fetched : List (Key × Subnet)} {id : String}
  {x : Subnet} {w : Cache.Store Stored}

/-! ## Stores of a choice -/

theorem mem_chosenStores : w ∈ chosenStores s now chosen fetched
    ↔ ∃ id ∈ chosen, ∃ x, lastFetched fetched id = some x ∧
        (clusterSubnetsById s).stamped now (.text id) (.subnet x) = w := by
  simp [chosenStores, storeOf, List.mem_filterMap]

theorem slot_inj {v : View} {id other : String} (h : v.slot (.text id) = v.slot (.text other)) :
    id = other := by
  simpa [View.slot] using h

theorem eq_of_mem_storedTo (hlast : lastFetched fetched id = some x) {y : Stored × Float}
    (hy : y ∈ Cache.storedTo ((clusterSubnetsById s).slot (.text id)) (chosenStores s now chosen fetched)) :
    y = (.subnet x, (clusterSubnetsById s).ttl.deadline now) := by
  obtain ⟨w, hw, rfl⟩ := List.mem_map.1 hy
  obtain ⟨hw, hslot⟩ := List.mem_filter.1 hw
  obtain ⟨other, -, z, hz, rfl⟩ := mem_chosenStores.1 hw
  obtain rfl := slot_inj (of_decide_eq_true hslot)
  obtain rfl := Option.some.inj (hz.symm.trans hlast)
  rfl

theorem last_storedTo (hid : id ∈ chosen) (hlast : lastFetched fetched id = some x) :
    (Cache.storedTo ((clusterSubnetsById s).slot (.text id)) (chosenStores s now chosen fetched)).getLast?
      = some (.subnet x, (clusterSubnetsById s).ttl.deadline now) := by
  have hmem : (Stored.subnet x, (clusterSubnetsById s).ttl.deadline now)
      ∈ Cache.storedTo ((clusterSubnetsById s).slot (.text id)) (chosenStores s now chosen fetched) :=
    List.mem_map.2 ⟨_, List.mem_filter.2 ⟨mem_chosenStores.2 ⟨id, hid, x, hlast, rfl⟩,
      decide_eq_true rfl⟩, rfl⟩
  obtain ⟨y, hy⟩ := Option.isSome_iff_exists.1 (List.getLast?_isSome.2 (List.ne_nil_of_mem hmem))
  rw [hy, eq_of_mem_storedTo hlast (List.mem_of_getLast? hy)]

theorem ne_of_mem_chosenStores {slot : Slot} (h : ∀ id ∈ chosen, lastFetched fetched id ≠ none →
      slot ≠ (clusterSubnetsById s).slot (.text id)) :
    ∀ w ∈ chosenStores s now chosen fetched, w.1 ≠ slot := by
  intro w hw hslot
  obtain ⟨id, hid, x, hx, rfl⟩ := mem_chosenStores.1 hw
  exact h id hid (by simp [hx]) hslot.symm

theorem isNone_or_live {live : Slot → Option Stored} {ids : List String} :
    (((Cache.storedTo ((clusterSubnetsById s).slot (.text id)) (chosenStores s now
        (chosenOf s live ids fetched) (answered s live ids fetched))).getLast?.map (·.1)).or
          (live ((clusterSubnetsById s).slot (.text id)))).isNone
      = (decide (id ∉ chosenOf s live ids fetched)
          && (live ((clusterSubnetsById s).slot (.text id))).isNone) := by
  cases hlive : live ((clusterSubnetsById s).slot (.text id)) with
  | some value => simp
  | none =>
    by_cases hchosen : id ∈ chosenOf s live ids fetched
    · -- It has a snapshot, which was fetched as none is live.
      obtain ⟨x, hx⟩ := exists_of_mem_firstInZones hchosen
      have hlast : lastFetched (answered s live ids fetched) id = some x := by
        unfold snapshotOf at hx
        rwa [hlive, Option.bind_none, Option.or_none] at hx
      rw [last_storedTo hchosen hlast]
      simp [hchosen]
    · have hother : ∀ other ∈ chosenOf s live ids fetched,
          lastFetched (answered s live ids fetched) other ≠ none →
            (clusterSubnetsById s).slot (.text id) ≠ (clusterSubnetsById s).slot (.text other) :=
        fun other hmem _ heq => hchosen (slot_inj heq ▸ hmem)
      rw [Cache.storedTo_eq_nil (ne_of_mem_chosenStores hother)]
      simp [hchosen]

end Stores

/-! ## The cache after a choice -/

theorem among_cache {s : Settings} (scheme : Scheme) {ids : List String} (st : State)
    {fetched : List (Key × Subnet)} (hids : ids.Nodup) (hfetched : fetchedIn st.remote = some fetched)
    (hlive : LiveById s st.live) :
    ∃ read, Cache.Used st.clock [] st.cache read ∧
      ((among s scheme ids).run.run st).2.cache = read.storeAll (chosenStores s st.clock
        (chosenOf s st.live ids fetched) (answered s st.live ids fetched)) := by
  obtain ⟨read, hread, hused⟩ := readSnapshots_does (clusterSubnetsById s) ids st
  simp only [Effect.of, State.sight, List.append_nil] at hread hused
  obtain ⟨later, hfetch, hmore⟩ :=
    fetchSnapshots_does ((clusterSubnetsById s).notLive st.live ids) { st with cache := read }
  simp only [State.sight, fetchEffect_of_fetched hfetched] at hfetch hmore
  refine ⟨later, hused.trans hmore, ?_⟩
  unfold among
  rw [Work.bind_run_ok hread]
  simp only
  rw [Work.bind_run_ok hfetch, Work.bind_cache fun admitted => (Work.check_uncached _).keepsCache,
    choose_run]
  simp only [chooseEffect_among st.clock fetched hids hlive]

/-- What becomes of the entries of a cache: the fetched candidates of a choice have their snapshots and the
deadline that belongs to the clock, and all others are as they were. -/
structure Remembers (s : Settings) (now : Float) (chosen : List String) (fetched : List (Key × Subnet))
    (before after : Cache Stored) : Prop where
  stored : ∀ id ∈ chosen, ∀ x, lastFetched fetched id = some x →
    ∃ e, after.find? ((clusterSubnetsById s).slot (.text id)) = some e ∧ e.value = .subnet x ∧
      e.deadline = (clusterSubnetsById s).ttl.deadline now
  kept : ∀ slot, (∀ id ∈ chosen, lastFetched fetched id ≠ none →
      slot ≠ (clusterSubnetsById s).slot (.text id)) →
    Cache.Kept now (before.find? slot) (after.find? slot)

theorem Remembers.of_storeAll {s : Settings} {now : Float} {chosen : List String}
    {fetched : List (Key × Subnet)} {before after : Cache Stored} (read : Cache Stored)
    (hafter : after = read.storeAll (chosenStores s now chosen fetched))
    (hused : Cache.Used now (chosenStores s now chosen fetched) before after) :
    Remembers s now chosen fetched before after where
  stored id hid x hlast := by
    have hfound := read.find?_storeAll (chosenStores s now chosen fetched)
      ((clusterSubnetsById s).slot (.text id))
    rw [← hafter, last_storedTo hid hlast, Option.some_or, Option.map_eq_some_iff] at hfound
    obtain ⟨e, he, heq⟩ := hfound
    obtain ⟨hvalue, hdeadline⟩ := Prod.mk.inj heq
    exact ⟨e, he, hvalue, hdeadline⟩
  kept slot h := hused.kept (ne_of_mem_chosenStores h)

end Lookup

namespace Operation

section Worlds

variable (s : Settings) (scheme : Lookup.Scheme) {m : Moment} {cache : Cache Stored} {ms : List Mapping}
  {fetched : List (Key × Subnet)}

theorem clusterSubnets_stores (hmapped : Lookup.mappedIn m.remote = some ms)
    (hfetched : Lookup.fetchedIn m.remote = some fetched) (hcache : SnapshotsById cache) :
    let ids := Mapping.candidates ms scheme.roleTag
    let live := (m.state cache).live
    ((Lookup.clusterEffect s (.str scheme.name) (m.state cache).sight).map
        fun found => Answer.value (.arr found)).stores
      = Lookup.chosenStores s m.clock (Lookup.chosenOf s live ids fetched)
          (Lookup.answered s live ids fetched) := by
  intro ids live
  exact congrArg Effect.stores
    (Lookup.clusterEffect_eq scheme (m.state cache).sight hmapped hfetched (hcache.live s m) rfl)

theorem clusterSubnets_used (hmapped : Lookup.mappedIn m.remote = some ms)
    (hfetched : Lookup.fetchedIn m.remote = some fetched) (hcache : SnapshotsById cache) :
    let ids := Mapping.candidates ms scheme.roleTag
    let live := (m.state cache).live
    Cache.Used m.clock (Lookup.chosenStores s m.clock (Lookup.chosenOf s live ids fetched)
        (Lookup.answered s live ids fetched))
      cache ((clusterSubnets (.str scheme.name)).cacheAfter s m cache) := by
  intro ids live
  have hused : Cache.Used m.clock _ cache ((clusterSubnets (.str scheme.name)).cacheAfter s m cache) :=
    cacheAfter_used m cache rfl
  rwa [clusterSubnets_stores s scheme hmapped hfetched hcache] at hused

theorem remembers_clusterSubnets (hmapped : Lookup.mappedIn m.remote = some ms)
    (hfetched : Lookup.fetchedIn m.remote = some fetched) (hcache : SnapshotsById cache) :
    let ids := Mapping.candidates ms scheme.roleTag
    let live := (m.state cache).live
    Lookup.Remembers s m.clock (Lookup.chosenOf s live ids fetched) (Lookup.answered s live ids fetched) cache
      ((clusterSubnets (.str scheme.name)).cacheAfter s m cache) := by
  intro ids live
  obtain ⟨hindex, -⟩ := Lookup.clusterIndex_of_mapped hmapped s.clusterName
  have hrun : (clusterIndex s.clusterName).run.run (m.state cache) = (.ok (.ofMappings ms),
      (m.state cache).adding ((clusterIndex s.clusterName).events m.remote)) :=
    (Lookup.clusterIndex_uncached _ _).trans (congrArg (Prod.mk · _) hindex)
  obtain ⟨read, -, hafter⟩ := Lookup.among_cache scheme
    ((m.state cache).adding ((clusterIndex s.clusterName).events m.remote))
    (Mapping.nodup_candidates ms scheme.roleTag) hfetched (hcache.live s m)
  refine .of_storeAll read (Eq.trans ?_ hafter) (clusterSubnets_used s scheme hmapped hfetched hcache)
  show ((Lookup.clusterSubnets s (.str scheme.name) >>= fun ids =>
    pure (Answer.value (.arr ids))).run.run (m.state cache)).2.cache = _
  rw [Work.bind_cache fun ids => (Work.pure_uncached _).keepsCache, Lookup.clusterSubnets_eq,
    Work.check_bind_run, Lookup.Scheme.ofJson_name]
  simp only
  rw [Work.bind_run_ok hrun, Lookup.candidates_ofMappings]

/-! ## The next lookup -/

theorem clusterSubnets_snapshotsById (hmapped : Lookup.mappedIn m.remote = some ms)
    (hfetched : Lookup.fetchedIn m.remote = some fetched) (hcache : SnapshotsById cache) :
    SnapshotsById ((clusterSubnets (.str scheme.name)).cacheAfter s m cache) := by
  have hused := clusterSubnets_used s scheme hmapped hfetched hcache
  refine hused.entries (P := fun slot value => slot.area = "ClusterSubnets" →
    ∃ x, value = .subnet x ∧ x.id = slot.key.toJson) hcache fun w hw _ => ?_
  obtain ⟨id, -, x, hlast, rfl⟩ := Lookup.mem_chosenStores.1 hw
  exact ⟨x, rfl, Lookup.id_of_fetchedFor hfetched hlast⟩

theorem clusterSubnets_live (hmapped : Lookup.mappedIn m.remote = some ms)
    (hfetched : Lookup.fetchedIn m.remote = some fetched) (hcache : SnapshotsById cache) {later : Moment}
    (hclock : later.clock = m.clock)
    (httl : ¬ (Lookup.clusterSubnetsById s).ttl.deadline m.clock ≤ m.clock) (slot : Slot) :
    let ids := Mapping.candidates ms scheme.roleTag
    let live := (m.state cache).live
    (later.state ((clusterSubnets (.str scheme.name)).cacheAfter s m cache)).live slot
      = ((Cache.storedTo slot (Lookup.chosenStores s m.clock (Lookup.chosenOf s live ids fetched)
          (Lookup.answered s live ids fetched))).getLast?.map (·.1)).or (live slot) := by
  intro ids live
  have hstores := clusterSubnets_stores s scheme hmapped hfetched hcache
  have heffect? : (clusterSubnets (.str scheme.name)).effect? s = some fun seen =>
      (Lookup.clusterEffect s (.str scheme.name) seen).map fun ids => .value (.arr ids) := rfl
  rw [← hstores]
  refine live_later heffect? ⟨fun _ h => hclock ▸ h, fun _ _ h => hclock ▸ h⟩ (fun w hw => ?_) slot
  rw [hstores] at hw
  obtain ⟨id, -, x, -, rfl⟩ := Lookup.mem_chosenStores.1 hw
  exact ⟨rfl, hclock ▸ httl⟩

theorem clusterSubnets_missing (hmapped : Lookup.mappedIn m.remote = some ms)
    (hfetched : Lookup.fetchedIn m.remote = some fetched) (hcache : SnapshotsById cache) {later : Moment}
    (hclock : later.clock = m.clock)
    (httl : ¬ (Lookup.clusterSubnetsById s).ttl.deadline m.clock ≤ m.clock) :
    let v := Lookup.clusterSubnetsById s
    let ids := Mapping.candidates ms scheme.roleTag
    let live := (m.state cache).live
    v.notLive (later.state ((clusterSubnets (.str scheme.name)).cacheAfter s m cache)).live ids
      = (v.notLive live ids).filter (· ∉ Lookup.chosenOf s live ids fetched) := by
  intro v ids live
  unfold View.notLive
  rw [List.filter_filter]
  refine List.filter_congr fun id _ => ?_
  rw [clusterSubnets_live s scheme hmapped hfetched hcache hclock httl]
  exact Lookup.isNone_or_live

end Worlds

/-- Whatever is cached, a lookup of the subnets of a cluster asks once for the candidates without a live
snapshot, if there are any, and remembers those of the answer that it chooses, also if they are too few. A
second lookup at the same time asks for the candidates that the first one asked for and did not choose. -/
theorem clusterSubnets_asks_and_keeps (s : Settings) (scheme : Lookup.Scheme) (m : Moment)
    (cache : Cache Stored) (ms : List Mapping) (fetched : List (Key × Subnet))
    (hmapped : Lookup.mappedIn m.remote = some ms) (hfetched : Lookup.fetchedIn m.remote = some fetched)
    (hcache : SnapshotsById cache) :
    let op := clusterSubnets (.str scheme.name)
    let v := Lookup.clusterSubnetsById s
    let ids := Mapping.candidates ms scheme.roleTag
    let live := (m.state cache).live
    let missing := ids.filter fun id => (live (v.slot (.text id))).isNone
    let chosen := Lookup.firstInZones (Lookup.snapshotOf s live ids fetched) ids
    let after := op.cacheAfter s m cache
    op.outcome s m cache = ((Lookup.conclusion s scheme chosen).map fun found => .value (.arr found),
        Lookup.tagRequest s.clusterName :: Lookup.subnetsRequest missing) ∧
      missing.Nodup ∧
      Lookup.Remembers s m.clock chosen (Lookup.fetchedFor missing fetched) cache after ∧
      ∀ (later : Moment) (others : List (Key × Subnet)), later.clock = m.clock →
        Lookup.mappedIn later.remote = some ms → Lookup.fetchedIn later.remote = some others →
          ¬ v.ttl.deadline m.clock ≤ m.clock →
            (op.outcome s later after).2
              = Lookup.tagRequest s.clusterName :: Lookup.subnetsRequest (missing.filter (· ∉ chosen)) := by
  intro op v ids live missing chosen after
  refine ⟨clusterSubnets_outcome s scheme hmapped hfetched hcache,
    (Mapping.nodup_candidates ms scheme.roleTag).filter _,
    remembers_clusterSubnets s scheme hmapped hfetched hcache, ?_⟩
  intro later others hclock hmappedLater hfetchedLater httl
  have hagain := clusterSubnets_outcome s scheme hmappedLater hfetchedLater
    (clusterSubnets_snapshotsById s scheme hmapped hfetched hcache)
  have hmissing := clusterSubnets_missing s scheme hmapped hfetched hcache hclock httl
  exact (congrArg Prod.snd hagain).trans (congrArg (_ :: Lookup.subnetsRequest ·) hmissing)

/-- Two of three candidates are asked for, and the one of them that lies in a zone of its own is not asked
for again. -/
theorem clusterSubnets_asks_and_keeps_othersKnown :
    let cache := sessionCache {} [.call (.clusterSubnets (.str "internal")) oneKnown]
    let op := clusterSubnets (.str "internal")
    (op.outcome {} othersKnown cache).2
        = Lookup.tagRequest "" :: Lookup.subnetsRequest ["s3", "s1"] ∧
      (op.outcome {} othersKnown (op.cacheAfter {} othersKnown cache)).2
        = Lookup.tagRequest "" :: Lookup.subnetsRequest ["s3"] := by
  intro cache op
  obtain ⟨hfirst, -, -, hagain⟩ := clusterSubnets_asks_and_keeps {} .internal othersKnown cache
    bothRoles othersFetched (by rfl) (by rfl) ((Formed.of_empty {}).run _).snapshotsById
  have hsecond := hagain othersKnown _ rfl (by rfl) (by rfl) (by decide +kernel)
  refine ⟨(congrArg Prod.snd hfirst).trans ?_, hsecond.trans ?_⟩
  · exact congrArg (_ :: Lookup.subnetsRequest ·) (by decide +kernel)
  · exact congrArg (_ :: Lookup.subnetsRequest ·) (by decide +kernel)

end Operation

end NetLookup
