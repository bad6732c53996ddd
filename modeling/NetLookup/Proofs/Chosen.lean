import NetLookup.Proofs.Contents
import NetLookup.Proofs.Lookup.Candidates
import NetLookup.Proofs.Lookup.Zones

/-! # Which subnets are chosen for a cluster

The candidates come from the tags, their snapshots from the request for those that are not cached and from
the cache. Of all that, the choice is the first candidate of each zone, in ascending order. -/

namespace NetLookup

def SnapshotsById (cache : Cache Stored) : Prop :=
  ∀ e ∈ cache.entries, e.slot.area = "ClusterSubnets" →
    ∃ x, e.value = .subnet x ∧ x.id = e.slot.key.toJson

theorem Formed.snapshotsById {s : Settings} {cache : Cache Stored} (h : Formed s cache) :
    SnapshotsById cache := by
  intro e he harea
  obtain ⟨id, x, hkey, hvalue, hid⟩ := (h e he).of_snapshot harea
  exact ⟨x, hvalue, by rw [hid, hkey]; rfl⟩

namespace Lookup

/-! ## The snapshots of candidates -/

/-- What is fetched for missing candidates: all that is listed, or nothing if none is missing. -/
def fetchedFor (missing : List String) (fetched : List (Key × Subnet)) : List (Key × Subnet) :=
  if missing = [] then [] else fetched

def answered (s : Settings) (live : Slot → Option Stored) (ids : List String)
    (fetched : List (Key × Subnet)) : List (Key × Subnet) :=
  fetchedFor ((clusterSubnetsById s).notLive live ids) fetched

/-- The snapshot of a candidate: the last one that was fetched, or else the live one. -/
def snapshotOf (s : Settings) (live : Slot → Option Stored) (ids : List String)
    (fetched : List (Key × Subnet)) (id : String) : Option Subnet :=
  (lastFetched (answered s live ids fetched) id).or
    ((live ((clusterSubnetsById s).slot (.text id))).bind (·.asSubnet.toOption))

def LiveById (s : Settings) (live : Slot → Option Stored) : Prop :=
  ∀ id value, live ((clusterSubnetsById s).slot (.text id)) = some value →
    ∃ x, value = .subnet x ∧ x.id = .str id

section Snapshots

variable {s : Settings} {live : Slot → Option Stored} {ids : List String} {r : Remote}
  {fetched : List (Key × Subnet)} {id : String} {x : Subnet}

theorem standing_snapshotOf (fetched : List (Key × Subnet)) (hlive : LiveById s live) (hid : id ∈ ids) :
    standing (answered s live ids fetched) (liveSnapshots (clusterSubnetsById s) live ids) id
      = .ok (snapshotOf s live ids fetched id) := by
  unfold standing snapshotOf
  rw [lookup_liveSnapshots, if_pos hid]
  cases lastFetched (answered s live ids fetched) id with
  | some x => rfl
  | none =>
    cases hvalue : live ((clusterSubnetsById s).slot (.text id)) with
    | none => rfl
    | some value =>
      obtain ⟨x, rfl, -⟩ := hlive id value hvalue
      rfl

theorem id_of_fetchedFor {missing : List String} (hfetched : fetchedIn r = some fetched)
    (h : lastFetched (fetchedFor missing fetched) id = some x) : x.id = .str id := by
  unfold fetchedFor at h
  split at h
  · cases h
  · exact id_of_lastFetched hfetched h

theorem id_of_snapshotOf (hfetched : fetchedIn r = some fetched) (hlive : LiveById s live)
    (h : snapshotOf s live ids fetched id = some x) : x.id = .str id := by
  unfold snapshotOf at h
  rcases Option.or_eq_some_iff.1 h with hlast | ⟨-, hvalue⟩
  · exact id_of_fetchedFor hfetched hlast
  · obtain ⟨value, hvalue, hx⟩ := Option.bind_eq_some_iff.1 hvalue
    obtain ⟨y, rfl, hy⟩ := hlive id value hvalue
    obtain rfl := Option.some.inj hx
    exact hy

end Snapshots

/-! ## The choice -/

def chosenOf (s : Settings) (live : Slot → Option Stored) (ids : List String)
    (fetched : List (Key × Subnet)) : List String :=
  firstInZones (snapshotOf s live ids fetched) ids

def chosenStores (s : Settings) (now : Float) (chosen : List String) (fetched : List (Key × Subnet)) :
    List (Cache.Store Stored) :=
  chosen.filterMap (storeOf (clusterSubnetsById s) now fetched)

theorem chooseEffect_among {s : Settings} {live : Slot → Option Stored} {ids : List String} (now : Float)
    (fetched : List (Key × Subnet)) (hids : ids.Nodup) (hlive : LiveById s live) :
    chooseEffect (clusterSubnetsById s) now (fetchedFor ((clusterSubnetsById s).notLive live ids) fetched)
        (liveSnapshots (clusterSubnetsById s) live ids) ids []
      = ⟨.ok ((chosenOf s live ids fetched).filterMap (snapshotOf s live ids fetched)), [],
        chosenStores s now (chosenOf s live ids fetched) (answered s live ids fetched)⟩ :=
  chooseEffect_eq _ now (fun _ hid => standing_snapshotOf fetched hlive hid) hids

/-! ## The effect -/

def subnetsRequest (missing : List String) : List Event :=
  if missing = [] then []
  else
    [.page .ec2 "describe_subnets" [("Filters",
      .arr [.obj [("Name", .str "subnet-id"), ("Values", .arr (missing.map .str))]])]]

theorem fetchEffect_of_fetched {r : Remote} {fetched : List (Key × Subnet)}
    (h : fetchedIn r = some fetched) (missing : List String) :
    fetchEffect missing r = ⟨.ok (fetchedFor missing fetched), subnetsRequest missing, []⟩ := by
  obtain ⟨records, hlisted, hrecords⟩ := Option.bind_eq_some_iff.1 h
  have hlisted := ok_of_toOption hlisted
  unfold fetchEffect fetchedFor subnetsRequest
  by_cases hnone : missing = []
  · simp [hnone, Effect.of]
  · have hsome : missing.isEmpty = false := by simpa using hnone
    simp only [hsome, Bool.false_eq_true, if_false, hnone]
    simp [describeEffect, hlisted, mapError_ok, Effect.andThen, Effect.of, ok_of_toOption hrecords,
      firstPage, Remote.starts_of_listed hlisted, Filter.params, Filter.entry]

def ascending (chosen : List String) : List String := chosen.mergeSort Json.textLe

def conclusion (s : Settings) (scheme : Scheme) (chosen : List String) : Except Failure (List Json) :=
  if minimalCount ≤ chosen.length then .ok ((ascending chosen).map .str)
  else .error (insufficient s scheme ((ascending chosen).map .str))

theorem finished_eq (s : Settings) (scheme : Scheme) {admitted : List Subnet} {chosen : List String}
    (h : admitted.map (·.id) = chosen.map .str) :
    finished s scheme admitted = conclusion s scheme chosen := by
  unfold finished conclusion ascending
  rw [h, Json.sorted_texts]
  simp only [Except.bind, List.length_map, List.length_mergeSort]
  by_cases hmany : minimalCount ≤ chosen.length
  · rw [if_pos hmany, if_neg (by omega)]
  · rw [if_neg hmany, if_pos (by omega)]

section Worlds

variable {s : Settings} {seen : Sight} {ms : List Mapping} {fetched : List (Key × Subnet)}
  {ids : List String}

theorem map_id_chosenOf (hfetched : fetchedIn seen.remote = some fetched) (hlive : LiveById s seen.live) :
    ((chosenOf s seen.live ids fetched).filterMap (snapshotOf s seen.live ids fetched)).map (·.id)
      = (chosenOf s seen.live ids fetched).map .str := by
  rw [List.map_filterMap, ← List.filterMap_eq_map]
  refine List.filterMap_congr fun id hid => ?_
  obtain ⟨x, hx⟩ := exists_of_mem_firstInZones hid
  rw [hx]
  exact congrArg some (id_of_snapshotOf hfetched hlive hx)

theorem amongEffect_eq (scheme : Scheme) (hids : ids.Nodup)
    (hfetched : fetchedIn seen.remote = some fetched) (hlive : LiveById s seen.live) :
    amongEffect s scheme ids seen = ⟨conclusion s scheme (chosenOf s seen.live ids fetched),
      subnetsRequest ((clusterSubnetsById s).notLive seen.live ids),
      chosenStores s seen.clock (chosenOf s seen.live ids fetched) (answered s seen.live ids fetched)⟩ := by
  unfold amongEffect
  simp only [fetchEffect_of_fetched hfetched, Effect.andThen,
    chooseEffect_among seen.clock fetched hids hlive, Effect.of]
  rw [finished_eq s scheme (map_id_chosenOf hfetched hlive)]
  simp only [List.append_nil, List.nil_append]

theorem clusterEffect_eq (scheme : Scheme) (seen : Sight) (hmapped : mappedIn seen.remote = some ms)
    (hfetched : fetchedIn seen.remote = some fetched) (hlive : LiveById s seen.live)
    (hids : ids = Mapping.candidates ms scheme.roleTag) :
    clusterEffect s (.str scheme.name) seen = ⟨conclusion s scheme (chosenOf s seen.live ids fetched),
      .page .tagging "get_resources" (clusterParams s.clusterName) ::
        subnetsRequest ((clusterSubnetsById s).notLive seen.live ids),
      chosenStores s seen.clock (chosenOf s seen.live ids fetched) (answered s seen.live ids fetched)⟩ := by
  obtain ⟨hindex, hasked⟩ := clusterIndex_of_mapped hmapped s.clusterName
  have hnodup : ids.Nodup := hids ▸ Mapping.nodup_candidates ms scheme.roleTag
  unfold clusterEffect
  rw [Effect.of_andThen, Scheme.ofJson_name]
  simp only [hindex, hasked, Effect.andThen, candidates_ofMappings]
  rw [← hids, amongEffect_eq scheme hnodup hfetched hlive]
  rfl

end Worlds

end Lookup

/-! ## The answer -/

theorem SnapshotsById.live {cache : Cache Stored} (h : SnapshotsById cache) (s : Settings) (m : Moment) :
    Lookup.LiveById s (m.state cache).live := by
  intro id value hlive
  obtain ⟨e, he, hslot, rfl⟩ := State.exists_entry_of_live hlive
  obtain ⟨x, hvalue, hid⟩ := h e he (by rw [hslot]; rfl)
  exact ⟨x, hvalue, by rw [hid, hslot]; rfl⟩

namespace Operation

theorem clusterSubnets_outcome (s : Settings) (scheme : Lookup.Scheme) {m : Moment} {cache : Cache Stored}
    {ms : List Mapping} {fetched : List (Key × Subnet)} (hmapped : Lookup.mappedIn m.remote = some ms)
    (hfetched : Lookup.fetchedIn m.remote = some fetched) (hcache : SnapshotsById cache) :
    let ids := Mapping.candidates ms scheme.roleTag
    let live := (m.state cache).live
    (clusterSubnets (.str scheme.name)).outcome s m cache
      = ((Lookup.conclusion s scheme (Lookup.chosenOf s live ids fetched)).map
          fun found => .value (.arr found),
        .page .tagging "get_resources" (clusterParams s.clusterName) ::
          Lookup.subnetsRequest ((Lookup.clusterSubnetsById s).notLive live ids)) := by
  intro ids live
  have heffect := Lookup.clusterEffect_eq scheme (m.state cache).sight hmapped hfetched (hcache.live s m) rfl
  rw [outcome_eq m cache rfl, heffect]
  rfl

def tagged (role : String) (ids : List String) : List Mapping :=
  ids.map fun id => ⟨"arn:aws:ec2:east:1:subnet/" ++ id, [(.str role, .str "1")]⟩

/-- Three subnets for internal load balancers, after one for those that face the internet. -/
def bothRoles : List Mapping :=
  tagged "kubernetes.io/role/elb" ["s0"] ++ tagged "kubernetes.io/role/internal-elb" ["s2", "s3", "s1"]

def taggedRecord (m : Mapping) : Json :=
  .obj [("ResourceARN", .str m.arn),
    ("Tags", .arr (m.tags.map fun t => .obj [("Key", t.1), ("Value", t.2)]))]

def zoned (p : String × String) : Subnet := ⟨.str p.1, .str p.2, .str "", .str "", []⟩

def zonedRecord (p : String × String) : Json :=
  .obj [("SubnetId", .str p.1), ("AvailabilityZone", .str p.2)]

def zonedWorld (listed : List (String × String)) : Remote where
  pages
    | .tagging, _ => [.obj [("ResourceTagMappingList", .arr (bothRoles.map taggedRecord))]]
    | .ec2, _ => [.obj [("Subnets", .arr (listed.map zonedRecord))]]
  outage _ _ := none
  deletion _ := none
  tagsFailure := none
  token := ⟨none, none, "", .ok .null⟩
  identity := ⟨none, none, "", .ok .null⟩

def oneKnown : Moment := ⟨zonedWorld [("s2", "a")], 5, fun _ => 0⟩

def othersKnown : Moment := ⟨zonedWorld [("s0", "c"), ("s1", "b"), ("s3", "a")], 6, fun _ => 0⟩

def othersFetched : List (Key × Subnet) :=
  [(.text "s0", zoned ("s0", "c")), (.text "s1", zoned ("s1", "b")), (.text "s3", zoned ("s3", "a"))]

end Operation

end NetLookup
