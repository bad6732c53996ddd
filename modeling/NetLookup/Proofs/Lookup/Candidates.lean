import NetLookup.Proofs.Lookup.Cluster
import NetLookup.Proofs.Json.Parts
import Mathlib.Data.List.Nodup
import Mathlib.Data.List.Induction

/-! # The candidates of a cluster

A resource may be listed more than once. Its first mention gives it its place in the index, its last one the
tags. Several resources may have one id, which is a candidate once. -/

namespace NetLookup

/-! ## Lists without repeats -/

section Repeats

variable {β : Type} [DecidableEq β]

theorem eraseDups_snoc (as : List β) (a : β) :
    (as ++ [a]).eraseDups = if a ∈ as then as.eraseDups else as.eraseDups ++ [a] := by
  rw [List.eraseDups_append]
  by_cases ha : a ∈ as
  · simp [List.removeAll, ha]
  · simp [List.removeAll, ha, List.eraseDups_cons]

theorem nodup_eraseDups (as : List β) : as.eraseDups.Nodup := by
  induction as using List.reverseRecOn with
  | nil => exact List.nodup_nil
  | append_singleton as a ih =>
    rw [eraseDups_snoc]
    split
    · exact ih
    · rename_i hnew
      refine List.nodup_append.2 ⟨ih, List.nodup_singleton a, fun b hb c hc => ?_⟩
      obtain rfl := List.mem_singleton.1 hc
      rintro rfl
      exact hnew (List.mem_eraseDups.1 hb)

end Repeats

theorem Named.set_map {β : Type} {names : List String} (h : names.Nodup) (f : String → β) (name : String)
    (v : β) : Named.set (names.map fun k => (k, f k)) name v
      = (if name ∈ names then names else names ++ [name]).map
          fun k => (k, Function.update f name v k) := by
  induction names with
  | nil => simp [set]
  | cons first names ih =>
    obtain ⟨hfirst, hnames⟩ := List.nodup_cons.1 h
    rw [List.map_cons, set]
    by_cases heq : first = name
    · subst heq
      -- No other name is the first one, so the rest is left as it is.
      have hrest : names.map (fun k => (k, Function.update f first v k)) = names.map fun k => (k, f k) :=
        List.map_congr_left fun k hk => by
          rw [Function.update_of_ne (ne_of_mem_of_not_mem hk hfirst)]
      simp [hrest]
    · have hmem : name ∈ first :: names ↔ name ∈ names := by simp [Ne.symm heq]
      simp only [heq, if_false, ih hnames, hmem]
      split <;> simp [Function.update_of_ne heq]

/-! ## The index -/

def Tags.keys (tags : Tags) : List String := tags.filterMap (·.1.text?)

theorem Tags.hasKey_eq (tags : Tags) (key : String) : tags.hasKey key = decide (key ∈ tags.keys) := by
  rw [Bool.eq_iff_iff, decide_eq_true_iff]
  simp [hasKey, keys, Json.same_str_eq]

namespace Mapping

/-- The full names of the resources of a kind in the order of their first mentions. -/
def arnsOf (ms : List Mapping) (kind : ResourceKind) : List String :=
  ((ms.map (·.arn)).filter fun arn => ResourceKind.ofArn arn = kind).eraseDups

def lastTags (ms : List Mapping) (arn : String) : Tags :=
  ((ms.reverse.find? (·.arn == arn)).map (·.tags)).getD []

/-- The ids of the subnets that carry a tag, each once, in the order of their first mentions. -/
def candidates (ms : List Mapping) (tag : String) : List String :=
  (((arnsOf ms .subnet).filter fun arn => tag ∈ (lastTags ms arn).keys).map Arn.resourceId).eraseDups

theorem nodup_candidates (ms : List Mapping) (tag : String) : (candidates ms tag).Nodup :=
  nodup_eraseDups _

theorem lastTags_snoc (ms : List Mapping) (m : Mapping) :
    lastTags (ms ++ [m]) = Function.update (lastTags ms) m.arn m.tags := by
  funext arn
  unfold lastTags
  rw [List.reverse_append, List.reverse_singleton, List.singleton_append, List.find?_cons]
  by_cases h : arn = m.arn
  · subst h
    simp
  · have hne : (m.arn == arn) = false := by simpa using Ne.symm h
    simp [hne, Function.update_of_ne h]

theorem arnsOf_snoc (ms : List Mapping) (m : Mapping) (kind : ResourceKind) :
    arnsOf (ms ++ [m]) kind
      = if ResourceKind.ofArn m.arn = kind then
          if m.arn ∈ arnsOf ms kind then arnsOf ms kind else arnsOf ms kind ++ [m.arn]
        else arnsOf ms kind := by
  unfold arnsOf
  rw [List.map_append, List.filter_append]
  by_cases h : ResourceKind.ofArn m.arn = kind
  · simp only [List.map_cons, List.map_nil, List.filter_cons, h, decide_true, if_true, List.filter_nil,
      eraseDups_snoc, List.mem_eraseDups]
  · simp [h]

theorem ofArn_of_mem {ms : List Mapping} {kind : ResourceKind} {arn : String} (h : arn ∈ arnsOf ms kind) :
    ResourceKind.ofArn arn = kind := by
  have hmem := List.mem_eraseDups.1 h
  exact of_decide_eq_true (List.mem_filter.1 hmem).2

end Mapping

theorem ClusterIndex.ofMappings_eq (ms : List Mapping) (kind : ResourceKind) :
    ofMappings ms kind = (Mapping.arnsOf ms kind).map fun arn => (arn, Mapping.lastTags ms arn) := by
  induction ms using List.reverseRecOn with
  | nil => rfl
  | append_singleton ms m ih =>
    -- The last mapping is the last to be put into the index.
    have hstep : ofMappings (ms ++ [m]) kind
        = if kind = .ofArn m.arn then (ofMappings ms kind).set m.arn m.tags else ofMappings ms kind := by
      unfold ofMappings
      rw [List.foldl_append]
      rfl
    rw [hstep, Mapping.arnsOf_snoc, Mapping.lastTags_snoc, ih]
    by_cases h : kind = .ofArn m.arn
    · rw [if_pos h, if_pos h.symm]
      exact Named.set_map (nodup_eraseDups _) _ _ _
    · rw [if_neg h, if_neg (Ne.symm h)]
      -- A mapping of another kind tags none of these resources.
      refine List.map_congr_left fun arn harn => ?_
      have hne : arn ≠ m.arn := fun heq => h ((Mapping.ofArn_of_mem harn).symm.trans (by rw [heq]))
      rw [Function.update_of_ne hne]

namespace Lookup

theorem candidates_ofMappings (ms : List Mapping) (tag : String) :
    candidates (.ofMappings ms) tag = Mapping.candidates ms tag := by
  unfold candidates Mapping.candidates
  simp only [Tags.hasKey_eq]
  rw [ClusterIndex.ofMappings_eq, List.filter_map, List.map_map]
  rfl

/-- The request for the resources with the tag of a cluster. -/
def tagRequest (cluster : String) : Event :=
  .page .tagging "get_resources"
    [("TagFilters", .arr [.obj [("Key", .str ("kubernetes.io/cluster/" ++ cluster))]])]

/-- The tagged resources that a world has, unless it does not tell. -/
def mappedIn (w : Remote) : Option (List Mapping) :=
  (w.listed .tagging "get_resources" "ResourceTagMappingList").toOption.bind fun records =>
    (records.mapM Mapping.ofJson).toOption

theorem clusterIndex_asks (cluster : String) :
    (clusterIndex cluster).answer = (fun r =>
        ((r.listed .tagging "get_resources" "ResourceTagMappingList").mapError
          (·.named (.str "resourcegroupstaggingapi") (.str "get_resources") (clusterParams cluster))).bind
            fun records => (records.mapM Mapping.ofJson).map ClusterIndex.ofMappings) ∧
      (clusterIndex cluster).events
        = fun r => firstPage r .tagging "get_resources" (clusterParams cluster) := by
  refine (Work.Uncached.of_run fun st => ?_).2
  unfold clusterIndex
  rw [Work.bind_run, Work.listAll_run _ _ _ _ rfl]
  cases st.remote.listed .tagging "get_resources" "ResourceTagMappingList" with
  | error e => rfl
  | ok records =>
    simp only [mapError_ok, Except.bind]
    rw [Work.check_bind_run]
    cases records.mapM Mapping.ofJson with
    | error e => rfl
    | ok mappings => rfl

theorem clusterIndex_of_mapped {r : Remote} {ms : List Mapping} (h : mappedIn r = some ms)
    (cluster : String) :
    (clusterIndex cluster).answer r = .ok (.ofMappings ms) ∧
      (clusterIndex cluster).events r = [tagRequest cluster] := by
  obtain ⟨records, hlisted, hrecords⟩ := Option.bind_eq_some_iff.1 h
  have hlisted := ok_of_toOption hlisted
  obtain ⟨hanswer, hevents⟩ := clusterIndex_asks cluster
  rw [hanswer, hevents]
  simp only [hlisted, mapError_ok, Except.bind, ok_of_toOption hrecords]
  refine ⟨rfl, ?_⟩
  rw [firstPage, Remote.starts_of_listed hlisted, if_pos rfl]
  rfl

end Lookup

end NetLookup
