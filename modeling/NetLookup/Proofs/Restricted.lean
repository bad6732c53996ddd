import NetLookup.Proofs.Blame
import NetLookup.Proofs.Lookup.Candidates

/-! # Listings are restricted

A listing that nothing restricts answers with all that the account has. Lookups put their batches together
from arguments and from what the cache lacks, so a batch can come out empty. All of them but one then ask
for nothing. -/

namespace NetLookup

variable {α β : Type}

/-! ## Restrictions -/

def Json.listsSome : Json → Bool
  | .arr items => !items.isEmpty
  | _ => false

def Filter.listsSome : Json → Bool
  | .obj fields => (fields.lookup "Values").any Json.listsSome
  | _ => false

def idLists : List String := ["InstanceIds", "VpcIds", "GroupIds"]

/-- Whether a parameter restricts a listing: it lists some ids, or filters each of which lists some
values. -/
def restricts : String × Json → Bool
  | ("Filters", .arr filters) => !filters.isEmpty && filters.all Filter.listsSome
  | (name, ids) => idLists.contains name && ids.listsSome

/-- A listing of the main interface has restrictions, and none of its lists is empty. -/
def Event.Restricted : Event → Prop
  | .page .ec2 _ params => params ≠ [] ∧ ∀ p ∈ params, restricts p = true
  | _ => True

/-! ## Requests of each shape -/

theorem restricts_ids {name : String} (hname : name ∈ idLists) {ids : List Json} (h : ids ≠ []) :
    restricts (name, .arr ids) = true := by
  obtain ⟨id, rest, rfl⟩ := List.exists_cons_of_ne_nil h
  simp only [idLists, List.mem_cons, List.not_mem_nil, or_false] at hname
  rcases hname with rfl | rfl | rfl <;> rfl

theorem restricted_ids {operation name : String} (hname : name ∈ idLists) {ids : List Json}
    (h : ids ≠ []) : (Event.page .ec2 operation [(name, .arr ids)]).Restricted := by
  refine ⟨List.cons_ne_nil _ _, fun p hp => ?_⟩
  obtain rfl := List.mem_singleton.1 hp
  exact restricts_ids hname h

theorem listsSome_entry (name : String) {values : List Json} (h : values ≠ []) :
    Filter.listsSome (Filter.entry name values) = true := by
  obtain ⟨value, rest, rfl⟩ := List.exists_cons_of_ne_nil h
  rfl

theorem restricted_filters {operation : String} {filters : List Json} (hsome : filters ≠ [])
    (h : ∀ filter ∈ filters, Filter.listsSome filter = true) :
    (Event.page .ec2 operation (Filter.params filters)).Restricted := by
  refine ⟨List.cons_ne_nil _ _, fun p hp => ?_⟩
  obtain rfl := List.mem_singleton.1 hp
  have hall : filters.all Filter.listsSome = true := List.all_eq_true.2 h
  simp [restricts, hsome, hall]

theorem restricted_named {operation : String} {names : List String} (h : names ≠ []) (network : Json) :
    (Event.page .ec2 operation (Lookup.namedParams names network)).Restricted := by
  refine restricted_filters (List.cons_ne_nil _ _) fun filter hfilter => ?_
  rcases List.mem_cons.1 hfilter with rfl | hfilter
  · exact listsSome_entry _ (by simpa using h)
  · obtain rfl := List.mem_singleton.1 hfilter
    exact listsSome_entry _ (List.cons_ne_nil _ _)

/-! ## Effects -/

def AllRestricted (events : List Event) : Prop := ∀ event ∈ events, event.Restricted

theorem restricted_nil : AllRestricted [] := fun _ hevent => by cases hevent

theorem restricted_append {before after : List Event} (hbefore : AllRestricted before)
    (hafter : AllRestricted after) : AllRestricted (before ++ after) := by
  intro event hevent
  rcases List.mem_append.1 hevent with hevent | hevent
  · exact hbefore event hevent
  · exact hafter event hevent

theorem restricted_firstPage {api : Api} {operation : String} {params : Fields}
    (h : (Event.page api operation params).Restricted) (r : Remote) :
    AllRestricted (firstPage r api operation params) := by
  intro event hevent
  unfold firstPage at hevent
  split at hevent
  · obtain rfl := List.mem_singleton.1 hevent
    exact h
  · cases hevent

theorem Effect.andThen_restricted {E : Effect α} {F : α → Effect β} (hE : AllRestricted E.events)
    (hF : ∀ a, AllRestricted (F a).events) : AllRestricted (E.andThen F).events := by
  unfold Effect.andThen
  cases E.answer with
  | error e => exact hE
  | ok a => exact restricted_append hE (hF a)

/-! ## Lookups -/

section Lookups

variable {s : Settings} {seen : Sight}

theorem judged_restricted {operation key : String} {params : Fields}
    (hparams : Listing.anySaid [Listing.ownName] params = false)
    (h : (Event.page .ec2 operation params).Restricted) (judge : List Json → Except Failure α)
    (r : Remote) : AllRestricted ((judged operation key params judge).events r) := by
  rw [judged_events operation key judge hparams]
  exact restricted_firstPage h r

theorem View.orAskEffect_restricted {v : View} {key : String} {use : Stored → β}
    {ask : Work (β × Option Stored)} (h : AllRestricted (ask.events seen.remote)) :
    AllRestricted (v.orAskEffect key use ask seen).events := by
  unfold orAskEffect
  split
  · exact restricted_nil
  · exact h

namespace Lookup

theorem askNetwork_restricted (s : Settings) (r : Remote) : AllRestricted ((askNetwork s).events r) := by
  rw [askNetwork_events]
  refine restricted_append (fun event hevent => ?_) ?_
  · -- The metadata service lists nothing.
    unfold MetadataService.requests at hevent
    rcases List.mem_cons.1 hevent with rfl | hevent
    · trivial
    · split at hevent
      · obtain rfl := List.mem_singleton.1 hevent
        trivial
      · cases hevent
  · split
    · exact judged_restricted rfl (restricted_ids (by simp [idLists]) (List.cons_ne_nil _ _)) _ r
    · exact restricted_nil

theorem networkEffect_restricted (s : Settings) (seen : Sight) :
    AllRestricted (networkEffect s seen).events := by
  unfold networkEffect
  split
  · exact restricted_nil
  · exact View.orAskEffect_restricted (askNetwork_restricted s seen.remote)

theorem fetchEffect_restricted (missing : List String) (r : Remote) :
    AllRestricted (fetchEffect missing r).events := by
  unfold fetchEffect
  by_cases hnone : missing.isEmpty = true
  · simp only [hnone, if_true]
    exact restricted_nil
  · simp only [hnone, Bool.false_eq_true, if_false]
    refine Effect.andThen_restricted (restricted_firstPage ?_ r) fun _ => restricted_nil
    refine restricted_filters (List.cons_ne_nil _ _) fun filter hfilter => ?_
    obtain rfl := List.mem_singleton.1 hfilter
    exact listsSome_entry _ (by simpa using hnone)

theorem clusterEffect_restricted (s : Settings) (scheme : Json) (seen : Sight) :
    AllRestricted (clusterEffect s scheme seen).events := by
  refine Effect.andThen_restricted restricted_nil fun asked => ?_
  refine Effect.andThen_restricted ?_ fun index => ?_
  · -- The index is listed by another interface.
    have hother : (Event.page .tagging "get_resources" (clusterParams s.clusterName)).Restricted := trivial
    simp only [(clusterIndex_asks s.clusterName).2]
    exact restricted_firstPage hother seen.remote
  · refine Effect.andThen_restricted (fetchEffect_restricted _ _) fun fetched => ?_
    refine Effect.andThen_restricted ?_ fun admitted => restricted_nil
    rw [chooseEffect_events]
    exact restricted_nil

theorem instances_eq (ids : List String) :
    instances ids = judged "describe_instances" "Reservations" [("InstanceIds", .arr (ids.map .str))]
      fun reservations => (reservations.mapM instancesOf).map List.flatten := by
  unfold instances judged
  exact bind_congr fun reservations => (Work.check_map _ _).symm

theorem describeGroups_events (id : String) : (describeGroups (groupParams id)).events
    = fun r => firstPage r .ec2 "describe_security_groups" (groupParams id) :=
  (Work.listAll_asks .ec2 mainService "describe_security_groups" "SecurityGroups" rfl).2.2

end Lookup

theorem NameLookup.effect_restricted (n : NameLookup) (s : Settings) (names : List String)
    (seen : Sight) : AllRestricted (n.effect s names seen).events := by
  by_cases hmissing : n.missing s seen names = []
  · rw [effect_of_live hmissing]
    exact restricted_nil
  · rw [effect_of_missing hmissing]
    refine Effect.andThen_restricted (Lookup.networkEffect_restricted s seen) fun network => ?_
    exact Effect.andThen_restricted (restricted_firstPage (restricted_named hmissing network) seen.remote)
      fun records => restricted_nil

end Lookups

/-! ## All operations -/

namespace Operation

variable {s : Settings} {op : Operation} {m : Moment} {cache : Cache Stored}

theorem restricted_id {name : String} (hname : name ∈ idLists) (operation id : String) :
    (Event.page .ec2 operation [(name, .arr [.str id])]).Restricted :=
  restricted_ids hname (List.cons_ne_nil _ _)

theorem effect_restricted {E : Sight → Effect Answer} (heffect : op.effect? s = some E) (seen : Sight) :
    AllRestricted (E seen).events := by
  cases op with
  | subnets names =>
    obtain rfl := Option.some.inj heffect
    exact NameLookup.subnets.effect_restricted s names seen
  | securityGroups names =>
    obtain rfl := Option.some.inj heffect
    exact NameLookup.groups.effect_restricted s names seen
  | clusterSubnets scheme =>
    obtain rfl := Option.some.inj heffect
    exact Lookup.clusterEffect_restricted s scheme seen
  | vpcId =>
    obtain rfl := Option.some.inj heffect
    exact Lookup.networkEffect_restricted s seen
  | vpc id =>
    obtain rfl := Option.some.inj heffect
    have hasked : AllRestricted ((Lookup.askVpc id).events seen.remote) :=
      judged_restricted rfl (restricted_id (by simp [idLists]) _ id) _ _
    exact View.orAskEffect_restricted hasked
  | nodeHealthy id =>
    obtain rfl := Option.some.inj heffect
    have hasked : AllRestricted ((Lookup.askHealth id).events seen.remote) :=
      judged_restricted rfl (restricted_id (by simp [idLists]) _ id) _ _
    exact View.orAskEffect_restricted hasked
  | _ => cases heffect

theorem events_instances (ids : List String) : ((instances ids).outcome s m cache).2
    = firstPage m.remote .ec2 "describe_instances" [("InstanceIds", .arr (ids.map .str))] := by
  rw [outcome_alone rfl (Lookup.instances_uncached ids)]
  simp only [Lookup.instances_eq]
  rw [judged_events _ _ _ rfl]

theorem alone_restricted (heffect : op.effect? s = none) (hids : op ≠ .instances []) :
    AllRestricted (op.outcome s m cache).2 := by
  cases op with
  | securityGroupById id =>
    obtain ⟨huncached, -, hevents⟩ := Lookup.securityGroupById_asks id
    rw [outcome_alone rfl huncached]
    simp only [hevents, Lookup.describeGroups_events]
    exact restricted_firstPage (restricted_id (by simp [idLists]) _ id) m.remote
  | securityGroupByName network name =>
    rw [outcome_alone rfl (judged_uncached _ _ Lookup.firstGroup rfl)]
    refine judged_restricted rfl (restricted_filters (List.cons_ne_nil _ _) fun filter hfilter => ?_) _ _
    rcases List.mem_cons.1 hfilter with rfl | hfilter
    · exact listsSome_entry _ (List.cons_ne_nil _ _)
    · obtain rfl := List.mem_singleton.1 hfilter
      exact listsSome_entry _ (List.cons_ne_nil _ _)
  | deleteSecurityGroup id =>
    rw [outcome_deleteSecurityGroup]
    intro event hevent
    rcases Lookup.mem_callsWithWaits hevent with rfl | ⟨wait, rfl⟩
    · trivial
    · trivial
  | instances ids =>
    have hsome : ids.map Json.str ≠ [] := by simpa using hids
    rw [events_instances]
    exact restricted_firstPage (restricted_ids (by simp [idLists]) hsome) m.remote
  | status =>
    rw [outcome_alone rfl Lookup.status_asks.1]
    simp only [Lookup.status_asks.2.2]
    intro event hevent
    obtain rfl := List.mem_singleton.1 hevent
    trivial
  | _ => cases heffect

/-- All requests but one are restricted, whatever the cache holds and the remote side answers. That one is
for the instances with none of any ids. -/
theorem unrestricted_iff (s : Settings) (op : Operation) (m : Moment) (cache : Cache Stored) :
    (∃ event ∈ (op.outcome s m cache).2, ¬ event.Restricted)
      ↔ op = .instances [] ∧ m.remote.starts .ec2 "describe_instances" = true := by
  constructor
  · rintro ⟨event, hevent, hunrestricted⟩
    have hop : op = .instances [] := by
      by_contra hids
      have hall : AllRestricted (op.outcome s m cache).2 := by
        cases heffect : op.effect? s with
        | some E =>
          rw [op.outcome_eq _ _ heffect]
          exact effect_restricted heffect _
        | none => exact alone_restricted heffect hids
      exact hunrestricted (hall event hevent)
    subst hop
    rw [events_instances] at hevent
    unfold firstPage at hevent
    split at hevent
    · exact ⟨rfl, ‹_›⟩
    · cases hevent
  · rintro ⟨rfl, hstarts⟩
    refine ⟨.page .ec2 "describe_instances" [("InstanceIds", .arr [])], ?_, ?_⟩
    · rw [events_instances, firstPage, if_pos hstarts]
      exact List.mem_singleton_self _
    · rintro ⟨-, hall⟩
      exact absurd (hall _ (List.mem_singleton_self _)) (by decide)

def oneInstance : Remote where
  pages _ operation :=
    if operation = "describe_instances" then
      [.obj [("Reservations", .arr [.obj [("Instances", .arr [.obj [("InstanceId", .str "i-1")]])]])]]
    else []
  outage _ _ := none
  deletion _ := none
  tagsFailure := none
  token := ⟨none, none, "", .ok .null⟩
  identity := ⟨none, none, "", .ok .null⟩

/-- No ids are asked for, and an instance is answered. -/
theorem unrestricted_noIds :
    (∃ event ∈ ((instances []).outcome {} ⟨oneInstance, 0, fun _ => 0⟩ (sessionCache {} [])).2,
        ¬ event.Restricted) ∧
      ∃ answered, ((instances []).outcome {} ⟨oneInstance, 0, fun _ => 0⟩ (sessionCache {} [])).1
        = .ok (.instances [answered]) ∧ answered.id = .str "i-1" :=
  ⟨⟨.page .ec2 "describe_instances" [("InstanceIds", .arr [])], List.mem_singleton_self _,
    fun h => absurd (h.2 _ (List.mem_singleton_self _)) (by decide)⟩, _, rfl, rfl⟩

end Operation

end NetLookup
