import NetLookup.Proofs.Lookup.Cluster

/-! # Sessions

A session is any number of operations, one after another, with purges between them. Only the cache lasts
from one operation to the next: the remote side and the clock may be others each time. -/

namespace NetLookup

/-! ## Areas -/

theorem View.slot_ne_of_area {v u : View} (h : v.area ≠ u.area) (key other : Key) :
    v.slot key ≠ u.slot other :=
  fun heq => h (congrArg Slot.area heq)

namespace Lookup

@[simp] theorem area_subnetIds (s : Settings) : (subnetIds s).area = "EC2.GetSubnets" := rfl

@[simp] theorem area_groupIds (s : Settings) : (groupIds s).area = "EC2.GetSecurityGroups" := rfl

@[simp] theorem area_vpcIds (s : Settings) : (vpcIds s).area = "EC2.GetVPCID" := rfl

@[simp] theorem area_vpcs (s : Settings) : (vpcs s).area = "EC2.GetVPC" := rfl

@[simp] theorem area_verdicts (s : Settings) : (verdicts s).area = "EC2.IsNodeHealthy" := rfl

@[simp] theorem area_clusterSubnetsById (s : Settings) :
    (clusterSubnetsById s).area = "ClusterSubnets" := rfl

/-! ## Operations that leave the cache alone -/

theorem describeGroups_uncached {params : Fields}
    (h : Listing.anySaid [Listing.ownName] params = false) : (describeGroups params).Uncached :=
  (Work.listAll_asks _ _ _ _ h).1

theorem noneIfUnknown_uncached (e : Failure) : (noneIfUnknown e).Uncached := by
  cases e with
  | transport request cause =>
    refine (Work.check_uncached _).bind fun missing => ?_
    cases missing with
    | true => exact Work.pure_uncached []
    | false => exact Work.throw_uncached _
  | _ => exact Work.throw_uncached _

theorem securityGroupById_keepsCache (id : String) : (securityGroupById id).KeepsCache := by
  refine Work.KeepsCache.bind ?_ fun records => (Work.check_uncached _).keepsCache
  exact (describeGroups_uncached rfl).keepsCache.tryCatch fun e => (noneIfUnknown_uncached e).keepsCache

theorem securityGroupByName_keepsCache (network name : String) :
    (securityGroupByName network name).KeepsCache :=
  (describeGroups_uncached rfl).keepsCache.bind fun _ => (Work.check_uncached _).keepsCache

theorem deleteSecurityGroup_keepsCache (s : Settings) (id : String) :
    (deleteSecurityGroup s id).KeepsCache := by
  intro st
  unfold deleteSecurityGroup
  rw [Work.bind_run_ok (Work.get_run st)]
  rfl

theorem instances_keepsCache (ids : List String) : (instances ids).KeepsCache :=
  (Work.listAll_asks _ _ _ _ rfl).1.keepsCache.bind fun _ =>
    (Work.check_uncached _).keepsCache.bind fun _ => (Work.pure_uncached _).keepsCache

theorem status_keepsCache : status.KeepsCache := by
  intro st
  unfold status
  rw [Work.bind_run_ok (Work.perform_run _ st), Work.bind_run_ok (Work.get_run _)]
  cases st.remote.tagsFailure with
  | none => rfl
  | some e => rfl

end Lookup

namespace Operation

/-! ## Operations by their effects -/

/-- The effect of an operation, if it uses the cache. -/
def effect? (s : Settings) : Operation → Option (Sight → Effect Answer)
  | .subnets names =>
    some fun seen => (Lookup.subnetsEffect s names seen).map fun ids => .value (.arr ids)
  | .clusterSubnets scheme =>
    some fun seen => (Lookup.clusterEffect s scheme seen).map fun ids => .value (.arr ids)
  | .securityGroups names =>
    some fun seen => (Lookup.groupsEffect s names seen).map fun ids => .value (.arr ids)
  | .vpcId => some fun seen => (Lookup.networkEffect s seen).map .value
  | .vpc id => some fun seen =>
    ((Lookup.vpcs s).orAskEffect id (·) (Lookup.askVpc id) seen).map .stored
  | .nodeHealthy id => some fun seen =>
    ((Lookup.verdicts s).orAskEffect id Stored.toJson (Lookup.askHealth id) seen).map .value
  | _ => none

theorem run_does {s : Settings} {op : Operation} {E : Sight → Effect Answer}
    (h : op.effect? s = some E) : (op.run s).Does E := by
  cases op with
  | subnets names =>
    obtain rfl := Option.some.inj h
    exact (Lookup.subnets_does s names).map _
  | clusterSubnets scheme =>
    obtain rfl := Option.some.inj h
    exact (Lookup.clusterSubnets_does s scheme).map _
  | securityGroups names =>
    obtain rfl := Option.some.inj h
    exact (Lookup.securityGroups_does s names).map _
  | vpcId =>
    obtain rfl := Option.some.inj h
    exact (Lookup.vpcId_does s).map _
  | vpc id =>
    obtain rfl := Option.some.inj h
    refine Work.Does.map ?_ _
    rw [Lookup.vpc_eq]
    exact (Lookup.vpcs s).orAsk_does id _ (Lookup.askVpc_uncached id)
  | nodeHealthy id =>
    obtain rfl := Option.some.inj h
    refine Work.Does.map ?_ _
    rw [Lookup.nodeHealthy_eq]
    exact (Lookup.verdicts s).orAsk_does id _ (Lookup.askHealth_uncached id)
  | _ => cases h

theorem run_keepsCache {s : Settings} {op : Operation} (h : op.effect? s = none) :
    (op.run s).KeepsCache := by
  have hpure {α : Type} (a : α) : (pure a : Work α).KeepsCache := (Work.pure_uncached a).keepsCache
  cases op with
  | securityGroupById id => exact (Lookup.securityGroupById_keepsCache id).bind fun _ => hpure _
  | securityGroupByName network name =>
    exact (Lookup.securityGroupByName_keepsCache network name).bind fun _ => hpure _
  | deleteSecurityGroup id => exact (Lookup.deleteSecurityGroup_keepsCache s id).bind fun _ => hpure _
  | instances ids => exact (Lookup.instances_keepsCache ids).bind fun _ => hpure _
  | status => exact Lookup.status_keepsCache.bind fun _ => hpure _
  | _ => cases h

end Operation

/-! ## Steps -/

/-- What an operation meets besides the cache. -/
structure Moment where
  remote : Remote
  clock : Float
  draw : Nat → Float

namespace Moment

def state (m : Moment) (cache : Cache Stored) : State := ⟨cache, m.clock, m.draw, m.remote, []⟩

def sight (m : Moment) (live : Slot → Option Stored) : Sight := ⟨live, m.remote, m.clock⟩

end Moment

theorem State.exists_entry_of_live {st : State} {slot : Slot} {value : Stored}
    (h : st.live slot = some value) : ∃ e ∈ st.cache.entries, e.slot = slot ∧ e.value = value := by
  unfold State.live at h
  rw [Option.filter_eq_some_iff, Cache.get_answer, Option.map_eq_some_iff] at h
  obtain ⟨⟨e, he, heq⟩, -⟩ := h
  have hfind := (Option.filter_eq_some_iff.1 he).1
  exact ⟨e, Cache.find?_mem hfind, Cache.find?_slot hfind, heq⟩

namespace Operation

variable (s : Settings) (op : Operation) (m : Moment) (cache : Cache Stored)

/-- What an operation answers, and what it does to the remote side. -/
def outcome : Except Failure Answer × List Event :=
  (((op.run s).run.run (m.state cache)).1, ((op.run s).run.run (m.state cache)).2.trace)

def cacheAfter : Cache Stored := ((op.run s).run.run (m.state cache)).2.cache

variable {s op}

theorem outcome_eq {E : Sight → Effect Answer} (h : op.effect? s = some E) :
    op.outcome s m cache
      = ((E (m.state cache).sight).answer, (E (m.state cache).sight).events) := by
  obtain ⟨later, hrun, -⟩ := run_does h (m.state cache)
  unfold outcome
  rw [hrun]
  rfl

theorem cacheAfter_used {E : Sight → Effect Answer} (h : op.effect? s = some E) :
    Cache.Used m.clock (E (m.state cache).sight).stores cache (op.cacheAfter s m cache) := by
  obtain ⟨later, hrun, hused⟩ := run_does h (m.state cache)
  unfold cacheAfter
  rw [hrun]
  exact hused

theorem cacheAfter_kept (h : op.effect? s = none) : op.cacheAfter s m cache = cache :=
  run_keepsCache h (m.state cache)

/-! ### Lookups of one key -/

section OneKey

variable {β : Type} {v : View} {key : String} {use : Stored → β} {ask : Work (β × Option Stored)}
  {f : β → Answer} (hrun : op.run s = v.orAsk key use ask >>= fun a => pure (f a)) (hask : ask.Uncached)
include hrun hask

theorem outcome_orAsk : op.outcome s m cache
    = match (m.state cache).live (v.slot (.text key)) with
      | some found => (.ok (f (use found)), [])
      | none => ((ask.answer m.remote).map fun a => f a.1, ask.events m.remote) := by
  obtain ⟨later, heffect, -⟩ := (v.orAsk_does key use hask).map f (m.state cache)
  unfold outcome
  rw [hrun, heffect]
  unfold View.orAskEffect
  simp only [State.sight]
  cases (m.state cache).live (v.slot (.text key)) with
  | some found => rfl
  | none =>
    refine congrArg (Prod.mk · _) ?_
    show ((ask.answer m.remote).map (·.1)).map f = _
    cases ask.answer m.remote <;> rfl

theorem cacheAfter_orAsk : op.cacheAfter s m cache
    = match (m.state cache).live (v.slot (.text key)), View.given (ask.answer m.remote) with
      | none, some value => (cache.get (v.slot (.text key)) m.clock).2.set (v.slot (.text key)) value
          (v.ttl.deadline m.clock)
      | _, _ => (cache.get (v.slot (.text key)) m.clock).2 := by
  unfold cacheAfter
  rw [hrun, Work.bind_cache fun _ => (Work.pure_uncached _).keepsCache]
  exact v.orAsk_cache key use hask (m.state cache)

end OneKey

end Operation

inductive Step where
  | call (op : Operation) (m : Moment)
  | purge (now : Float)

namespace Step

def clock : Step → Float
  | call _ m => m.clock
  | purge now => now

def cacheAfter (s : Settings) (cache : Cache Stored) : Step → Cache Stored
  | call op m => op.cacheAfter s m cache
  | purge now => (cache.purge now).2

theorem cacheAfter_call (s : Settings) (cache : Cache Stored) (op : Operation) (m : Moment) :
    ∃ stores, Cache.Used m.clock stores cache ((call op m).cacheAfter s cache) ∧
      ∀ w ∈ stores, ∃ E, op.effect? s = some E ∧ w ∈ (E (m.state cache).sight).stores := by
  cases h : op.effect? s with
  | some E => exact ⟨_, op.cacheAfter_used m cache h, fun w hw => ⟨E, rfl, hw⟩⟩
  | none =>
    refine ⟨[], ?_, by simp⟩
    show Cache.Used m.clock [] cache (op.cacheAfter s m cache)
    rw [op.cacheAfter_kept m cache h]
    exact .refl cache

end Step

def sessionCache (s : Settings) (steps : List Step) : Cache Stored :=
  steps.foldl (Step.cacheAfter s) .empty

theorem sessionCache_append (s : Settings) (steps : List Step) (step : Step) :
    sessionCache s (steps ++ [step]) = step.cacheAfter s (sessionCache s steps) := by
  simp [sessionCache]

end NetLookup
