import NetLookup.Proofs.Failures
import NetLookup.Proofs.Freshness
import Mathlib.Data.List.Nodup
import Mathlib.Data.List.Perm.Basic

/-! # Asking for the same names again

A listing may answer several resources for one name, but the cache holds one id for each name, and answers
it as often as the name is asked for. So a lookup that is repeated in time answers the ids of the first one
just in case every name that was fetched was asked for once and is carried by one resource. -/

namespace NetLookup

/-! ## Resources with a name -/

structure Resource where
  name : String
  id : String

/-- The resources of our network that have a name, each with an id of its own. -/
structure Inventory where
  resources : List Resource
  distinct : (resources.map (·.id)).Nodup

namespace Inventory

variable {inventory : Inventory} {asked : List String} {name : String} {x : Resource}

def carrying (inventory : Inventory) (asked : List String) : List Resource :=
  inventory.resources.filter (·.name ∈ asked)

theorem mem_carrying :
    x ∈ inventory.carrying asked ↔ x ∈ inventory.resources ∧ x.name ∈ asked := by
  rw [carrying, List.mem_filter, decide_eq_true_iff]

theorem carrying_distinct : ((inventory.carrying asked).map (·.id)).Nodup :=
  inventory.distinct.sublist (List.filter_sublist.map _)

theorem count_carrying (h : name ∈ asked) : ((inventory.carrying asked).map (·.name)).count name
    = (inventory.resources.map (·.name)).count name := by
  have hnames : (inventory.carrying asked).map (·.name)
      = (inventory.resources.map (·.name)).filter (· ∈ asked) := by
    rw [List.filter_map]
    rfl
  rw [hnames]
  exact List.count_filter (decide_eq_true h)

end Inventory

/-- The id that was filed last under a name. -/
def lastNamed (found : List Resource) (name : String) : Option String :=
  (found.filter (·.name = name)).getLast?.map (·.id)

section Named

variable {found : List Resource} {asked : List String} {name id : String} {x : Resource}

theorem mem_of_lastNamed (h : lastNamed found name = some id) : ⟨name, id⟩ ∈ found := by
  obtain ⟨x, hx, rfl⟩ := Option.map_eq_some_iff.1 h
  obtain ⟨hmem, hname⟩ := List.mem_filter.1 (List.mem_of_getLast? hx)
  obtain rfl : x.name = name := by simpa using hname
  exact hmem

theorem lastNamed_eq_none : lastNamed found name = none ↔ ∀ x ∈ found, x.name ≠ name := by
  simp [lastNamed]

theorem count_name : (found.map (·.name)).count name = (found.filter (·.name = name)).length := by
  rw [List.count_eq_length_filter, List.filter_map, List.length_map]
  rfl

theorem lastNamed_of_mem (hx : x ∈ found) (hone : (found.map (·.name)).count x.name = 1) :
    lastNamed found x.name = some x.id := by
  rw [count_name] at hone
  obtain ⟨y, hy⟩ := List.length_eq_one_iff.1 hone
  have hmem : x ∈ found.filter (·.name = x.name) := List.mem_filter.2 ⟨hx, by simp⟩
  rw [hy, List.mem_singleton] at hmem
  rw [lastNamed, hy, hmem]
  rfl

theorem all_lastNamed_iff (hids : (found.map (·.id)).Nodup) :
    (∀ x ∈ found, lastNamed found x.name = some x.id)
      ↔ ∀ x ∈ found, (found.map (·.name)).count x.name = 1 := by
  refine ⟨fun hlast x hx => ?_, fun hone x hx => lastNamed_of_mem hx (hone x hx)⟩
  refine List.count_eq_one_of_mem (List.Nodup.map_on (fun y hy z hz hname => ?_) (.of_map _ hids))
    (List.mem_map_of_mem hx)
  have hid := (hlast y hy).symm.trans ((congrArg _ hname).trans (hlast z hz))
  exact List.inj_on_of_nodup_map hids hy hz (Option.some.inj hid)

theorem count_lastNamed (hids : (found.map (·.id)).Nodup) (hx : x ∈ found) :
    (asked.filterMap (lastNamed found)).count x.id
      = if lastNamed found x.name = some x.id then asked.count x.name else 0 := by
  -- Ids are distinct, so only one name can have this id.
  have hname {name : String} (h : lastNamed found name = some x.id) : name = x.name :=
    congrArg Resource.name (List.inj_on_of_nodup_map hids (mem_of_lastNamed h) hx rfl)
  rw [List.count_filterMap]
  split
  · rename_i hlast
    refine List.countP_congr fun name _ => ?_
    rw [beq_iff_eq, beq_iff_eq]
    exact ⟨hname, fun h => h ▸ hlast⟩
  · rename_i hlast
    refine List.countP_eq_zero.2 fun name _ h => hlast ?_
    have h := beq_iff_eq.1 h
    exact hname h ▸ h

theorem perm_lastNamed_iff (hids : (found.map (·.id)).Nodup) :
    (asked.filterMap (lastNamed found)).Perm (found.map (·.id))
      ↔ ∀ x ∈ found, asked.count x.name = 1 ∧ (found.map (·.name)).count x.name = 1 := by
  have hcount {x : Resource} (hx : x ∈ found) : (found.map (·.id)).count x.id = 1 :=
    List.count_eq_one_of_mem hids (List.mem_map_of_mem hx)
  constructor
  · intro h
    -- Counting one id on both sides shows that it was filed last, and was asked for once.
    have hlast : ∀ x ∈ found, lastNamed found x.name = some x.id ∧ asked.count x.name = 1 := by
      intro x hx
      have hone := (h.count_eq x.id).trans (hcount hx)
      rw [count_lastNamed hids hx] at hone
      split at hone
      · exact ⟨‹_›, hone⟩
      · cases hone
    exact fun x hx => ⟨(hlast x hx).2, (all_lastNamed_iff hids).1 (fun y hy => (hlast y hy).1) x hx⟩
  · intro h
    refine List.perm_iff_count.2 fun id => ?_
    by_cases hid : id ∈ found.map (·.id)
    · obtain ⟨x, hx, rfl⟩ := List.mem_map.1 hid
      rw [count_lastNamed hids hx, hcount hx, if_pos (lastNamed_of_mem hx (h x hx).2), (h x hx).1]
    · rw [List.count_eq_zero.2 hid, List.count_eq_zero]
      intro hmem
      obtain ⟨name, -, hname⟩ := List.mem_filterMap.1 hmem
      exact hid (List.mem_map_of_mem (mem_of_lastNamed hname))

end Named

/-- Values with a spare one for want of a first: the spare ones that are used come last. -/
theorem filterMap_or_perm {α β : Type} {f g : α → Option β} (h : ∀ a b, g a = some b → f a = none)
    (as : List α) : (as.filterMap fun a => (f a).or (g a)).Perm
      (as.filterMap g ++ (as.filter fun a => (g a).isNone).filterMap f) := by
  induction as with
  | nil => exact .nil
  | cons a as ih =>
    cases hg : g a with
    | some b => simpa [hg, h a b hg] using ih
    | none =>
      cases hf : f a with
      | none => simpa [hg, hf] using ih
      | some c => simpa [hg, hf] using (ih.cons c).trans List.perm_middle.symm

/-! ## In time -/

namespace Cache

variable {α : Type} {now later : Float}

structure InTime (c : Cache α) (now later : Float) : Prop where
  clock : StaysReached now later
  entries : ∀ e ∈ c.entries, e.expired later = true → e.expired now = true

theorem InTime.get_eq {c : Cache α} (h : c.InTime now later) (s : Slot) :
    (c.get s later).1 = (c.get s now).1 := by
  rw [get_answer, get_answer]
  cases hfind : c.find? s with
  | none => rw [Option.filter_none, Option.filter_none]
  | some e =>
    -- The clock goes on, and no deadline is reached in between.
    have hexpired : e.expired later = e.expired now := by
      refine Bool.eq_iff_iff.2 ⟨h.entries e (find?_mem hfind), fun he => ?_⟩
      exact decide_eq_true (h.clock _ (of_decide_eq_true he))
    rw [Option.filter_some, Option.filter_some, hexpired]

theorem Used.get_later {stores : List (Store α)} {c d : Cache α} (h : Used now stores c d)
    (hc : c.InTime now later) (hstores : ∀ x ∈ stores, ¬ x.2.2 ≤ later) (s : Slot) :
    (d.get s later).1 = ((storedTo s stores).getLast?.map (·.1)).or (c.get s now).1 := by
  have hbefore : c.Recalls s ((c.find? s).map fun e => (e.value, e.deadline)) now :=
    ⟨fun e he => by simp [he], fun hnone x hx => by simp [hnone] at hx⟩
  rw [((h.recalls hbefore).later hc.clock).answer]
  cases hlast : (storedTo s stores).getLast? with
  | some x =>
    obtain ⟨w, hw, rfl⟩ := exists_of_last_storedTo hlast
    simp [unexpired, hstores w hw]
  | none => exact (hbefore.later hc.clock).answer.symm.trans (hc.get_eq s)

end Cache

theorem Operation.live_later {s : Settings} {op : Operation} {E : Sight → Effect Answer} {m later : Moment}
    {cache : Cache Stored} (h : op.effect? s = some E) (htime : cache.InTime m.clock later.clock)
    (hstores : ∀ x ∈ (E (m.state cache).sight).stores, x.2.1.isNull = false ∧ ¬ x.2.2 ≤ later.clock)
    (slot : Slot) :
    (later.state (op.cacheAfter s m cache)).live slot
      = ((Cache.storedTo slot (E (m.state cache).sight).stores).getLast?.map (·.1)).or
        ((m.state cache).live slot) := by
  unfold State.live
  refine (congrArg (Option.filter _) ((op.cacheAfter_used m cache h).get_later htime
    (fun x hx => (hstores x hx).2) slot)).trans ?_
  cases hlast : (Cache.storedTo slot (E (m.state cache).sight).stores).getLast? with
  | none => rfl
  | some x =>
    obtain ⟨w, hw, rfl⟩ := Cache.exists_of_last_storedTo hlast
    simp [(hstores w hw).1]

/-! ## Lookups by name -/

/-- Asked for any names, the remote side lists the resources of an inventory that carry one of them, in
some order. -/
def NameLookup.Honours (n : NameLookup) (r : Remote) (inventory : Inventory) (asked : List String) : Prop :=
  asked ≠ [] → ∃ (records : List Json) (found : List Resource),
    r.listed .ec2 n.listing n.recordsKey = .ok records ∧
      records.map n.read = found.map (fun x => .ok (some (.str x.name), .str x.id)) ∧
      found.Perm (inventory.carrying asked)

structure NameLookup.InTime (n : NameLookup) (s : Settings) (m later : Moment) (cache : Cache Stored) :
    Prop where
  cache : cache.InTime m.clock later.clock
  ids : ¬ (n.view s).ttl.deadline m.clock ≤ later.clock
  network : ¬ (Lookup.vpcIds s).ttl.deadline m.clock ≤ later.clock

namespace NameLookup

variable {n : NameLookup} {s : Settings} {seen : Sight} {names : List String} {records ids : List Json}
  {found : List Resource} {network : Json}

def findings (n : NameLookup) (s : Settings) (seen : Sight) (found : List Resource) :
    List (Cache.Store Stored) :=
  (Lookup.networkEffect s seen).stores
    ++ found.map fun x => (n.view s).stamped seen.clock (.text x.name) (.plain (.str x.id))

theorem filed_of_read (h : records.map n.read = found.map fun x => .ok (some (.str x.name), .str x.id)) :
    filed n.read records = found.map (fun x => (.text x.name, .str x.id)) ∧
      filedIds n.read n.unnamed records = .ok (found.map (.str ·.id)) := by
  induction found generalizing records with
  | nil =>
    obtain rfl := List.map_eq_nil_iff.1 h
    exact ⟨rfl, rfl⟩
  | cons x found ih =>
    obtain ⟨record, records, rfl, hrecord, hrest⟩ := List.map_eq_cons_iff.1 h
    obtain ⟨hfiled, hids⟩ := ih hrest
    unfold filed filedIds
    rw [hrecord, hfiled, hids]
    exact ⟨rfl, rfl⟩

theorem network_of_ok (hmissing : n.missing s seen names ≠ [])
    (h : (n.effect s names seen).answer = .ok ids) :
    ∃ network, (Lookup.networkEffect s seen).answer = .ok network := by
  rw [effect_of_missing hmissing] at h
  obtain ⟨found, hfound, -⟩ := ok_of_map h
  unfold View.queryEffect at hfound
  rw [Effect.answer_andThen] at hfound
  obtain ⟨network, hnetwork, -⟩ := ok_of_bind hfound
  exact ⟨network, hnetwork⟩

theorem effect_of_listed (hmissing : n.missing s seen names ≠ [])
    (hnetwork : (Lookup.networkEffect s seen).answer = .ok network)
    (hlisted : seen.remote.listed .ec2 n.listing n.recordsKey = .ok records)
    (hread : records.map n.read = found.map fun x => .ok (some (.str x.name), .str x.id)) :
    (n.effect s names seen).answer
        = .ok ((n.view s).liveValues seen.live names ++ found.map (.str ·.id)) ∧
      (n.effect s names seen).stores = n.findings s seen found := by
  obtain ⟨hfiled, hids⟩ := filed_of_read hread
  rw [effect_of_missing hmissing]
  unfold View.queryEffect
  simp only [Effect.map, Effect.andThen, hnetwork, describeEffect, hlisted, mapError_ok,
    View.fileEffect, hfiled, hids, List.map_map, List.nil_append]
  exact ⟨rfl, rfl⟩

theorem area_ne_network (n : NameLookup) (s : Settings) :
    (n.view s).area ≠ (Lookup.vpcIds s).area := by
  cases n <;> simp [view]

theorem storedTo_network (hunset : nonEmpty s.vpcId = none)
    (hunknown : seen.live ((Lookup.vpcIds s).slot (.text "")) = none)
    (hnetwork : (Lookup.networkEffect s seen).answer = .ok network) :
    Cache.storedTo ((Lookup.vpcIds s).slot (.text "")) (Lookup.networkEffect s seen).stores
      = [(.plain network, (Lookup.vpcIds s).ttl.deadline seen.clock)] := by
  unfold Lookup.networkEffect View.orAskEffect at hnetwork ⊢
  simp only [hunset, hunknown, View.askEffect] at hnetwork ⊢
  obtain ⟨⟨id, given⟩, hasked, rfl⟩ := ok_of_map hnetwork
  obtain ⟨rfl, -⟩ := Lookup.askNetwork_given hasked
  simp [hasked, View.given, Except.toOption, Cache.storedTo, View.stamped]

theorem last_storedTo_name (name : String) :
    (Cache.storedTo ((n.view s).slot (.text name)) (n.findings s seen found)).getLast?.map (·.1)
      = (lastNamed found name).map fun id => .plain (.str id) := by
  have hnetwork :
      Cache.storedTo ((n.view s).slot (.text name)) (Lookup.networkEffect s seen).stores = [] := by
    refine Cache.storedTo_eq_nil fun x hx => ?_
    obtain ⟨-, -, id, value, -, rfl⟩ := Lookup.mem_stores_networkEffect hx
    exact View.slot_ne_of_area (n.area_ne_network s).symm _ _
  rw [findings, Cache.storedTo_append, hnetwork, List.nil_append, Cache.storedTo, List.filter_map,
    List.map_map, List.getLast?_map, lastNamed]
  simp [Function.comp_def, View.stamped, View.slot]

theorem last_storedTo_network (hunset : nonEmpty s.vpcId = none)
    (hunknown : seen.live ((Lookup.vpcIds s).slot (.text "")) = none)
    (hnetwork : (Lookup.networkEffect s seen).answer = .ok network) :
    (Cache.storedTo ((Lookup.vpcIds s).slot (.text "")) (n.findings s seen found)).getLast?.map (·.1)
      = some (.plain network) := by
  have hfound : Cache.storedTo ((Lookup.vpcIds s).slot (.text "")) (found.map fun x =>
      (n.view s).stamped seen.clock (.text x.name) (.plain (.str x.id))) = [] := by
    refine Cache.storedTo_eq_nil fun x hx => ?_
    obtain ⟨y, -, rfl⟩ := List.mem_map.1 hx
    exact View.slot_ne_of_area (n.area_ne_network s) _ _
  rw [findings, Cache.storedTo_append, hfound, List.append_nil, storedTo_network hunset hunknown hnetwork]
  rfl

/-! ### The second lookup -/

theorem mem_missing {name : String} : name ∈ n.missing s seen names
    ↔ name ∈ names ∧ seen.live ((n.view s).slot (.text name)) = none := by
  rw [missing, View.notLive, List.mem_filter, Option.isNone_iff_eq_none]

theorem count_missing {name : String} (h : name ∈ n.missing s seen names) :
    (n.missing s seen names).count name = names.count name :=
  List.count_filter (Option.isNone_iff_eq_none.2 (mem_missing.1 h).2)

def seenAgain (n : NameLookup) (s : Settings) (names : List String) (m later : Moment)
    (cache : Cache Stored) : Sight :=
  (later.state ((n.call names).cacheAfter s m cache)).sight

structure Fetched (n : NameLookup) (s : Settings) (names : List String) (m later : Moment)
    (cache : Cache Stored) (found : List Resource) : Prop where
  inTime : n.InTime s m later cache
  network : ∃ network, (Lookup.networkEffect s (m.state cache).sight).answer = .ok network
  stores : (n.effect s names (m.state cache).sight).stores = n.findings s (m.state cache).sight found

namespace Fetched

variable {m later : Moment} {cache : Cache Stored} {inventory : Inventory}
  (h : Fetched n s names m later cache found)
include h

theorem live_again (slot : Slot) :
    (n.seenAgain s names m later cache).live slot
      = ((Cache.storedTo slot (n.findings s (m.state cache).sight found)).getLast?.map (·.1)).or
        ((m.state cache).sight.live slot) := by
  rw [← h.stores]
  refine Operation.live_later (n.effect?_call s names) h.inTime.cache (fun x hx => ?_) slot
  have hx : x ∈ (n.effect s names (m.state cache).sight).stores := hx
  rw [h.stores] at hx
  rcases List.mem_append.1 hx with hx | hx
  · obtain ⟨-, -, id, value, hasked, rfl⟩ := Lookup.mem_stores_networkEffect hx
    obtain ⟨hgiven, hid, -⟩ := Lookup.askNetwork_given hasked
    cases hgiven
    exact ⟨isNull_plain hid, h.inTime.network⟩
  · obtain ⟨y, -, rfl⟩ := List.mem_map.1 hx
    exact ⟨rfl, h.inTime.ids⟩

theorem live_name (name : String) :
    (n.seenAgain s names m later cache).live ((n.view s).slot (.text name))
      = ((lastNamed found name).map fun id => .plain (.str id)).or
        ((m.state cache).sight.live ((n.view s).slot (.text name))) := by
  rw [h.live_again, last_storedTo_name]

theorem network_again : ∃ known,
    (Lookup.networkEffect s (n.seenAgain s names m later cache)).answer = .ok known := by
  obtain ⟨network, hnetwork⟩ := h.network
  cases hset : nonEmpty s.vpcId with
  | some id => exact ⟨.str id, by simp [Lookup.networkEffect, hset, Effect.of]⟩
  | none =>
    have hlive : ∃ value, (n.seenAgain s names m later cache).live
        ((Lookup.vpcIds s).slot (.text "")) = some value := by
      rw [h.live_again]
      cases hunknown : (m.state cache).sight.live ((Lookup.vpcIds s).slot (.text "")) with
      | none => exact ⟨_, by rw [last_storedTo_network hset hunknown hnetwork]; rfl⟩
      | some value => exact Option.isSome_iff_exists.1 (by simp)
    obtain ⟨value, hvalue⟩ := hlive
    refine ⟨value.toJson, ?_⟩
    unfold Lookup.networkEffect View.orAskEffect
    rw [hset]
    simp only [hvalue]
    rfl

variable (hfound : found.Perm (inventory.carrying (n.missing s (m.state cache).sight names)))
include hfound

theorem not_missing_again : ∀ x ∈ inventory.resources,
    x.name ∉ n.missing s (n.seenAgain s names m later cache) names := by
  intro x hx hmissing
  obtain ⟨hname, hnone⟩ := mem_missing.1 hmissing
  rw [h.live_name, Option.or_eq_none_iff, Option.map_eq_none_iff, lastNamed_eq_none] at hnone
  have hfetched : x ∈ found :=
    hfound.mem_iff.2 (Inventory.mem_carrying.2 ⟨hx, mem_missing.2 ⟨hname, hnone.2⟩⟩)
  exact hnone.1 x hfetched rfl

theorem answer_again (hagain : n.Honours later.remote inventory
      (n.missing s (n.seenAgain s names m later cache) names)) :
    (n.effect s names (n.seenAgain s names m later cache)).answer
      = .ok ((n.view s).liveValues (n.seenAgain s names m later cache).live names) := by
  by_cases hmissing : n.missing s (n.seenAgain s names m later cache) names = []
  · rw [effect_of_live hmissing]
    rfl
  · obtain ⟨records, more, hlisted, hread, hmore⟩ := hagain hmissing
    have hnone : more = [] := by
      refine List.eq_nil_iff_forall_not_mem.2 fun x hx => ?_
      obtain ⟨hx, hname⟩ := Inventory.mem_carrying.1 (hmore.mem_iff.1 hx)
      exact h.not_missing_again hfound x hx hname
    subst hnone
    obtain ⟨known, hknown⟩ := h.network_again
    have heffect := (effect_of_listed hmissing hknown hlisted hread).1
    rw [List.map_nil, List.append_nil] at heffect
    exact heffect

theorem liveValues_again :
    ((n.view s).liveValues (n.seenAgain s names m later cache).live names).Perm
      ((n.view s).liveValues (m.state cache).sight.live names
        ++ ((n.missing s (m.state cache).sight names).filterMap (lastNamed found)).map .str) := by
  have hlive (name : String) :
      ((n.seenAgain s names m later cache).live ((n.view s).slot (.text name))).map Stored.toJson
        = ((lastNamed found name).map .str).or
          (((m.state cache).sight.live ((n.view s).slot (.text name))).map Stored.toJson) := by
    rw [h.live_name]
    cases lastNamed found name <;> rfl
  unfold View.liveValues View.liveWith
  simp only [hlive, List.map_filterMap]
  refine (filterMap_or_perm (fun name value hvalue => ?_) names).trans (.of_eq ?_)
  · -- What was live was not asked for.
    rw [Option.map_eq_none_iff, lastNamed_eq_none]
    rintro x hx rfl
    have hasked := (Inventory.mem_carrying.1 (hfound.mem_iff.1 hx)).2
    rw [(mem_missing.1 hasked).2] at hvalue
    cases hvalue
  · simp only [Option.isNone_map]
    rfl

end Fetched

theorem answer_again_of_live {m later : Moment} {cache : Cache Stored} (htime : n.InTime s m later cache)
    (hmissing : n.missing s (m.state cache).sight names = []) :
    (n.effect s names (n.seenAgain s names m later cache)).answer
      = (n.effect s names (m.state cache).sight).answer := by
  have hstores : (n.effect s names (m.state cache).sight).stores = [] := by
    rw [effect_of_live hmissing]
    rfl
  have hlive : (n.seenAgain s names m later cache).live = (m.state cache).sight.live := by
    funext slot
    refine (Operation.live_later (n.effect?_call s names) htime.cache (fun x hx => ?_) slot).trans ?_
    · simp [Effect.map, hstores] at hx
    · simp only [Effect.map, hstores]
      rfl
  have hagain : n.missing s (n.seenAgain s names m later cache) names = [] := by
    unfold missing at hmissing ⊢
    rw [hlive, hmissing]
  rw [effect_of_live hmissing, effect_of_live hagain, hlive]

/-! ### The same ids -/

/-- The last ids of the names that were missing are the ones that were found just in case each of them was
asked for once and shares its name with no other. -/
theorem perm_found_iff {inventory : Inventory}
    (hfound : found.Perm (inventory.carrying (n.missing s seen names))) :
    ((n.missing s seen names).filterMap (lastNamed found)).Perm (found.map (·.id))
      ↔ ∀ x ∈ inventory.resources, x.name ∈ n.missing s seen names →
        names.count x.name = 1 ∧ (inventory.resources.map (·.name)).count x.name = 1 := by
  have hids : (found.map (·.id)).Nodup := (hfound.map _).nodup_iff.2 Inventory.carrying_distinct
  have hcarried {name : String} (h : name ∈ n.missing s seen names) :
      (found.map (·.name)).count name = (inventory.resources.map (·.name)).count name :=
    ((hfound.map _).count_eq name).trans (Inventory.count_carrying h)
  rw [perm_lastNamed_iff hids]
  refine ⟨fun h x hx hname => ?_, fun h x hx => ?_⟩
  · have hone := h x (hfound.mem_iff.2 (Inventory.mem_carrying.2 ⟨hx, hname⟩))
    rwa [hcarried hname, count_missing hname] at hone
  · obtain ⟨hx, hname⟩ := Inventory.mem_carrying.1 (hfound.mem_iff.1 hx)
    rw [hcarried hname, count_missing hname]
    exact h x hx hname

/-- A lookup by name that is repeated in time answers the same ids just in case every resource that was
fetched was asked for once and shares its name with no other. -/
theorem again_iff (n : NameLookup) (s : Settings) (names : List String) (inventory : Inventory)
    (m later : Moment) (cache : Cache Stored) (first : List Json)
    (hfirst : ((n.call names).outcome s m cache).1 = .ok (.value (.arr first)))
    (htime : n.InTime s m later cache)
    (hlisted : n.Honours m.remote inventory (n.missing s (m.state cache).sight names))
    (hagain : n.Honours later.remote inventory
      (n.missing s (n.seenAgain s names m later cache) names)) :
    ∃ second, ((n.call names).outcome s later ((n.call names).cacheAfter s m cache)).1
        = .ok (.value (.arr second)) ∧
      (second.Perm first ↔ ∀ x ∈ inventory.resources, x.name ∈ n.missing s (m.state cache).sight names →
        names.count x.name = 1 ∧ (inventory.resources.map (·.name)).count x.name = 1) := by
  rw [(n.call names).outcome_eq m cache (n.effect?_call s names)] at hfirst
  rw [(n.call names).outcome_eq later _ (n.effect?_call s names)]
  obtain ⟨ids, hids, heq⟩ := ok_of_map hfirst
  cases heq
  by_cases hmissing : n.missing s (m.state cache).sight names = []
  · refine ⟨first, congrArg (Except.map _) ((answer_again_of_live htime hmissing).trans hids), ?_⟩
    simp [hmissing]
  · obtain ⟨records, found, hrecords, hread, hfound⟩ := hlisted hmissing
    obtain ⟨network, hnetwork⟩ := network_of_ok hmissing hids
    obtain ⟨hanswer, hstores⟩ := effect_of_listed hmissing hnetwork hrecords hread
    have hfetched : Fetched n s names m later cache found := ⟨htime, ⟨network, hnetwork⟩, hstores⟩
    obtain rfl := Except.ok.inj (hanswer.symm.trans hids)
    refine ⟨_, congrArg (Except.map _) (hfetched.answer_again hfound hagain), ?_⟩
    rw [(hfetched.liveValues_again hfound).congr_left, List.perm_append_left_iff,
      ← perm_found_iff hfound, ← List.map_perm_map_iff fun _ _ => Json.str.inj, List.map_map]
    rfl

/-! ### Two inventories -/

def subnetRecord (x : Resource) : Json := namedSubnet x.name x.id

def subnetsOnly (found : List Resource) : Remote where
  pages _ operation :=
    if operation = "describe_subnets" then [.obj [("Subnets", .arr (found.map subnetRecord))]] else []
  outage _ _ := none
  deletion _ := none
  tagsFailure := none
  token := ⟨none, none, "", .ok .null⟩
  identity := ⟨none, none, "", .ok .null⟩

theorem honours_subnetsOnly {inventory : Inventory} {asked : List String}
    (h : found.Perm (inventory.carrying asked)) :
    subnets.Honours (subnetsOnly found) inventory asked := by
  refine fun _ => ⟨found.map subnetRecord, found, ?_, ?_, h⟩
  · have hpage : Listing.records "Subnets" (.obj [("Subnets", .arr (found.map subnetRecord))])
        = .ok (found.map subnetRecord) := rfl
    show Listing.collect "Subnets" [_] = _
    simp [Listing.collect, hpage]
  · rw [List.map_map]
    rfl

def threeNames : Inventory := ⟨[⟨"old", "s1"⟩, ⟨"new", "s2"⟩, ⟨"other", "s3"⟩], by decide⟩

/-- Of three names that are asked for twice, one was known, one is found, and one is carried by nothing. -/
theorem again_iff_threeNames :
    ∃ second, ((subnets.call ["old", "new", "none"]).outcome inOneNetwork ⟨subnetsOnly [], 6, fun _ => 0⟩
        ((subnets.call ["old", "new", "none"]).cacheAfter inOneNetwork
          ⟨subnetsOnly [⟨"new", "s2"⟩], 5, fun _ => 0⟩ oneName)).1 = .ok (.value (.arr second)) ∧
      second.Perm [.str "s1", .str "s2"] := by
  obtain ⟨second, hsecond, hiff⟩ := again_iff subnets inOneNetwork ["old", "new", "none"] threeNames
    ⟨subnetsOnly [⟨"new", "s2"⟩], 5, fun _ => 0⟩ ⟨subnetsOnly [], 6, fun _ => 0⟩ oneName
    [.str "s1", .str "s2"] (by rfl)
    ⟨⟨.of_le (by decide), by decide +kernel⟩, by decide +kernel, by decide +kernel⟩
    (honours_subnetsOnly (.of_eq (by rfl))) (honours_subnetsOnly (.of_eq (by rfl)))
  refine ⟨second, hsecond, hiff.2 ?_⟩
  decide +kernel

def twins : Inventory := ⟨[⟨"web", "s1"⟩, ⟨"web", "s2"⟩], by decide⟩

def twinsAt (clock : Float) : Moment := ⟨subnetsOnly twins.resources, clock, fun _ => 0⟩

/-- The first answer has both of them, the second one does not. -/
theorem again_lacks_twin :
    ((subnets.call ["web"]).outcome inOneNetwork (twinsAt 5) .empty).1
        = .ok (.value (.arr [.str "s1", .str "s2"])) ∧
      ((subnets.call ["web"]).outcome inOneNetwork (twinsAt 6)
        ((subnets.call ["web"]).cacheAfter inOneNetwork (twinsAt 5) .empty)).1
          = .ok (.value (.arr [.str "s2"])) ∧
      subnets.InTime inOneNetwork (twinsAt 5) (twinsAt 6) .empty ∧
      subnets.Honours (twinsAt 5).remote twins
        (subnets.missing inOneNetwork ((twinsAt 5).state .empty).sight ["web"]) ∧
      subnets.Honours (twinsAt 6).remote twins (subnets.missing inOneNetwork
        (subnets.seenAgain inOneNetwork ["web"] (twinsAt 5) (twinsAt 6) .empty) ["web"]) ∧
      ¬ [Json.str "s2"].Perm [.str "s1", .str "s2"] := by
  refine ⟨by rfl, by rfl, ⟨⟨.of_le (by decide), by decide⟩, by decide +kernel, by decide +kernel⟩,
    honours_subnetsOnly (.of_eq (by rfl)), fun h => absurd (by rfl) h, fun h => ?_⟩
  simpa using h.length_eq

end NameLookup

end NetLookup
