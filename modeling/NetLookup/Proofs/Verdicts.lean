import NetLookup.Proofs.Json.Parts
import NetLookup.Proofs.Remembered

/-! # Verdicts about instances

A verdict is that of the first record of its instance, and is cached whether it is good or bad. That no record
tells of an instance is no verdict, though the answer is the same as for a bad one: it is not cached. -/

namespace NetLookup

/-! ## Records of states -/

def Kind.status : Kind := record [("InstanceState", record [("Code", whole)])]

namespace Lookup

variable {id : String} {record : Json} {records : List Json}

def tellsOf (id : String) (record : Json) : Bool :=
  (record.fieldOr "InstanceId" .empty).text? == some id

def codeOf (record : Json) : Int :=
  (((record.fieldOr "InstanceState" (.obj [])).fieldOr "Code" (.num 0)).number?).getD 0

/-- Whether the low byte of the state code of a record says that the instance is running. -/
def saysRunning (record : Json) : Bool := decide (codeOf record % 256 = 16)

theorem status_eq (h : Kind.status record) : ∃ status, InstanceStatus.ofJson record = .ok status ∧
    status.id = record.fieldOr "InstanceId" .empty ∧ status.isRunning = .ok (saysRunning record) := by
  have hstate : Kind.record [("Code", Kind.whole)] (record.fieldOr "InstanceState" (.obj [])) :=
    Kind.record.fieldOr h (by simp) ⟨[], rfl, by simp⟩
  have hcode : Kind.whole ((record.fieldOr "InstanceState" (.obj [])).fieldOr "Code" (.num 0)) :=
    Kind.record.fieldOr hstate (by simp) ⟨0, rfl⟩
  obtain ⟨code, hcode⟩ := hcode
  have hread : InstanceStatus.ofJson record = .ok ⟨record.fieldOr "InstanceId" .empty, .num code,
      (record.fieldOr "InstanceState" (.obj [])).fieldOr "Name" .empty⟩ := by
    unfold InstanceStatus.ofJson Json.fieldOrEmpty
    simp only [Kind.record.fieldD_eq h, bind, Except.bind, Kind.record.fieldD_eq hstate, hcode]
    rfl
  refine ⟨_, hread, rfl, ?_⟩
  unfold saysRunning codeOf
  rw [hcode]
  rfl

theorem verdictOf_eq (id : String) (h : ∀ record ∈ records, Kind.status record) :
    verdictOf id records = .ok ((records.find? (tellsOf id)).map saysRunning) := by
  induction records with
  | nil => rfl
  | cons record records ih =>
    obtain ⟨status, hstatus, hid, hrunning⟩ := status_eq (h record List.mem_cons_self)
    have hrest := ih fun other hother => h other (List.mem_cons_of_mem record hother)
    have htells : status.id.same (.str id) = tellsOf id record := by
      rw [hid, Json.same_str_eq]
      rfl
    -- The scan and the search stop at the same record.
    unfold verdictOf
    simp only [hstatus, bind, Except.bind, htells, hrunning, List.find?_cons]
    cases tellsOf id record with
    | true => rfl
    | false => exact hrest

def statusRequest (id : String) : Event :=
  .page .ec2 "describe_instance_status" [("InstanceIds", .arr [.str id])]

def verdictGiven (id : String) (records : List Json) : Json × Option Stored :=
  match records.find? (tellsOf id) with
  | some record => (.bool (saysRunning record), some (.plain (.bool (saysRunning record))))
  | none => (.bool false, none)

theorem askHealth_of_listed (id : String) {r : Remote}
    (hlisted : r.listed .ec2 "describe_instance_status" "InstanceStatuses" = .ok records)
    (hrecords : ∀ record ∈ records, Kind.status record) :
    (askHealth id).answer r = .ok (verdictGiven id records) ∧ (askHealth id).events r = [statusRequest id] := by
  constructor
  · refine (judged_answer _ _ (healthGiven id) rfl r).trans ?_
    unfold healthGiven
    simp only [hlisted, mapError_ok, Except.bind, verdictOf_eq id hrecords]
    unfold verdictGiven
    cases records.find? (tellsOf id) <;> rfl
  · refine (judged_events _ _ (healthGiven id) rfl r).trans ?_
    rw [firstPage, Remote.starts_of_listed hlisted]
    rfl

end Lookup

/-! ## Entries that last -/

namespace Cache

variable {α : Type}

theorem find?_purge_of_unexpired {c : Cache α} {s : Slot} {e : Entry α} {now : Float}
    (h : c.find? s = some e) (hdue : e.expired now = false) : (c.purge now).2.find? s = some e := by
  obtain ⟨hslot, before, after, hsplit, hbefore⟩ := List.find?_eq_some_iff_append.1 h
  refine List.find?_eq_some_iff_append.2 ⟨hslot, before.filter fun e => !e.expired now,
    after.filter fun e => !e.expired now, ?_, fun x hx => hbefore x (List.mem_of_mem_filter hx)⟩
  show c.entries.filter _ = _
  rw [hsplit, List.filter_append, List.filter_cons_of_pos (by simp [hdue])]

end Cache

theorem State.live_of_find? {st : State} {slot : Slot} {e : Entry Stored}
    (h : st.cache.find? slot = some e) (hdue : e.expired st.clock = false)
    (hpresent : e.value.isNull = false) : st.live slot = some e.value := by
  unfold live
  rw [Cache.get_answer, h]
  simp [hdue, hpresent]

theorem State.live_after_miss {st : State} {slot : Slot} (h : st.live slot = none) (later : Moment) :
    (later.state (st.cache.get slot st.clock).2).live slot = none := by
  unfold live at h ⊢
  rw [Cache.get_answer] at h ⊢
  simp only [Moment.state]
  rw [Cache.find?_get, if_pos rfl]
  cases hfind : st.cache.find? slot with
  | none => rfl
  | some e =>
    by_cases hdue : e.expired st.clock = true
    · simp [Option.filter, hdue]
    · -- The entry is null, so it is no value at any time.
      have hnull : e.value.isNull = true := by simpa [hfind, Option.filter, hdue] using h
      by_cases hlater : e.expired later.clock = true <;> simp [Option.filter, hdue, hlater, hnull]

section Lasting

variable {s : Settings} {id : String} {cache : Cache Stored} {e : Entry Stored}

theorem Operation.ne_of_mem_stores {op : Operation} {E : Sight → Effect Answer} {seen : Sight}
    {x : Cache.Store Stored} {verdict : Stored} (heffect : op.effect? s = some E)
    (hlive : seen.live ((Lookup.verdicts s).slot (.text id)) = some verdict) (hx : x ∈ (E seen).stores) :
    x.1 ≠ (Lookup.verdicts s).slot (.text id) := by
  intro hslot
  cases keeps_of_mem_stores heffect hx with
  | network => exact View.slot_ne_of_area (by simp) _ _ hslot
  | vpc => exact View.slot_ne_of_area (by simp) _ _ hslot
  | snapshot => exact View.slot_ne_of_area (by simp) _ _ hslot
  | @named n =>
    refine View.slot_ne_of_area ?_ _ _ hslot
    cases n <;> simp [NameLookup.view]
  | @verdict other =>
    obtain rfl := Option.some.inj heffect
    obtain ⟨hnone, -⟩ := View.mem_stores_orAskEffect (β := Json) hx
    rw [show (Lookup.verdicts s).slot (.text other) = _ from hslot, hlive] at hnone
    cases hnone

theorem Operation.find?_verdict (op : Operation) (m : Moment)
    (h : cache.find? ((Lookup.verdicts s).slot (.text id)) = some e) (hdue : e.expired m.clock = false)
    (hpresent : e.value.isNull = false) :
    (op.cacheAfter s m cache).find? ((Lookup.verdicts s).slot (.text id)) = some e := by
  have hlive : (m.state cache).live ((Lookup.verdicts s).slot (.text id)) = some e.value :=
    State.live_of_find? h hdue hpresent
  obtain ⟨stores, hused, hstores⟩ := Step.cacheAfter_call s cache op m
  -- An operation stores to no slot that has a live verdict.
  have hkept := hused.kept fun x hx => by
    obtain ⟨E, heffect, hx⟩ := hstores x hx
    exact ne_of_mem_stores heffect hlive hx
  rcases hkept with hsame | ⟨-, other, hother, hexpired⟩
  · exact hsame.trans h
  · rw [h] at hother
    cases hother
    simp [hdue] at hexpired

theorem Step.find?_verdict (step : Step)
    (h : cache.find? ((Lookup.verdicts s).slot (.text id)) = some e) (hdue : e.expired step.clock = false)
    (hpresent : e.value.isNull = false) :
    (step.cacheAfter s cache).find? ((Lookup.verdicts s).slot (.text id)) = some e := by
  cases step with
  | call op m => exact op.find?_verdict m h hdue hpresent
  | purge now => exact Cache.find?_purge_of_unexpired h hdue

theorem find?_verdict_of_session {steps : List Step}
    (h : cache.find? ((Lookup.verdicts s).slot (.text id)) = some e) (hpresent : e.value.isNull = false)
    (htime : ∀ step ∈ steps, e.expired step.clock = false) :
    (steps.foldl (Step.cacheAfter s) cache).find? ((Lookup.verdicts s).slot (.text id)) = some e := by
  induction steps generalizing cache with
  | nil => exact h
  | cons step steps ih =>
    obtain ⟨hfirst, hrest⟩ := List.forall_mem_cons.1 htime
    exact ih (step.find?_verdict h hfirst hpresent) hrest

end Lasting

/-! ## The lookup of a verdict -/

namespace Operation

variable {s : Settings} {id : String} {m : Moment} {cache : Cache Stored} {records : List Json}

theorem nodeHealthy_run (s : Settings) (id : String) : (nodeHealthy id).run s
    = (Lookup.verdicts s).orAsk id Stored.toJson (Lookup.askHealth id) >>= fun v => pure (.value v) := by
  unfold run
  simp only
  rw [Lookup.nodeHealthy_eq]

theorem nodeHealthy_of_live {verdict : Stored}
    (hlive : (m.state cache).live ((Lookup.verdicts s).slot (.text id)) = some verdict) :
    (nodeHealthy id).outcome s m cache = (.ok (.value verdict.toJson), []) := by
  rw [outcome_orAsk m cache (nodeHealthy_run s id) (Lookup.askHealth_uncached id), hlive]

theorem nodeHealthy_of_unknown
    (hunknown : (m.state cache).live ((Lookup.verdicts s).slot (.text id)) = none)
    (hlisted : m.remote.listed .ec2 "describe_instance_status" "InstanceStatuses" = .ok records)
    (hrecords : ∀ record ∈ records, Kind.status record) :
    (nodeHealthy id).outcome s m cache
        = (.ok (.value (Lookup.verdictGiven id records).1), [Lookup.statusRequest id]) ∧
      (nodeHealthy id).cacheAfter s m cache = match (Lookup.verdictGiven id records).2 with
        | some value => (cache.get ((Lookup.verdicts s).slot (.text id)) m.clock).2.set
            ((Lookup.verdicts s).slot (.text id)) value (s.healthTtl.deadline m.clock)
        | none => (cache.get ((Lookup.verdicts s).slot (.text id)) m.clock).2 := by
  obtain ⟨hanswer, hevents⟩ := Lookup.askHealth_of_listed id hlisted hrecords
  rw [outcome_orAsk m cache (nodeHealthy_run s id) (Lookup.askHealth_uncached id),
    cacheAfter_orAsk m cache (nodeHealthy_run s id) (Lookup.askHealth_uncached id), hunknown, hanswer, hevents]
  refine ⟨rfl, ?_⟩
  simp only [View.given, Except.toOption, Option.bind_some]
  cases (Lookup.verdictGiven id records).2 <;> rfl

theorem nodeHealthy_again (hunknown : (m.state cache).live ((Lookup.verdicts s).slot (.text id)) = none)
    (later : Moment) :
    (nodeHealthy id).outcome s later (cache.get ((Lookup.verdicts s).slot (.text id)) m.clock).2
      = (((Lookup.askHealth id).answer later.remote).map fun a => .value a.1,
        firstPage later.remote .ec2 "describe_instance_status" [("InstanceIds", .arr [.str id])]) := by
  have hmiss : (later.state (cache.get ((Lookup.verdicts s).slot (.text id)) m.clock).2).live
      ((Lookup.verdicts s).slot (.text id)) = none := State.live_after_miss hunknown later
  rw [outcome_orAsk later _ (nodeHealthy_run s id) (Lookup.askHealth_uncached id), hmiss]
  exact congrArg (Prod.mk _) (judged_events _ _ (Lookup.healthGiven id) rfl later.remote)

theorem nodeHealthy_lasts {c : Cache Stored} {running : Bool} {deadline : Float} {steps : List Step}
    {later : Moment} (htime : ∀ step ∈ steps, ¬ deadline ≤ step.clock) (hlater : ¬ deadline ≤ later.clock) :
    (nodeHealthy id).outcome s later (steps.foldl (Step.cacheAfter s)
        (c.set ((Lookup.verdicts s).slot (.text id)) (.plain (.bool running)) deadline))
      = (.ok (.value (.bool running)), []) := by
  have hstored := c.find?_set_self ((Lookup.verdicts s).slot (.text id)) (.plain (.bool running)) deadline
    (Slot.key ((Lookup.verdicts s).slot (.text id))).toJson
  have hlasts := find?_verdict_of_session hstored rfl fun step hstep => decide_eq_false (htime step hstep)
  exact nodeHealthy_of_live (State.live_of_find? hlasts (decide_eq_false hlater) rfl)

/-- A verdict that is found is cached, and answers without a request as long as its deadline is not reached.
If no record tells of the instance, nothing is cached, and the next call asks again. -/
theorem nodeHealthy_first_record (s : Settings) (id : String) (m : Moment) (cache : Cache Stored)
    (records : List Json)
    (hunknown : (m.state cache).live ((Lookup.verdicts s).slot (.text id)) = none)
    (hlisted : m.remote.listed .ec2 "describe_instance_status" "InstanceStatuses" = .ok records)
    (hrecords : ∀ record ∈ records, Kind.status record) :
    let op := nodeHealthy id
    let slot := (Lookup.verdicts s).slot (.text id)
    let read := (cache.get slot m.clock).2
    let deadline := s.healthTtl.deadline m.clock
    let after := op.cacheAfter s m cache
    (∀ record, records.find? (Lookup.tellsOf id) = some record →
        let running := decide (Lookup.codeOf record % 256 = 16)
        op.outcome s m cache = (.ok (.value (.bool running)), [Lookup.statusRequest id]) ∧
          after = read.set slot (.plain (.bool running)) deadline ∧
          ∀ (steps : List Step) (later : Moment), (∀ step ∈ steps, ¬ deadline ≤ step.clock) →
            ¬ deadline ≤ later.clock →
              op.outcome s later (steps.foldl (Step.cacheAfter s) after)
                = (.ok (.value (.bool running)), [])) ∧
      (records.find? (Lookup.tellsOf id) = none →
        op.outcome s m cache = (.ok (.value (.bool false)), [Lookup.statusRequest id]) ∧ after = read ∧
          ∀ later : Moment, later.remote.starts .ec2 "describe_instance_status" = true →
            (op.outcome s later after).2 = [Lookup.statusRequest id]) := by
  intro op slot read deadline after
  obtain ⟨houtcome, hcache⟩ := nodeHealthy_of_unknown hunknown hlisted hrecords
  unfold Lookup.verdictGiven at houtcome hcache
  refine ⟨fun record hrecord => ?_, fun hnone => ?_⟩
  · rw [hrecord] at houtcome hcache
    have hstored : after = read.set slot (.plain (.bool (Lookup.saysRunning record))) deadline := hcache
    refine ⟨houtcome, hstored, fun steps later htime hlater => ?_⟩
    rw [hstored]
    exact nodeHealthy_lasts htime hlater
  · rw [hnone] at houtcome hcache
    have hread : after = read := hcache
    refine ⟨houtcome, hread, fun later hstarts => ?_⟩
    rw [hread]
    refine (congrArg Prod.snd (nodeHealthy_again hunknown later)).trans ?_
    exact if_pos hstarts

def stateRecord (id : String) (code : Int) : Json :=
  .obj [("InstanceId", .str id), ("InstanceState", .obj [("Code", .num code)])]

theorem status_stateRecord (id : String) (code : Int) : Kind.status (stateRecord id code) := by
  refine ⟨_, rfl, fun field hfield x hx => ?_⟩
  obtain rfl := List.mem_singleton.1 hfield
  obtain rfl := Option.some.inj hx
  refine ⟨_, rfl, fun field hfield x hx => ?_⟩
  obtain rfl := List.mem_singleton.1 hfield
  obtain rfl := Option.some.inj hx
  exact ⟨code, rfl⟩

/-- A time at which some instances have state codes, each on a page of its own. -/
def statesAt (clock : Float) (states : List (String × Int)) : Moment where
  remote := { noSubnets with
    pages := fun _ _ => states.map fun p => .obj [("InstanceStatuses", .arr [stateRecord p.1 p.2])] }
  clock := clock
  draw _ := 0

/-- A host whose state code is negative runs, and is said to run when it has stopped, after a purge. One that
no record tells of is asked for again. -/
theorem nodeHealthy_first_record_statesAt :
    let before := statesAt 5 [("other", 80), ("host", -240), ("host", 80)]
    let later := statesAt 299 [("host", 80)]
    (nodeHealthy "host").outcome {} before .empty = (.ok (.value (.bool true)), [Lookup.statusRequest "host"]) ∧
      (nodeHealthy "host").outcome {} later ((Cache.purge ((nodeHealthy "host").cacheAfter {} before .empty)
        200).2) = (.ok (.value (.bool true)), []) ∧
      (nodeHealthy "none").outcome {} before .empty
        = (.ok (.value (.bool false)), [Lookup.statusRequest "none"]) ∧
      ((nodeHealthy "none").outcome {} later ((nodeHealthy "none").cacheAfter {} before .empty)).2
        = [Lookup.statusRequest "none"] := by
  intro before later
  have hrecords : ∀ record ∈ [stateRecord "other" 80, stateRecord "host" (-240), stateRecord "host" 80],
      Kind.status record := by
    simp only [List.forall_mem_cons, List.not_mem_nil, false_implies, implies_true, and_true]
    exact ⟨status_stateRecord _ _, status_stateRecord _ _, status_stateRecord _ _⟩
  obtain ⟨hfound, -⟩ := nodeHealthy_first_record {} "host" before .empty _ (by rfl) (by rfl) hrecords
  obtain ⟨-, hnone⟩ := nodeHealthy_first_record {} "none" before .empty _ (by rfl) (by rfl) hrecords
  obtain ⟨hanswer, -, hlasts⟩ := hfound (stateRecord "host" (-240)) (by rfl)
  obtain ⟨habsent, -, hagain⟩ := hnone (by rfl)
  refine ⟨hanswer, hlasts [.purge 200] later ?_ (by decide +kernel), habsent, hagain later rfl⟩
  intro step hstep
  obtain rfl := List.mem_singleton.1 hstep
  show ¬ _ ≤ (200 : Float)
  decide +kernel

end Operation

end NetLookup
