import NetLookup.Proofs.Effect
import NetLookup.Proofs.Lookup.Asked

/-! # Lookups of one key

Each of them reads a key, and asks the remote side if there is no live value. They differ in whom they ask
and in which answers they store. -/

namespace NetLookup

variable {β : Type}

/-! ## The common form -/

namespace View

def keep (v : View) (key : String) : β × Option Stored → Work β
  | (answer, none) => return answer
  | (answer, some value) => do
    v.write (.text key) value
    return answer

/-- The live value of a key, or else what is asked for. -/
def orAsk (v : View) (key : String) (use : Stored → β) (ask : Work (β × Option Stored)) : Work β := do
  match ← v.read key with
  | some found => return use found
  | none => v.keep key (← ask)

def given (answer : Except Failure (β × Option Stored)) : Option Stored := answer.toOption.bind (·.2)

theorem given_eq_some {answer : Except Failure (β × Option Stored)} {value : Stored} :
    given answer = some value ↔ ∃ a, answer = .ok (a, some value) := by
  unfold given
  rcases answer with e | ⟨a, given⟩
  · simp [Except.toOption]
  · simp [Except.toOption]

def stamped (v : View) (now : Float) (key : Key) (value : Stored) : Cache.Store Stored :=
  (v.slot key, value, v.ttl.deadline now)

def askEffect (v : View) (key : String) (ask : Work (β × Option Stored)) (seen : Sight) : Effect β :=
  ⟨(ask.answer seen.remote).map (·.1), ask.events seen.remote,
    (given (ask.answer seen.remote)).toList.map (v.stamped seen.clock (.text key))⟩

def orAskEffect (v : View) (key : String) (use : Stored → β) (ask : Work (β × Option Stored))
    (seen : Sight) : Effect β :=
  match seen.live (v.slot (.text key)) with
  | some found => .of (.ok (use found))
  | none => v.askEffect key ask seen

theorem keep_does (v : View) (key : String) (a : β × Option Stored) :
    (v.keep key a).Does fun seen =>
      ⟨.ok a.1, [], a.2.toList.map (v.stamped seen.clock (.text key))⟩ := by
  obtain ⟨answer, given⟩ := a
  cases given with
  | none => exact Work.pure_does answer
  | some value => exact (Work.write_does v (.text key) value _).map fun _ => answer

theorem ask_does (v : View) (key : String) {ask : Work (β × Option Stored)} (hask : ask.Uncached) :
    (ask >>= v.keep key).Does (v.askEffect key ask) := by
  have hdoes := hask.does.bind_blind (v.keep_does key) fun _ _ _ => rfl
  have heffect (seen : Sight) :
      (Effect.andThen ⟨ask.answer seen.remote, ask.events seen.remote, []⟩
        fun a => ⟨.ok a.1, [], a.2.toList.map (v.stamped seen.clock (.text key))⟩)
          = v.askEffect key ask seen := by
    unfold askEffect
    cases ask.answer seen.remote with
    | error e => rfl
    | ok a => simp [Effect.andThen, Except.map, given, Except.toOption]
  simp only [heffect] at hdoes
  exact hdoes

theorem orAsk_does (v : View) (key : String) (use : Stored → β) {ask : Work (β × Option Stored)}
    (hask : ask.Uncached) : (v.orAsk key use ask).Does (v.orAskEffect key use ask) := by
  have hrest (found : Option Stored) : Work.Does (match found with
      | some found => return use found
      | none => ask >>= v.keep key) fun seen => match found with
        | some found => .of (.ok (use found))
        | none => v.askEffect key ask seen := by
    cases found with
    | some found => exact Work.pure_does (use found)
    | none => exact v.ask_does key hask
  have hdoes := (Work.read_does v key).bind (fun _ => rfl) hrest
  simp only [Effect.of_andThen] at hdoes
  exact hdoes

theorem orAsk_entry (v : View) (key : String) (use : Stored → β) {ask : Work (β × Option Stored)}
    (hask : ask.Uncached) {st : State} {answer : β} {value : Stored}
    (hlive : st.live (v.slot (.text key)) = none)
    (hanswer : ask.answer st.remote = .ok (answer, some value)) :
    ∃ e, ((v.orAsk key use ask).run.run st).2.cache.find? (v.slot (.text key)) = some e ∧
      e.value = value ∧ e.deadline = v.ttl.deadline st.clock := by
  have hread : (v.read key).run.run st
      = (.ok none, { st with cache := (v.get st.cache (.text key) st.clock).2 }) := by
    rw [read_run]
    exact congrArg (fun found => (Except.ok found, _)) hlive
  unfold orAsk
  rw [Work.bind_run_ok hread]
  simp only
  rw [Work.bind_run, hask]
  simp only [hanswer, keep]
  refine ⟨_, Cache.find?_set_self _ _ value _ _, rfl, rfl⟩

theorem orAsk_cache (v : View) (key : String) (use : Stored → β) {ask : Work (β × Option Stored)}
    (hask : ask.Uncached) (st : State) :
    ((v.orAsk key use ask).run.run st).2.cache
      = match st.live (v.slot (.text key)), given (ask.answer st.remote) with
        | none, some value => v.set (v.get st.cache (.text key) st.clock).2 (.text key) value st.clock
        | _, _ => (v.get st.cache (.text key) st.clock).2 := by
  have hread := v.read_run key st
  change _ = (Except.ok (st.live (v.slot (.text key))), _) at hread
  unfold orAsk
  rw [Work.bind_run_ok hread]
  cases st.live (v.slot (.text key)) with
  | some found => rfl
  | none =>
    simp only
    rw [Work.bind_run, hask]
    simp only
    rcases ask.answer st.remote with e | ⟨answer, _ | value⟩
    · rfl
    · rfl
    · rfl

end View

namespace Lookup

/-! ## The network of the host -/

def networkGiven (reservations : List Json) : Except Failure (Json × Option Stored) :=
  (networkOf (.arr reservations)).map fun id => (id, some (.plain id))

def instanceNetwork (id : Json) : Work (Json × Option Stored) :=
  judged "describe_instances" "Reservations" [("InstanceIds", .arr [id])] networkGiven

/-- The host says which instance it is, and the instance says where it is. -/
def askNetwork (s : Settings) : Work (Json × Option Stored) := do
  instanceNetwork (← hostIdentity s.metadata).instanceId

theorem instanceNetwork_uncached (id : Json) : (instanceNetwork id).Uncached :=
  judged_uncached _ _ networkGiven rfl

theorem askNetwork_uncached (s : Settings) : (askNetwork s).Uncached :=
  (hostIdentity_asks s.metadata).1.bind fun identity => instanceNetwork_uncached identity.instanceId

theorem askNetwork_answer (s : Settings) (r : Remote) :
    (askNetwork s).answer r = (MetadataService.identityOf r).bind fun identity =>
      (instanceNetwork identity.instanceId).answer r := by
  obtain ⟨hhost, hidentity, -⟩ := hostIdentity_asks s.metadata
  rw [← hidentity]
  exact Work.answer_bind hhost (fun identity => instanceNetwork_uncached identity.instanceId) r

theorem askNetwork_events (s : Settings) (r : Remote) :
    (askNetwork s).events r = s.metadata.requests r ++ match MetadataService.identityOf r with
      | .ok identity => (instanceNetwork identity.instanceId).events r
      | .error _ => [] := by
  obtain ⟨hhost, hidentity, hrequests⟩ := hostIdentity_asks s.metadata
  rw [← hidentity, ← hrequests]
  refine (Work.events_bind hhost (fun identity => instanceNetwork_uncached identity.instanceId)
    r).trans ?_
  cases (hostIdentity s.metadata).answer r <;> rfl

theorem vpcId_eq (s : Settings) :
    vpcId s = match nonEmpty s.vpcId with
      | some id => return .str id
      | none => (vpcIds s).orAsk "" Stored.toJson (askNetwork s) := by
  unfold vpcId View.orAsk askNetwork instanceNetwork judged
  cases nonEmpty s.vpcId with
  | some id => rfl
  | none =>
    refine bind_congr fun found => ?_
    cases found with
    | some found => rfl
    | none =>
      simp only [bind_assoc]
      refine bind_congr fun identity => bind_congr fun reservations => ?_
      unfold networkGiven
      rw [Work.check_map]
      simp only [bind_assoc, pure_bind, View.keep]

def networkEffect (s : Settings) (seen : Sight) : Effect Json :=
  match nonEmpty s.vpcId with
  | some id => .of (.ok (.str id))
  | none => (vpcIds s).orAskEffect "" Stored.toJson (askNetwork s) seen

theorem vpcId_does (s : Settings) : (vpcId s).Does (networkEffect s) := by
  rw [vpcId_eq]
  unfold networkEffect
  cases nonEmpty s.vpcId with
  | some id => exact Work.pure_does (Json.str id)
  | none => exact (vpcIds s).orAsk_does "" Stored.toJson (askNetwork_uncached s)

theorem networkOf_present {reservations id : Json} (h : networkOf reservations = .ok id) :
    id ≠ .null ∧ id ≠ .str "" := by
  unfold networkOf at h
  obtain ⟨count, -, h⟩ := ok_of_bind h
  by_cases hcount : count = 0
  · simp only [hcount, if_true] at h
    cases h
  · simp only [hcount, if_false] at h
    obtain ⟨reservation, -, h⟩ := ok_of_bind h
    obtain ⟨instances, -, h⟩ := ok_of_bind h
    obtain ⟨size, -, h⟩ := ok_of_bind h
    by_cases hsize : size = 0
    · simp only [hsize, if_true] at h
      cases h
    · simp only [hsize, if_false] at h
      obtain ⟨first, -, h⟩ := ok_of_bind h
      obtain ⟨found, -, h⟩ := ok_of_bind h
      split at h
      · cases h
      · cases h
      · rename_i hnull hempty
        cases h
        exact ⟨hnull, hempty⟩

theorem askNetwork_given {s : Settings} {r : Remote} {id : Json} {given : Option Stored}
    (h : (askNetwork s).answer r = .ok (id, given)) :
    given = some (.plain id) ∧ id ≠ .null ∧ id ≠ .str "" := by
  rw [askNetwork_answer] at h
  obtain ⟨identity, -, h⟩ := ok_of_bind h
  obtain ⟨reservations, -, hgiven⟩ := judged_ok _ _ networkGiven rfl h
  obtain ⟨network, hnetwork, heq⟩ := ok_of_map hgiven
  cases heq
  exact ⟨rfl, networkOf_present hnetwork⟩

theorem askNetwork_use {s : Settings} {r : Remote} {id : Json} {value : Stored}
    (h : (askNetwork s).answer r = .ok (id, some value)) : id = value.toJson := by
  obtain ⟨heq, -⟩ := askNetwork_given h
  cases heq
  rfl

/-! ## A network -/

def vpcGiven (id : String) : List Json → Except Failure (Stored × Option Stored)
  | [record] => (Vpc.ofJson record).map fun found => (.vpc found, some (.vpc found))
  | records => .error (.invariant "VPCs" id 1 records.length)

def askVpc (id : String) : Work (Stored × Option Stored) :=
  judged "describe_vpcs" "Vpcs" [("VpcIds", .arr [.str id])] (vpcGiven id)

theorem askVpc_uncached (id : String) : (askVpc id).Uncached :=
  judged_uncached _ _ (vpcGiven id) rfl

theorem vpc_eq (s : Settings) (id : String) : vpc s id = (vpcs s).orAsk id (·) (askVpc id) := by
  unfold vpc View.orAsk askVpc judged
  refine bind_congr fun found => ?_
  cases found with
  | some found => rfl
  | none =>
    simp only [bind_assoc]
    refine bind_congr fun records => ?_
    rcases records with _ | ⟨record, _ | ⟨second, records⟩⟩
    · rfl
    · unfold vpcGiven
      rw [Work.check_map]
      simp only [bind_assoc, pure_bind, View.keep]
    · rfl

theorem askVpc_given {id : String} {r : Remote} {found value : Stored}
    (h : (askVpc id).answer r = .ok (found, some value)) : found = value ∧ ∃ v, value = .vpc v := by
  obtain ⟨records, -, hgiven⟩ := judged_ok _ _ (vpcGiven id) rfl h
  unfold vpcGiven at hgiven
  split at hgiven
  · obtain ⟨vpc, -, heq⟩ := ok_of_map hgiven
    cases heq
    exact ⟨rfl, vpc, rfl⟩
  · cases hgiven

/-! ## Health -/

/-- Nothing is stored about an instance that no record tells of. -/
def healthGiven (id : String) (records : List Json) : Except Failure (Json × Option Stored) :=
  (verdictOf id records).map fun verdict => match verdict with
    | none => (.bool false, none)
    | some healthy => (.bool healthy, some (.plain (.bool healthy)))

def askHealth (id : String) : Work (Json × Option Stored) :=
  judged "describe_instance_status" "InstanceStatuses" [("InstanceIds", .arr [.str id])]
    (healthGiven id)

theorem askHealth_uncached (id : String) : (askHealth id).Uncached :=
  judged_uncached _ _ (healthGiven id) rfl

theorem nodeHealthy_eq (s : Settings) (id : String) :
    nodeHealthy s id = (verdicts s).orAsk id Stored.toJson (askHealth id) := by
  unfold nodeHealthy View.orAsk askHealth judged
  refine bind_congr fun found => ?_
  cases found with
  | some found => rfl
  | none =>
    simp only [bind_assoc]
    refine bind_congr fun records => ?_
    unfold healthGiven
    rw [Work.check_map, bind_assoc]
    refine bind_congr fun verdict => ?_
    cases verdict with
    | none => rfl
    | some healthy => rfl

theorem askHealth_verdict {id : String} {r : Remote} {verdict : Json} {given : Option Stored}
    (h : (askHealth id).answer r = .ok (verdict, given)) : ∃ healthy, verdict = .bool healthy := by
  obtain ⟨records, -, hgiven⟩ := judged_ok _ _ (healthGiven id) rfl h
  obtain ⟨found, -, heq⟩ := ok_of_map hgiven
  cases found with
  | none =>
    cases heq
    exact ⟨false, rfl⟩
  | some healthy =>
    cases heq
    exact ⟨healthy, rfl⟩

theorem askHealth_given {id : String} {r : Remote} {verdict : Json} {value : Stored}
    (h : (askHealth id).answer r = .ok (verdict, some value)) :
    verdict = value.toJson ∧ ∃ healthy, value = .plain (.bool healthy) := by
  obtain ⟨records, -, hgiven⟩ := judged_ok _ _ (healthGiven id) rfl h
  obtain ⟨found, -, heq⟩ := ok_of_map hgiven
  cases found with
  | none => cases heq
  | some healthy =>
    cases heq
    exact ⟨rfl, healthy, rfl⟩

end Lookup

end NetLookup
