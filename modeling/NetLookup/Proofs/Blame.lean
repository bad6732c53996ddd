import NetLookup.Proofs.Escapes
import NetLookup.Proofs.Lookup.Attempts
import NetLookup.Proofs.Retry.LastCall

/-! # Failures name the last attempt

Lookups are nested, and any stage of them can fail, on any page, over three services. Still a failed request
is always the last one that was attempted, and the failure says which it was and what was raised. -/

namespace NetLookup

variable {α β : Type} {r : Remote}

/-! ## The last attempt -/

namespace Remote

/-- A failed request names the last attempt, and what was raised at it. An attempt at which something was
raised is followed by nothing but further deletions of the same group, and waits for them. -/
structure Blames (r : Remote) (answer : Except Failure α) (attempts : List Event) : Prop where
  named : ∀ request cause, answer = .error (.transport request cause) →
    ∃ before event raised, attempts = before ++ [event] ∧ r.raises before event = some raised ∧
      request.Names event raised ∧ cause = some raised
  last : ∀ before event after raised, attempts = before ++ event :: after →
    r.raises before event = some raised → ∀ later ∈ after,
      ∃ id, event = Lookup.deleteCall id ∧ (later = event ∨ ∃ wait, later = .sleep wait)

theorem Blames.of_failures {answer : Except Failure α} {attempts : List Event}
    (h : r.Blames answer attempts) {other : Except Failure β}
    (hother : ∀ request cause, other = .error (.transport request cause) →
      answer = .error (.transport request cause)) : r.Blames other attempts :=
  ⟨fun request cause hfail => h.named request cause (hother request cause hfail), h.last⟩

theorem Accounts.blames {answer : Except Failure α} {attempts : List Event}
    (h : r.Accounts answer attempts) : r.Blames answer attempts := by
  cases h with
  | smooth hquiet hblameless =>
    constructor
    · intro request cause hfail
      exact absurd rfl (hblameless.failure hfail request cause)
    · rintro before event after raised rfl hraised
      rw [hquiet event (by simp) before] at hraised
      cases hraised
  | stopped before event raised hquiet hraised hblamed =>
    constructor
    · intro request cause hfail
      exact ⟨before, event, raised, rfl, hraised before, hblamed request cause (Except.error.inj hfail)⟩
    · intro first other after found hsplit hfound
      -- Anything after it would make it one of the quiet ones.
      rcases after.eq_nil_or_concat with rfl | ⟨rest, later, rfl⟩
      · simp
      · have hsplit : before ++ [event] = (first ++ other :: rest) ++ [later] := by simpa using hsplit
        obtain ⟨hbefore, -⟩ := List.append_inj' hsplit rfl
        rw [hquiet other (by simp [hbefore]) first] at hfound
        cases hfound

end Remote

/-! ## Operations by their effects -/

namespace Operation

/-- What an operation attempts: what it does where every listing is sent before it breaks off. -/
def attempts (s : Settings) (op : Operation) (m : Moment) (cache : Cache Stored) : List Event :=
  (op.outcome s { m with remote := m.remote.begun } cache).2

structure Traced (s : Settings) (op : Operation) (m : Moment) (cache : Cache Stored) : Prop where
  answer : (op.outcome s { m with remote := m.remote.begun } cache).1 = (op.outcome s m cache).1
  sent : (op.outcome s m cache).2 = (op.attempts s m cache).filter m.remote.sends
  blames : m.remote.Blames (op.outcome s m cache).1 (op.attempts s m cache)

variable {s : Settings} {op : Operation} {m : Moment} {cache : Cache Stored}

theorem Traced.of_effect {E attempted : Effect Answer} (h : Effect.Attempts m.remote E attempted)
    (hreal : op.outcome s m cache = (E.answer, E.events))
    (hbegun : op.outcome s { m with remote := m.remote.begun } cache
      = (attempted.answer, attempted.events)) : op.Traced s m cache where
  answer := by rw [hreal, hbegun, h.answer]
  sent := by rw [attempts, hreal, hbegun, h.sent]
  blames := by
    rw [attempts, hreal, hbegun, ← h.answer]
    exact h.accounts.blames

theorem effect_attempts {E : Sight → Effect Answer} (heffect : op.effect? s = some E) (seen : Sight)
    (hr : seen.remote.FailsPlainly) : Effect.Attempts seen.remote (E seen) (E seen.begun) := by
  cases op with
  | subnets names =>
    obtain rfl := Option.some.inj heffect
    exact (NameLookup.subnets.effect_attempts hr s names).map _
  | securityGroups names =>
    obtain rfl := Option.some.inj heffect
    exact (NameLookup.groups.effect_attempts hr s names).map _
  | clusterSubnets scheme =>
    obtain rfl := Option.some.inj heffect
    exact (Lookup.clusterEffect_attempts hr s scheme).map _
  | vpcId =>
    obtain rfl := Option.some.inj heffect
    exact (Lookup.networkEffect_attempts hr s).map _
  | vpc id =>
    obtain rfl := Option.some.inj heffect
    have hasked : (Lookup.askVpc id).Attempts seen.remote :=
      judged_attempts hr _ _ rfl (Lookup.vpcGiven_blameless id)
    exact (View.orAskEffect_attempts hasked).map _
  | nodeHealthy id =>
    obtain rfl := Option.some.inj heffect
    have hasked : (Lookup.askHealth id).Attempts seen.remote :=
      judged_attempts hr _ _ rfl fun records => (Lookup.verdictOf_onlyFaults id records).blameless.map
    exact (View.orAskEffect_attempts hasked).map _
  | _ => cases heffect

/-! ## Operations without the cache -/

theorem outcome_alone {γ : Type} {w : Work γ} {f : γ → Answer}
    (hrun : op.run s = w >>= fun a => pure (f a)) (hw : w.Uncached) (m : Moment) :
    op.outcome s m cache = ((w.answer m.remote).map f, w.events m.remote) := by
  unfold outcome
  rw [hrun, Work.bind_run, hw]
  show _ = ((w.answer m.remote).map f, w.events m.remote)
  have hremote : (m.state cache).remote = m.remote := rfl
  rw [hremote]
  cases w.answer m.remote with
  | error e => rfl
  | ok a => rfl

theorem Traced.of_alone {γ : Type} {w : Work γ} {f : γ → Answer}
    (hrun : op.run s = w >>= fun a => pure (f a)) (hw : w.Uncached) (h : w.Attempts m.remote) :
    op.Traced s m cache :=
  .of_effect (h.map f) (outcome_alone hrun hw m) (outcome_alone hrun hw _)

/-! ## Deletion -/

theorem outcome_deleteSecurityGroup (id : String) :
    (deleteSecurityGroup id).outcome s m cache
      = ((((Lookup.deletions m.remote.deletion).run (Lookup.deletePolicy s) m.draw).result.map
          fun _ => .done),
        Lookup.callsWithWaits (Lookup.deleteCall id)
          ((Lookup.deletions m.remote.deletion).run (Lookup.deletePolicy s) m.draw).waits) := by
  obtain ⟨hresult, htrace⟩ := Lookup.deleteSecurityGroup_run s id (m.state cache)
  unfold outcome run
  rw [Work.bind_run]
  rcases hrun : (Lookup.deleteSecurityGroup s id).run.run (m.state cache) with ⟨e | done, t⟩
  · rw [hrun] at hresult htrace
    exact Prod.ext (congrArg (Except.map _) hresult) htrace
  · rw [hrun] at hresult htrace
    exact Prod.ext (congrArg (Except.map fun _ => Answer.done) hresult) htrace

theorem deletion_blames (hr : m.remote.FailsPlainly) (id : String) :
    m.remote.Blames ((deleteSecurityGroup id).outcome s m cache).1
      ((deleteSecurityGroup id).outcome s m cache).2 := by
  rw [outcome_deleteSecurityGroup]
  generalize hrun : (Lookup.deletions m.remote.deletion).run (Lookup.deletePolicy s) m.draw = full
  have houtcome (i : Nat) (e : Failure) (he : (Lookup.deletions m.remote.deletion).outcome i = .error e) :
      m.remote.deletion i = some e := by
    unfold Lookup.deletions at he
    cases hi : m.remote.deletion i with
    | none => simp [hi] at he
    | some e' => simpa [hi] using he
  constructor
  · intro request cause hfail
    have hfail := error_of_map hfail
    -- The trace ends with the last call, whose number is that of the calls before it.
    have hcalls := Repeated.calls_run (Lookup.deletions m.remote.deletion) (Lookup.deletePolicy s) m.draw
    rw [hrun] at hcalls
    rw [← hrun] at hfail
    obtain ⟨e, he, hnamed⟩ := Repeated.continueRun_failure _ _ m.draw
      (fun i e he => hr.deletions i e (houtcome i e he)) _ 0 [] hfail
    rw [← Repeated.run, hrun, hcalls, Nat.add_sub_cancel] at he
    refine ⟨_, _, e, Lookup.callsWithWaits_eq _ _, ?_, ?_⟩
    · simp only [Lookup.deleteCall, Remote.raises, beq_self_eq_true, if_true]
      rw [← Lookup.deleteCall, Lookup.countP_calls]
      exact houtcome _ e he
    · exact FailedRequest.names_of_named (hr.deletions _ e (houtcome _ e he)) rfl
        (fun _ _ _ h => by cases h) hnamed
  · intro before event after raised hsplit hraised later hlater
    have hmem {x : Event} (hx : x ∈ before ++ event :: after) :
        x = Lookup.deleteCall id ∨ ∃ wait, x = .sleep wait :=
      Lookup.mem_callsWithWaits (hsplit ▸ hx)
    rcases hmem (x := event) (by simp) with rfl | ⟨wait, rfl⟩
    · exact ⟨id, rfl, hmem (by simp [hlater])⟩
    · cases hraised

/-- The listing of one group may be refused because there is none, which is no failure. -/
theorem traced_securityGroupById (hr : m.remote.FailsPlainly) (id : String) :
    (securityGroupById id).Traced s m cache := by
  obtain ⟨huncached, hanswer, hevents⟩ := Lookup.securityGroupById_asks id
  have hlisting := Lookup.describeGroups_attempts hr id
  have houtcome (w : Moment) : (securityGroupById id).outcome s w cache = _ :=
    outcome_alone rfl huncached w
  have hsame : (Lookup.securityGroupById id).answer m.remote.begun
      = (Lookup.securityGroupById id).answer m.remote := by
    have hdescribed : (Lookup.describeGroups (Lookup.groupParams id)).answer m.remote.begun
        = (Lookup.describeGroups (Lookup.groupParams id)).answer m.remote := hlisting.answer
    simp only [hanswer, hdescribed]
  refine ⟨?_, ?_, ?_⟩
  · rw [houtcome, houtcome, hsame]
  · rw [attempts, houtcome, houtcome, hevents]
    exact hlisting.sent
  · rw [attempts, houtcome, houtcome, hevents]
    refine hlisting.accounts.blames.of_failures fun request cause hfail => ?_
    refine hlisting.answer.trans (Lookup.failure_of_securityGroupById (error_of_map hfail))

/-! ## All operations -/

/-- If an operation fails with the failure of a request, that is the last one it attempted, and the failure
names it and what was raised at it. After an attempt that fails nothing else is attempted, except that a
deletion may be repeated. -/
theorem blames_last_attempt (s : Settings) (op : Operation) (m : Moment) (cache : Cache Stored)
    (hr : m.remote.FailsPlainly) : op.Traced s m cache := by
  cases heffect : op.effect? s with
  | some E =>
    have hattempts : Effect.Attempts m.remote (E (m.state cache).sight) (E (m.state cache).sight.begun) :=
      effect_attempts heffect (m.state cache).sight hr
    exact .of_effect hattempts (outcome_eq m cache heffect) (outcome_eq _ cache heffect)
  | none =>
    cases op with
    | securityGroupById id => exact traced_securityGroupById hr id
    | securityGroupByName network name =>
      exact .of_alone rfl (judged_uncached _ _ Lookup.firstGroup rfl)
        (Lookup.securityGroupByName_attempts hr network name)
    | deleteSecurityGroup id =>
      have hbegun : (deleteSecurityGroup id).outcome s { m with remote := m.remote.begun } cache
          = (deleteSecurityGroup id).outcome s m cache := by
        rw [outcome_deleteSecurityGroup, outcome_deleteSecurityGroup]
        rfl
      refine ⟨by rw [hbegun], ?_, ?_⟩
      · rw [attempts, hbegun, outcome_deleteSecurityGroup, List.filter_eq_self.2 fun event hevent => ?_]
        rcases Lookup.mem_callsWithWaits hevent with rfl | ⟨wait, rfl⟩
        · rfl
        · rfl
      · rw [attempts, hbegun]
        exact deletion_blames hr id
    | instances ids =>
      exact .of_alone rfl (Lookup.instances_uncached ids) (Lookup.instances_attempts hr ids)
    | status => exact .of_alone rfl Lookup.status_asks.1 (Lookup.status_attempts hr)
    | _ => cases heffect

/-- A listing that is refused before it is sent leaves no trace, and yet the failure names it. -/
theorem blames_last_attempt_heldGroup :
    ((vpc "vpc-1").outcome {} ⟨heldGroup, 0, fun _ => 0⟩ .empty).2 = [] ∧
      ∃ request, ((vpc "vpc-1").outcome {} ⟨heldGroup, 0, fun _ => 0⟩ .empty).1
          = .error (.transport request (some (.sdk .noRegion))) ∧
        request.operation = .str "describe_vpcs" ∧ request.code = .str "NoRegionError" ∧
          request.params = [("VpcIds", .arr [.str "vpc-1"])] := by
  obtain ⟨-, hsent, hblames⟩ := blames_last_attempt {} (vpc "vpc-1") ⟨heldGroup, 0, fun _ => 0⟩ .empty
    heldGroup_documented.failsPlainly
  have hattempts : (vpc "vpc-1").attempts {} ⟨heldGroup, 0, fun _ => 0⟩ .empty
      = [.page .ec2 "describe_vpcs" [("VpcIds", .arr [.str "vpc-1"])]] := by rfl
  have hfails : ∃ request cause, ((vpc "vpc-1").outcome {} ⟨heldGroup, 0, fun _ => 0⟩ .empty).1
      = .error (.transport request cause) := ⟨_, _, by rfl⟩
  obtain ⟨request, cause, hfail⟩ := hfails
  obtain ⟨before, event, raised, hsplit, hraised, hnames, rfl⟩ := hblames.named request cause hfail
  rw [hattempts] at hsent hsplit
  have hsplit : [] ++ [Event.page .ec2 "describe_vpcs" [("VpcIds", .arr [.str "vpc-1"])]]
      = before ++ [event] := hsplit
  obtain ⟨rfl, hevent⟩ := List.append_inj' hsplit rfl
  obtain rfl := (List.singleton_inj.1 hevent).symm
  obtain rfl := Option.some.inj hraised
  obtain ⟨service, operation, htitle, -, hoperation⟩ := hnames.title
  refine ⟨hsent, request, hfail, ?_, hnames.code, hnames.params _ _ _ rfl⟩
  rw [hoperation, ← (Prod.mk.inj (Option.some.inj htitle)).2]

end Operation

end NetLookup
