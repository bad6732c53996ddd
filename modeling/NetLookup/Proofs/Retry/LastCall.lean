import NetLookup.Proofs.Attempts
import NetLookup.Proofs.Retry.Dependency

/-! # The failure of a repeated request

A request that is repeated and fails in the end fails with what the last call came to. The rules and the
arithmetic of the waits between the calls can fail too, but name no request. -/

namespace NetLookup

variable {α : Type}

/-! ## Powers -/

namespace Decimal

theorem machinePower_onlyFaults (base : Float) (n : Int) : OnlyFaults (machinePower base n) := by
  unfold machinePower
  dsimp only
  split
  · exact .fault _
  · exact .ok _

theorem powerOfPositive_onlyFaults (base : Float) (m : Nat) (q n : Int) :
    OnlyFaults (powerOfPositive base m q n) := by
  unfold powerOfPositive powerOfTwo
  split
  split
  · split
    · exact .fault _
    · exact .ok _
  split
  · split
    · exact .ok _
    · exact machinePower_onlyFaults base n
  · exact machinePower_onlyFaults base n

theorem power_onlyFaults (base : Float) (n : Int) : OnlyFaults (power base n) := by
  unfold power
  by_cases hzero : n = 0
  · rw [if_pos hzero]
    exact .ok _
  by_cases hfar : beyondFloats ≤ n.natAbs
  · rw [if_neg hzero, if_pos hfar]
    exact .fault _
  rw [if_neg hzero, if_neg hfar]
  split
  · exact .ok _
  · split
    · exact .ok _
    · exact .ok _
  · split
    · exact .fault _
    · exact .ok _
  · exact (powerOfPositive_onlyFaults _ _ _ _).map

end Decimal

/-! ## Rules -/

theorem Policy.shouldRetry_onlyFaults (p : Policy) (e : Failure) (count : Int) :
    OnlyFaults (p.shouldRetry e count) := by
  induction p with
  | standard b =>
    unfold shouldRetry Failure.isRetryable
    split
    · split
      · exact .ok true
      · exact Failure.codeAmong_onlyFaults _ e
    · exact .ok false
  | dependency inner n ih =>
    unfold shouldRetry
    split
    · exact .ok _
    · exact ih

theorem Policy.wait?_onlyFaults (p : Policy) (e : Failure) (count : Int) (draw : Float) :
    OnlyFaults (p.wait? e count draw) := by
  refine (p.shouldRetry_onlyFaults e count).bind fun again => ?_
  cases again with
  | false => exact .ok none
  | true =>
    have hdelay : OnlyFaults (p.delay count draw) := by
      rw [Policy.delay_eq_backoff]
      exact ((Decimal.power_onlyFaults _ _).bind fun _ => .ok _).bind fun _ => .ok _
    exact hdelay.bind fun _ => .ok _

/-! ## Runs -/

namespace Repeated

theorem continueRun_failure (R : Repeated α) (p : Policy) (draw : Nat → Float)
    (hremote : ∀ i e, R.outcome i = .error e → e.isRemote = true) (spare i : Nat) (seen : List String)
    {request : FailedRequest} {cause : Option Failure}
    (h : (R.continueRun p draw spare i seen).result = .error (.transport request cause)) :
    ∃ e, R.outcome ((R.continueRun p draw spare i seen).calls - 1) = .error e ∧
      R.named e = .transport request cause := by
  -- How many calls there are shows only at the end, so the rest of the run decides.
  induction spare generalizing i seen with
  | zero =>
    cases ho : R.outcome i with
    | ok a =>
      rw [continueRun_value R p draw 0 i seen ho] at h
      cases h
    | error e =>
      rw [continueRun_last R p draw i seen ho] at h ⊢
      exact ⟨e, ho, Except.error.inj h⟩
  | succ spare ih =>
    cases ho : R.outcome i with
    | ok a =>
      rw [continueRun_value R p draw _ i seen ho] at h
      cases h
    | error e =>
      have he := hremote i e ho
      cases hwait : p.wait? e (seen.count (p.attemptKey e) + 1) (draw i) with
      | error f =>
        -- The policy itself fails, and never with the failure of a request.
        unfold continueRun at h
        simp only [ho, he, if_true, hwait] at h
        exact absurd (Except.error.inj h) ((p.wait?_onlyFaults _ _ _).blameless.failure hwait request cause)
      | ok again =>
        cases again with
        | none =>
          rw [continueRun_given_up R p draw _ i seen ho he hwait] at h ⊢
          exact ⟨e, ho, Except.error.inj h⟩
        | some wait =>
          rw [continueRun_repeated R p draw _ i seen ho he hwait] at h ⊢
          exact ih (i + 1) _ h

end Repeated

namespace Lookup

/-! ## Deletions -/

theorem callsWithWaits_eq (call : Event) (waits : List Float) :
    callsWithWaits call waits = (waits.flatMap fun w => [call, .sleep w]) ++ [call] := by
  unfold callsWithWaits
  induction waits with
  | nil => rfl
  | cons w waits ih => simpa using ih

theorem countP_calls (id : String) (waits : List Float) :
    (waits.flatMap fun w => [deleteCall id, .sleep w]).countP Event.isDeletion = waits.length := by
  induction waits with
  | nil => rfl
  | cons w waits ih =>
    rw [List.flatMap_cons, List.countP_append, ih, List.length_cons, Nat.add_comm]
    rfl

theorem mem_callsWithWaits {call event : Event} {waits : List Float}
    (h : event ∈ callsWithWaits call waits) : event = call ∨ ∃ wait, event = .sleep wait := by
  unfold callsWithWaits at h
  rcases List.mem_cons.1 h with rfl | h
  · exact Or.inl rfl
  · obtain ⟨w, -, h⟩ := List.mem_flatMap.1 h
    rcases List.mem_cons.1 h with rfl | h
    · exact Or.inr ⟨w, rfl⟩
    · exact Or.inl (List.mem_singleton.1 h)

theorem deleteSecurityGroup_run (s : Settings) (id : String) (st : State) :
    ((deleteSecurityGroup s id).run.run st).1
        = ((deletions st.remote.deletion).run (deletePolicy s) st.draw).result ∧
      ((deleteSecurityGroup s id).run.run st).2.trace = st.trace
        ++ callsWithWaits (deleteCall id)
          ((deletions st.remote.deletion).run (deletePolicy s) st.draw).waits := by
  unfold deleteSecurityGroup
  rw [Work.bind_run_ok (Work.get_run st)]
  exact ⟨rfl, rfl⟩

end Lookup

end NetLookup
