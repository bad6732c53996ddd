import NetLookup.Proofs.Escapes

/-! # When a repeated request stops

Outcomes may come without end. A run stops at the first that is a value, a failure of the surroundings, or a
failure of the cloud interface that the rule does not allow another attempt after. How many attempts there
were decides that, and how many of the failures so far have the same key. -/

namespace NetLookup.Repeated

variable {α : Type}

/-! ## Failures by their keys -/

/-- The key that an outcome is counted under. Only failures of the cloud interface count. -/
def keyOf (p : Policy) : Except Failure α → Option String
  | .ok _ => none
  | .error e => if e.isRemote then some (p.attemptKey e) else none

def failures (r : Repeated α) (p : Policy) (n : Nat) (key : String) : Nat :=
  (List.range n).countP fun i => keyOf p (r.outcome i) == some key

section Failures

variable (r : Repeated α) (p : Policy)

theorem failures_le (n : Nat) (key : String) : r.failures p n key ≤ n := by
  unfold failures
  have h := List.countP_le_length (l := List.range n) (p := fun i => keyOf p (r.outcome i) == some key)
  rw [List.length_range] at h
  exact h

theorem failures_succ {i : Nat} {e : Failure} (he : r.outcome i = .error e) (hremote : e.isRemote = true)
    (key : String) :
    r.failures p (i + 1) key = r.failures p i key + if p.attemptKey e = key then 1 else 0 := by
  unfold failures
  rw [List.range_succ, List.countP_append, List.countP_singleton]
  simp [keyOf, he, hremote]

end Failures

/-! ## Stops -/

/-- A failure ends the run if no attempts are left after call `i`, counted from zero, or if the rule refuses
another one after so many failures of that key. -/
def Fatal (r : Repeated α) (p : Policy) (i : Nat) (e : Failure) : Prop :=
  p.maxAttempts ≤ i + 1 ∨ p.shouldRetry e (r.failures p (i + 1) (p.attemptKey e)) = .ok false

inductive Stops (r : Repeated α) (p : Policy) (i : Nat) : Except Failure α → Prop where
  | value {v : α} (h : r.outcome i = .ok v) : Stops r p i (.ok v)
  | foreign {e : Failure} (h : r.outcome i = .error e) (hforeign : e.isRemote = false) :
    Stops r p i (.error e)
  /-- The failure of the request has this one as its cause, and its code. -/
  | fatal {e : Failure} (h : r.outcome i = .error e) (hremote : e.isRemote = true)
    (hfatal : r.Fatal p i e) :
    Stops r p i (.error (.transport ⟨.str r.service, .str r.operation, e.codeAndMessage.1,
      e.codeAndMessage.2, []⟩ (some e)))

def WaitsFor (r : Repeated α) (p : Policy) (draw : Nat → Float) (i : Nat) (wait : Float) : Prop :=
  ∃ e, r.outcome i = .error e ∧
    p.delay (r.failures p (i + 1) (p.attemptKey e)) (draw i) = .ok wait

section Steps

variable {r : Repeated α} {p : Policy} {draw : Nat → Float} {i : Nat} {e : Failure}

theorem not_stops (he : r.outcome i = .error e) (hremote : e.isRemote = true)
    (hfatal : ¬ r.Fatal p i e) (result : Except Failure α) : ¬ r.Stops p i result := by
  intro h
  cases h with
  | value h =>
    rw [he] at h
    cases h
  | foreign h hforeign =>
    obtain rfl := Except.error.inj (he.symm.trans h)
    rw [hremote] at hforeign
    cases hforeign
  | fatal h _ hmore =>
    obtain rfl := Except.error.inj (he.symm.trans h)
    exact hfatal hmore

theorem continueRun_foreign (he : r.outcome i = .error e) (hforeign : e.isRemote = false)
    (spare : Nat) (seen : List String) :
    r.continueRun p draw spare i seen = .ended (.error e) (i + 1) := by
  cases spare with
  | zero =>
    rw [continueRun, he]
    simp [mapError_error, named, Failure.named, hforeign]
  | succ spare =>
    rw [continueRun, he]
    simp only [hforeign, Bool.false_eq_true, if_false]

theorem Stops.of_named (he : r.outcome i = .error e) (hremote : e.isRemote = true)
    (hfatal : r.Fatal p i e) : r.Stops p i (.error (r.named e)) := by
  have hnamed : r.named e = .transport ⟨.str r.service, .str r.operation, e.codeAndMessage.1,
      e.codeAndMessage.2, []⟩ (some e) := by
    unfold named Failure.named
    rw [if_pos hremote]
    rfl
  rw [hnamed]
  exact .fatal he hremote hfatal

end Steps

/-! ## The rest of a run -/

/-- The rest of a run, from call `i` on, stops at call `k` and at no earlier one. -/
structure StopsFirst (r : Repeated α) (p : Policy) (draw : Nat → Float) (i k : Nat) (rest : Run α) :
    Prop where
  calls : rest.calls = k + 1
  stops : r.Stops p k rest.result
  first : ∀ j, i ≤ j → j < k → ∀ result, ¬ r.Stops p j result
  bounded : (k : Int) + 1 ≤ max ((i : Int) + 1) p.maxAttempts
  length : rest.waits.length + i = k
  waits : ∀ (j : Nat) (h : j < rest.waits.length), r.WaitsFor p draw (i + j) rest.waits[j]

namespace StopsFirst

variable {r : Repeated α} {p : Policy} {draw : Nat → Float} {i k : Nat} {rest : Run α}

theorem ended {result : Except Failure α} (h : r.Stops p i result) :
    r.StopsFirst p draw i i (.ended result (i + 1)) where
  calls := rfl
  stops := h
  first _ hle hlt := absurd hlt (Nat.not_lt.2 hle)
  bounded := le_max_left _ _
  length := Nat.zero_add i
  waits j h := absurd h (Nat.not_lt_zero j)

theorem after (h : r.StopsFirst p draw (i + 1) k rest) (hmore : (i : Int) + 1 < p.maxAttempts)
    {e : Failure} (he : r.outcome i = .error e) (hremote : e.isRemote = true)
    (hfatal : ¬ r.Fatal p i e) {wait : Float} (hwait : r.WaitsFor p draw i wait) :
    r.StopsFirst p draw i k (rest.after wait) where
  calls := h.calls
  stops := h.stops
  first j hle hlt := by
    rcases Nat.eq_or_lt_of_le hle with rfl | hlt'
    · exact not_stops he hremote hfatal
    · exact h.first j hlt' hlt
  bounded := by
    have hrest := h.bounded
    push_cast at hrest
    omega
  length := by
    have hrest := h.length
    simp only [Run.after, List.length_cons]
    omega
  waits j hj := by
    cases j with
    | zero => exact hwait
    | succ j =>
      have hrest := h.waits j (Nat.lt_of_succ_lt_succ hj)
      rw [Nat.add_right_comm, Nat.add_assoc] at hrest
      exact hrest

end StopsFirst

/-- With `spare` calls left after this one, and the keys of all failures so far. -/
theorem continueRun_stopsFirst (r : Repeated α) (p : Policy) (draw : Nat → Float)
    (hcode : ∀ i e, r.outcome i = .error e → e.isRemote = true → e.codeReadable = true)
    (hwaits : p.Waits) (spare i : Nat) (seen : List String)
    (hspare : spare = (p.maxAttempts - 1 - i).toNat) (hseen : ∀ key, seen.count key = r.failures p i key) :
    ∃ k, r.StopsFirst p draw i k (r.continueRun p draw spare i seen) := by
  -- A repeated call uses up one of the spare ones, and its key joins those seen.
  induction spare generalizing i seen with
  | zero =>
    refine ⟨i, ?_⟩
    cases ho : r.outcome i with
    | ok v =>
      rw [continueRun_value r p draw 0 i seen ho]
      exact .ended (.value ho)
    | error e =>
      cases hremote : e.isRemote with
      | false =>
        rw [continueRun_foreign ho hremote]
        exact .ended (.foreign ho hremote)
      | true =>
        rw [continueRun_last r p draw i seen ho]
        exact .ended (.of_named ho hremote (Or.inl (by omega)))
  | succ spare ih =>
    cases ho : r.outcome i with
    | ok v =>
      rw [continueRun_value r p draw _ i seen ho]
      exact ⟨i, .ended (.value ho)⟩
    | error e =>
      cases hremote : e.isRemote with
      | false =>
        rw [continueRun_foreign ho hremote]
        exact ⟨i, .ended (.foreign ho hremote)⟩
      | true =>
        have hmore : (i : Int) + 1 < p.maxAttempts := by omega
        -- What the run counts as it goes is how often the key has failed so far.
        have hcount : (seen.count (p.attemptKey e) + 1 : Int)
            = (r.failures p (i + 1) (p.attemptKey e) : Nat) := by
          rw [r.failures_succ p ho hremote, if_pos rfl, hseen]
          push_cast
          rfl
        have hle := r.failures_le p (i + 1) (p.attemptKey e)
        obtain ⟨again, hagain⟩ := p.shouldRetry_comes (hcode i e ho hremote)
          (r.failures p (i + 1) (p.attemptKey e) : Nat)
        obtain ⟨wait, hwait⟩ :=
          hwaits (r.failures p (i + 1) (p.attemptKey e)) (by omega) (by omega) (draw i)
        have hnext := p.wait?_eq hagain hwait
        rw [← hcount] at hnext
        cases again with
        | false =>
          rw [continueRun_given_up r p draw _ i seen ho hremote hnext]
          exact ⟨i, .ended (.of_named ho hremote (Or.inr hagain))⟩
        | true =>
          rw [continueRun_repeated r p draw spare i seen ho hremote hnext]
          -- The rest of the run stops first somewhere, and this call, which is repeated, is no earlier stop.
          obtain ⟨k, hk⟩ := ih (i + 1) (p.attemptKey e :: seen) (by omega) fun key => by
            rw [r.failures_succ p ho hremote, List.count_cons, hseen]
            simp
          refine ⟨k, hk.after hmore ho hremote ?_ ⟨e, ho, hwait⟩⟩
          rintro (hlast | hrefused)
          · omega
          · rw [hagain] at hrefused
            cases hrefused

/-! ## Whole runs -/

/-- Whatever comes of the calls, a run ends with the first of them that stops it. There are at most as many
calls as attempts allowed, and at least one; after each but the last there is the wait that the rule says. -/
theorem run_stops_first (r : Repeated α) (p : Policy) (draw : Nat → Float)
    (hcode : ∀ i e, r.outcome i = .error e → e.isRemote = true → e.codeReadable = true)
    (hwaits : p.Waits) :
    ∃ k, (r.run p draw).calls = k + 1 ∧ r.Stops p k (r.run p draw).result ∧
      (∀ j, j < k → ∀ result, ¬ r.Stops p j result) ∧
      ((r.run p draw).calls : Int) ≤ max 1 p.maxAttempts ∧
      (r.run p draw).waits.length = k ∧
      ∀ (j : Nat) (h : j < (r.run p draw).waits.length), r.WaitsFor p draw j (r.run p draw).waits[j] := by
  obtain ⟨k, hk⟩ : ∃ k, r.StopsFirst p draw 0 k (r.run p draw) :=
    r.continueRun_stopsFirst p draw hcode hwaits (spareCalls p) 0 [] (by simp [spareCalls])
      fun key => by simp [failures]
  have hcalls := hk.calls
  have hbounded := hk.bounded
  refine ⟨k, hcalls, hk.stops, fun j hj => hk.first j (Nat.zero_le j) hj, by omega, hk.length, ?_⟩
  intro j h
  have hwait := hk.waits j h
  rw [Nat.zero_add] at hwait
  exact hwait

/-- Another resource holds on at every other call, and the calls between come too soon. -/
def neverReleased : Repeated Nat where
  service := "ec2"
  operation := "delete_security_group"
  outcome i := .error (serviceFailure (if i % 2 = 0 then "DependencyViolation" else "Throttling"))

/-- Nine attempts are allowed, but only two of them may come too soon. -/
def hardlyPatient : Policy := .dependency (.standard { maxRetries := 1, jitter := false }) 9

/-- The second call that comes too soon is the last one, and is told of. -/
theorem neverReleased_stops :
    let run := neverReleased.run hardlyPatient fun _ => 0
    run.calls = 4 ∧ run.waits.length = 3 ∧ neverReleased.Stops hardlyPatient 3 run.result ∧
      (∀ j, j < 3 → ∀ result, ¬ neverReleased.Stops hardlyPatient j result) ∧
      ∃ request, run.result = .error (.transport request (some (serviceFailure "Throttling"))) ∧
        request.code = .str "Throttling" := by
  intro run
  have hwaits : hardlyPatient.Waits :=
    Policy.waits_of_ceilings 8 (by decide) (by decide +kernel)
  have hcode (i : Nat) (e : Failure) (he : neverReleased.outcome i = .error e) (_ : e.isRemote = true) :
      e.codeReadable = true := by
    obtain rfl := Except.error.inj he
    rfl
  obtain ⟨k, hcalls, hstops, hfirst, -, hlength, -⟩ :=
    neverReleased.run_stops_first hardlyPatient (fun _ => 0) hcode hwaits
  have hfour : run.calls = 4 := by decide +kernel
  obtain rfl : k = 3 := Nat.succ.inj (hcalls.symm.trans hfour)
  refine ⟨hfour, hlength, hstops, hfirst, ?_⟩
  change neverReleased.Stops hardlyPatient 3 run.result at hstops
  generalize run.result = result at hstops ⊢
  cases hstops with
  | value hcall => cases hcall
  | foreign hcall hforeign =>
    cases hcall
    cases hforeign
  | fatal hcall =>
    cases hcall
    exact ⟨_, rfl, rfl⟩

end NetLookup.Repeated
