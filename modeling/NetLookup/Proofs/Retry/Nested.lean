import NetLookup.Retry.Run

/-! # Rules within rules

Under a rule that waits for another resource to let go, an inner rule sees only its own failures. So
how deep such rules are nested, and how many attempts the inner ones allow, makes no difference. -/

namespace NetLookup.Policy

/-! ## Failures that the standard rule decides -/

variable {e : Failure}

theorem attemptKey_standard (p : Policy) (h : e.isDependencyViolation = false) :
    p.attemptKey e = "default" := by
  induction p with
  | standard b => rfl
  | dependency inner n ih => simpa [attemptKey, h] using ih

theorem shouldRetry_standard (p : Policy) (h : e.isDependencyViolation = false) (count : Int) :
    p.shouldRetry e count = (standard p.backoff).shouldRetry e count := by
  induction p with
  | standard b => rfl
  | dependency inner n ih =>
    have hinner : (dependency inner n).shouldRetry e count = inner.shouldRetry e count := by
      simp [shouldRetry, h]
    exact hinner.trans ih

theorem delay_standard (p : Policy) (count : Int) (draw : Float) :
    p.delay count draw = (standard p.backoff).delay count draw :=
  delay_eq_backoff p count draw

/-! ## Failures that the outermost rule decides -/

theorem attemptKey_dependency (inner : Policy) (n : Int) (h : e.isDependencyViolation = true) :
    (dependency inner n).attemptKey e = Failure.dependencyViolation := by
  simp [attemptKey, h]

theorem shouldRetry_dependency (inner : Policy) (n count : Int)
    (h : e.isDependencyViolation = true) :
    (dependency inner n).shouldRetry e count = .ok (decide (count < n)) := by
  simp [shouldRetry, h]

/-! ## Only the outermost rule and the innermost one matter -/

/-- The outermost rule over the innermost one, without those between them. -/
def flat (inner : Policy) (n : Int) : Policy := dependency (standard inner.backoff) n

theorem attemptKey_flat (inner : Policy) (n : Int) (e : Failure) :
    (dependency inner n).attemptKey e = (flat inner n).attemptKey e := by
  cases h : e.isDependencyViolation with
  | true => rw [attemptKey_dependency _ _ h, flat, attemptKey_dependency _ _ h]
  | false => rw [attemptKey_standard _ h, attemptKey_standard _ h]

theorem wait?_flat (inner : Policy) (n : Int) (e : Failure) (count : Int) (draw : Float) :
    (dependency inner n).wait? e count draw = (flat inner n).wait? e count draw := by
  have hretry : (dependency inner n).shouldRetry e count = (flat inner n).shouldRetry e count := by
    cases h : e.isDependencyViolation with
    | true => rw [shouldRetry_dependency _ _ _ h, flat, shouldRetry_dependency _ _ _ h]
    | false =>
      exact (shouldRetry_standard _ h count).trans (shouldRetry_standard (flat inner n) h count).symm
  have hdelay : (dependency inner n).delay count draw = (flat inner n).delay count draw :=
    (delay_standard _ count draw).trans (delay_standard (flat inner n) count draw).symm
  rw [wait?, wait?, hretry, hdelay]

end NetLookup.Policy

namespace NetLookup.Repeated

variable {α : Type}

theorem continueRun_flat (r : Repeated α) (inner : Policy) (n : Int) (draw : Nat → Float)
    (spare i : Nat) (seen : List String) :
    r.continueRun (.dependency inner n) draw spare i seen
      = r.continueRun (.flat inner n) draw spare i seen := by
  induction spare generalizing i seen with
  | zero => rfl
  | succ spare ih => simp only [continueRun, Policy.attemptKey_flat, Policy.wait?_flat, ih]

theorem run_flat (r : Repeated α) (inner : Policy) (n : Int) (draw : Nat → Float) :
    r.run (.dependency inner n) draw = r.run (.flat inner n) draw :=
  continueRun_flat r inner n draw _ 0 []

end NetLookup.Repeated
