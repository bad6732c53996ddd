import NetLookup.Retry.Policy

/-! # Repeating a request

Whether a failure ends the run depends on how many calls there were and on how many of the failures so
far have the same key. Failures of the surroundings end it at once and stay as they are. -/

namespace NetLookup

variable {α : Type}

/-- What a repeated request came to: its result, the number of calls, and the waits between them. -/
structure Run (α : Type) where
  result : Except Failure α
  calls : Nat
  waits : List Float

namespace Run

def ended (result : Except Failure α) (calls : Nat) : Run α := ⟨result, calls, []⟩

def after (wait : Float) (r : Run α) : Run α := { r with waits := wait :: r.waits }

end Run

/-- A request to be repeated: what its calls come to, and the name its failure gets. -/
structure Repeated (α : Type) where
  service : String
  operation : String
  outcome : Nat → Except Failure α

namespace Repeated

def named (r : Repeated α) (e : Failure) : Failure := e.named (.str r.service) (.str r.operation) []

/-- The rest of a run with `spare` more calls left after this one; `seen` are the keys so far. -/
def continueRun (r : Repeated α) (p : Policy) (draw : Nat → Float) :
    Nat → Nat → List String → Run α
  | 0, i, _ => .ended ((r.outcome i).mapError r.named) (i + 1)
  | spare + 1, i, seen =>
    match r.outcome i with
    | .ok v => .ended (.ok v) (i + 1)
    | .error e =>
      if e.isRemote then
        match p.wait? e (seen.count (p.attemptKey e) + 1) (draw i) with
        | .error f => .ended (.error f) (i + 1)
        | .ok none => .ended (.error (r.named e)) (i + 1)
        | .ok (some wait) =>
          (continueRun r p draw spare (i + 1) (p.attemptKey e :: seen)).after wait
      else .ended (.error e) (i + 1)

/-- The calls that may follow the first one. -/
def spareCalls (p : Policy) : Nat := (p.maxAttempts - 1).toNat

def run (r : Repeated α) (p : Policy) (draw : Nat → Float) : Run α :=
  r.continueRun p draw (spareCalls p) 0 []

/-- There is one wait between each two calls and none after the last. -/
theorem calls_continueRun (r : Repeated α) (p : Policy) (draw : Nat → Float) (spare i : Nat)
    (seen : List String) :
    (r.continueRun p draw spare i seen).calls
      = i + 1 + (r.continueRun p draw spare i seen).waits.length := by
  induction spare generalizing i seen with
  | zero => rfl
  | succ spare ih =>
    unfold continueRun
    split
    · rfl
    · split
      · split
        · rfl
        · rfl
        · simp only [Run.after, List.length_cons, ih]
          omega
      · rfl

theorem calls_run (r : Repeated α) (p : Policy) (draw : Nat → Float) :
    (r.run p draw).calls = (r.run p draw).waits.length + 1 := by
  rw [run, calls_continueRun]
  omega

/-- How many draws a run takes up. -/
def drawsUsed (p : Policy) (run : Run α) : Nat :=
  if p.backoff.jitter then run.waits.length else 0

end Repeated

end NetLookup
