import NetLookup.Failure.Code
import NetLookup.Retry.Backoff

/-! # Which failures are worth another attempt -/

namespace NetLookup

/-- A rule for repeating requests. The standard one repeats after failures that pass by themselves.
The other one repeats while another resource holds on, and leaves all else to an inner rule. -/
inductive Policy where
  | standard (backoff : Backoff)
  | dependency (inner : Policy) (maxAttempts : Int)

namespace Policy

/-- How many attempts there are at most. -/
def maxAttempts : Policy → Int
  | standard b => b.maxRetries + 1
  | dependency _ n => n

def backoff : Policy → Backoff
  | standard b => b
  | dependency inner _ => inner.backoff

/-- Failures with one key are counted together. -/
def attemptKey : Policy → Failure → String
  | standard _, _ => "default"
  | dependency inner _, e =>
    if e.isDependencyViolation then Failure.dependencyViolation else inner.attemptKey e

/-- Whether to try again after the `count`-th failure of its key. -/
def shouldRetry : Policy → Failure → Int → Except Failure Bool
  | standard b, e, count => if count < b.maxRetries + 1 then e.isRetryable else .ok false
  | dependency inner n, e, count =>
    if e.isDependencyViolation then .ok (decide (count < n)) else inner.shouldRetry e count

/-- The wait after the `count`-th failure of its key. -/
def delay : Policy → Int → Float → Except Failure Float
  | standard b, count, draw => b.delay (count - 1) draw
  | dependency inner _, count, draw => inner.delay count draw

theorem delay_eq_backoff (p : Policy) (count : Int) (draw : Float) :
    p.delay count draw = p.backoff.delay (count - 1) draw := by
  induction p with
  | standard b => rfl
  | dependency inner n ih => simpa [delay, backoff] using ih

/-- The wait before the next attempt, or nothing if there is to be none. -/
def wait? (p : Policy) (e : Failure) (count : Int) (draw : Float) : Except Failure (Option Float) := do
  if ← p.shouldRetry e count then
    return some (← p.delay count draw)
  else
    return none

end Policy

end NetLookup
