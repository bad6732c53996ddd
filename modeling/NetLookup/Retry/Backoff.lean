import NetLookup.Decimal.Power

/-! # Growing waits -/

namespace NetLookup

/-- How long to wait between attempts: `base · factor ^ n` seconds, at most `cap`. With jitter the
wait is a random part of that. -/
structure Backoff where
  maxRetries : Int := 3
  base : Float := 1.0
  cap : Float := 30.0
  factor : Float := 2.0
  jitter : Bool := true

namespace Backoff

def standard : Backoff := {}

/-- The part of a wait that a draw between 0 and 1 picks. -/
def part (wait draw : Float) : Float := 0 + (wait - 0) * draw

/-- The wait before jitter. -/
def ceiling (b : Backoff) (n : Int) : Except Failure Float := do
  let wait := b.base * (← Decimal.power b.factor n)
  return if b.cap < wait then b.cap else wait

def delay (b : Backoff) (n : Int) (draw : Float) : Except Failure Float := do
  let wait ← b.ceiling n
  return if b.jitter then part wait draw else wait

end Backoff

end NetLookup
