import NetLookup.Decimal.Shortest
import NetLookup.Failure

/-! # Spans of time and times to live -/

namespace NetLookup

/-- A span of time, counted in whole microseconds. -/
structure Duration where
  micros : Int
  deriving DecidableEq

namespace Duration

/-! ## Units -/

def microsPerSecond : Int := 1000000

def microsPerDay : Int := 86400 * microsPerSecond

def ofSeconds (n : Int) : Duration := ⟨n * microsPerSecond⟩

def ofMinutes (n : Int) : Duration := ofSeconds (60 * n)

/-- The length in microseconds of a unit, by its name in the plural. -/
def unit? : String → Option Int
  | "weeks" => some (7 * microsPerDay)
  | "days" => some microsPerDay
  | "hours" => some (3600 * microsPerSecond)
  | "minutes" => some (60 * microsPerSecond)
  | "seconds" => some microsPerSecond
  | "milliseconds" => some 1000
  | "microseconds" => some 1
  | _ => none

/-! ## Parts

Only the days are ever negative: seconds and microseconds count on from the day's start. -/

def days (d : Duration) : Int := d.micros / microsPerDay

def seconds (d : Duration) : Int := d.micros % microsPerDay / microsPerSecond

def microseconds (d : Duration) : Int := d.micros % microsPerSecond

/-- More days than this are not counted, neither ahead nor back. -/
def mostDays : Int := 999999999

theorem parts_sum (d : Duration) :
    d.days * microsPerDay + d.seconds * microsPerSecond + d.microseconds = d.micros := by
  simp only [days, seconds, microseconds, microsPerDay, microsPerSecond]
  omega

/-- The sum of amounts of units. -/
def ofAmounts (amounts : List (String × Int)) : Except Failure Duration := do
  let parts ← amounts.mapM fun a =>
    match unit? a.1 with
    | some length => .ok (length * a.2)
    | none => .error (.fault .wrongType)
  let sum : Duration := ⟨parts.foldl (· + ·) 0⟩
  if sum.days < -mostDays ∨ mostDays < sum.days then throw (.fault .overflow)
  return sum

/-- The quotient by a million, rounded to the nearest floating-point number. -/
def toSeconds (d : Duration) : Float :=
  let x := Float.ofScientific d.micros.natAbs true 6
  if d.micros < 0 then -x else x

/-- The parts by name, those that are zero left out. -/
def describe (d : Duration) : String :=
  let named := [("days", d.days), ("seconds", d.seconds), ("microseconds", d.microseconds)]
  let shown := (named.filter fun p => p.2 != 0).map fun p => p.1 ++ "=" ++ toString p.2
  "datetime.timedelta(" ++ (if shown.isEmpty then "0" else ", ".intercalate shown) ++ ")"

end Duration

/-- How long an entry lives: a span of time or a number of seconds. -/
inductive Ttl where
  | span (d : Duration)
  | seconds (x : Float)

namespace Ttl

def toSeconds : Ttl → Float
  | span d => d.toSeconds
  | seconds x => x

/-- When an entry that is stored now is overdue. -/
def deadline (t : Ttl) (now : Float) : Float := now + t.toSeconds

def describe : Ttl → String
  | span d => d.describe
  | seconds x => Decimal.written x

end Ttl

end NetLookup
