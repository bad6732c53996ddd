import NetLookup.Listing
import NetLookup.Settings

/-! # Reading and storing cached values at work -/

namespace NetLookup

namespace View

/-- The live value of a key; a stored null counts as none. -/
def read (v : View) (key : String) : Work (Option Stored) := do
  let found ← modifyGet fun s =>
    let (found, cache) := v.get s.cache (.text key) s.clock
    (found, { s with cache := cache })
  return found.filter (!·.isNull)

def write (v : View) (key : Key) (value : Stored) (label : Json := key.toJson) : Work Unit :=
  modify fun s => { s with cache := v.set s.cache key value s.clock v.ttl label }

theorem read_run (v : View) (key : String) (s : State) :
    (v.read key).run.run s
      = (.ok ((v.get s.cache (.text key) s.clock).1.filter (!·.isNull)),
        { s with cache := (v.get s.cache (.text key) s.clock).2 }) := rfl

theorem write_run (v : View) (key : Key) (value : Stored) (label : Json) (s : State) :
    (v.write key value label).run.run s
      = (.ok (), { s with cache := v.set s.cache key value s.clock v.ttl label }) := rfl

/-- Files a value under a key that an answer gave. -/
def remember (v : View) (key value : Json) : Work Unit := do
  v.write (← Work.check (Key.ofJson key)) (.plain value) key

/-- The values of the keys that have one, and the other keys, both in the order of the keys. -/
def readAll (v : View) : List String → Work (List Json × List String)
  | [] => return ([], [])
  | key :: keys => do
    let found ← v.read key
    let (values, missing) ← readAll v keys
    match found with
    | some value => return (value.toJson :: values, missing)
    | none => return (values, key :: missing)

end View

end NetLookup
