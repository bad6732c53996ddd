import NetLookup.Cache
import NetLookup.Snapshot

/-! # The remote side and what is done to it -/

namespace NetLookup

/-- The two interfaces that answer listings. -/
inductive Api where
  | ec2
  | tagging
  deriving DecidableEq

/-- Where a listing breaks off. -/
inductive Outage where
  | beforeStart (e : Failure)
  /-- Instead of a page, or after the last one if there are fewer. -/
  | atPage (n : Nat) (e : Failure)

/-- The answer of the metadata service to one request. The text can be sent back in a header. -/
structure Reply where
  /-- The request got no answer. -/
  noAnswer : Option Failure
  /-- The status of the answer is an error. -/
  badStatus : Option String
  text : String
  /-- The document in the text, or why the text is none. -/
  document : Except String Json

/-- What the remote side answers. Every listing of one operation is the same, deletions come to one
outcome after another. -/
structure Remote where
  pages : Api → String → List Json
  outage : Api → String → Option Outage
  deletion : Nat → Option Failure
  tagsFailure : Option Failure
  token : Reply
  identity : Reply

inductive Event where
  | page (api : Api) (operation : String) (params : Fields)
  | call (operation : String) (params : Fields)
  | http (method url : String) (headers : List (String × String)) (timeout : Float)
  | sleep (seconds : Float)

/-- Everything that an operation reads or changes. -/
structure State where
  cache : Cache Stored
  /-- One reading for all of an operation: no time passes between its reads and its stores. -/
  clock : Float
  draw : Nat → Float
  remote : Remote
  /-- What was done to the remote side, the earliest first. -/
  trace : List Event

/-- An operation. Its changes last when it fails. -/
abbrev Work := ExceptT Failure (StateM State)

namespace Work

def perform (events : List Event) : Work Unit :=
  modify fun s => { s with trace := s.trace ++ events }

/-- A part of the work that needs no state. -/
def check {α : Type} (r : Except Failure α) : Work α := ExceptT.mk (pure r)

@[simp] theorem perform_run (events : List Event) (s : State) :
    (perform events).run.run s = (.ok (), { s with trace := s.trace ++ events }) := rfl

@[simp] theorem check_run {α : Type} (r : Except Failure α) (s : State) :
    (check r).run.run s = (r, s) := rfl

end Work

end NetLookup
