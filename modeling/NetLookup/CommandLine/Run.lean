import NetLookup.ClientOptions
import NetLookup.CommandLine.Invocation
import NetLookup.CommandLine.Markup.Shown
import NetLookup.Json.Encode
import NetLookup.Json.Layout

/-! # Running a command line -/

namespace NetLookup.CommandLine

/-! ## Printing -/

/-- How a program ends. -/
structure Exit where
  code : Nat
  /-- What is printed, apart from a log. -/
  output : String := ""
  /-- The failure that nobody was there to report. -/
  crash : Option Failure := none

def Markup.Fault.kind : Fault → String
  | .badNumber => "ValueError"
  | _ => "MarkupError"

/-- A text as it looks without its markup. -/
def shown (text : String) : Except Failure String :=
  match Markup.show? text.toList with
  | .ok cs => .ok (String.ofList cs)
  | .error e => .error (.foreign e.kind text)

/-- Texts are shown through markup, other values are written as they are. -/
def shownValue : Json → Except Failure String
  | .str s => shown s
  | v => .ok v.displayLines

/-- A text after a mark, in a colour. -/
def marked (color mark text : String) : Except Failure String :=
  shown ("[" ++ color ++ "]" ++ mark ++ " " ++ String.ofList (Markup.escape text.toList)
    ++ "[/" ++ color ++ "]")

def success (text : String) : Except Failure String := marked "green" "✓" text

def problem (text : String) : Except Failure String := marked "red" "✗" text

namespace Exit

/-- The lines up to the first that cannot be shown. -/
def printed : List (Except Failure String) → String × Option Failure
  | [] => ("", none)
  | .error e :: _ => ("", some e)
  | .ok line :: lines =>
    let (rest, crash) := printed lines
    (line ++ "\n" ++ rest, crash)

def crashCode : Nat := 1

def usageCode : Nat := 2

/-- Prints lines and ends. -/
def ofLines (code : Nat) (lines : List (Except Failure String)) : Exit :=
  match printed lines with
  | (output, none) => { code, output }
  | (output, crash) => { code := crashCode, output, crash }

def ofFailure (json : Bool) (e : Failure) : Exit :=
  if !e.isOwn then { code := crashCode, crash := some e }
  else ofLines 1 [if json then .ok (Json.encode .controls e.report) else problem e.text]

end Exit

/-! ## Commands -/

namespace Command

def json : Command → Bool
  | subnets _ json | subnetsByName _ json | securityGroups _ json => json
  | _ => false

def operation : Command → Operation
  | vpcId => .vpcId
  | subnets scheme _ => .clusterSubnets (.str scheme.name)
  | subnetsByName names _ => .subnets names
  | securityGroups names _ => .securityGroups names
  | nodeHealth id => .nodeHealthy id
  | status => .status

/-- Ids line by line, or as one value. -/
def printIds (json : Bool) (ids : List Json) : Exit :=
  if json then .ofLines 0 [.ok (Json.encode .ascii (.arr ids))]
  else .ofLines 0 (if ids.isEmpty then [shown "[dim](none)[/dim]"] else ids.map shownValue)

def unhealthyCode : Nat := 2

def printAnswer : Command → Answer → Exit
  | nodeHealth id, .value v =>
    if v.truthy then .ofLines 0 [success (id ++ " healthy")]
    else .ofLines unhealthyCode [problem (id ++ " not healthy")]
  | vpcId, .value v => .ofLines 0 [shownValue v]
  | c, .value (.arr ids) => printIds c.json ids
  | _, _ => .ofLines 0 [success "EC2 API reachable"]

def finish (c : Command) : Except Failure Answer → Exit
  | .ok answer => c.printAnswer answer
  | .error e => .ofFailure c.json e

end Command

/-! ## Command lines -/

/-- Settings with what the command line says in the place of what the environment says. -/
def Overrides.apply (o : Overrides) (s : Settings) : Settings :=
  { s with
    region := nonEmpty o.region <|> s.region
    vpcId := nonEmpty o.vpcId <|> s.vpcId
    clusterName := (nonEmpty o.cluster).getD s.clusterName }

/-- What a program did: how it ended, what it did to the remote side, and with which clients. -/
structure Session where
  exit : Exit
  trace : List Event := []
  clients : List Client := []
  /-- Whether a log of the steps stands between the lines of the output. -/
  logged : Bool := false

def versionLine : String := "albnet, version 0.1.0"

def Invocation.perform (environment : String → Option String) (state : State) : Invocation → Session
  | version => { exit := .ofLines 0 [.ok versionLine] }
  | help => { exit := { code := 0 } }
  | run overrides command =>
    let settings := overrides.apply (.ofEnvironment environment)
    let (answer, state) := (command.operation.run settings).run.run state
    { exit := command.finish answer, trace := state.trace
      clients := Client.forLookups settings.region settings.region
      logged := overrides.verbose }

/-- Runs a command line from a state of the remote side. -/
def run (words : List String) (environment : String → Option String) (state : State) : Session :=
  match Invocation.ofWords words with
  | none => { exit := { code := Exit.usageCode } }
  | some invocation => invocation.perform environment state

end NetLookup.CommandLine
