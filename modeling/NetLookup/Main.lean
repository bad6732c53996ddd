import NetLookup.CommandLine.Run

/-! # The program

There is no network here: every request fails, as on a host without a route. -/

namespace NetLookup

namespace Offline

def reply : Reply where
  noAnswer := some (.http "ConnectionError" "no network")
  badStatus := none
  text := ""
  document := .error "no network"

def serviceUrl : Api → String
  | .ec2 => "https://ec2.amazonaws.com/"
  | .tagging => "https://tagging.amazonaws.com/"

def remote : Remote where
  pages _ _ := []
  outage api _ := some (.beforeStart (.sdk (.unreachable (serviceUrl api))))
  deletion _ := some (.sdk (.unreachable (serviceUrl .ec2)))
  tagsFailure := some (.sdk (.unreachable (serviceUrl .ec2)))
  token := reply
  identity := reply

def state : State where
  cache := .empty
  clock := 0
  draw _ := 0.5
  remote := remote
  trace := []

end Offline

/-- The variables of the environment that count. -/
def environmentNames : List String :=
  ["AWS_VPC_ID", "AWS_REGION", "AWS_DEFAULT_REGION", "ALBNET_CLUSTER_NAME", "ALBNET_IMDS_ENDPOINT"]

end NetLookup

open NetLookup in
def main (words : List String) : IO UInt32 := do
  let given ← environmentNames.mapM fun name => return (name, ← IO.getEnv name)
  let session := CommandLine.run words (fun name => (given.lookup name).join) Offline.state
  IO.print session.exit.output
  if let some e := session.exit.crash then IO.eprintln e.text
  return session.exit.code.toUInt32
