import NetLookup.Lookup.Remembered

/-! # The network that the host belongs to -/

namespace NetLookup.Lookup

/-! ## From instances to the network -/

def noneFound (what : String) : String :=
  "When looking up VPC ID could not identify instance. Found 0 " ++ what
    ++ " in AWS call. Should have found at least 1."

def noReservation : Failure :=
  .lookup "vpc" (noneFound "reservations") [("reservations", .num 0)] none

def noInstance (reservations : Nat) : Failure :=
  .lookup "vpc" (noneFound "instances")
    [("reservations", .num reservations), ("instances", .num 0)] none

def noVpc : Failure :=
  .lookup "vpc" "When looking up VPC ID the instance returned had no VPC." [] none

def emptyVpc : Failure :=
  .lookup "vpc" "When looking up VPC ID the instance returned had an empty VPC." [] none

/-- The network of the first instance of the first reservation. -/
def networkOf (reservations : Json) : Except Failure Json := do
  let count ← reservations.size
  if count = 0 then throw noReservation
  let instances ← (← reservations.first).fieldD "Instances" (.arr [])
  if (← instances.size) = 0 then throw (noInstance count)
  match ← (← instances.first).fieldD "VpcId" .null with
  | .null => throw noVpc
  | .str "" => throw emptyVpc
  | id => return id

/-! ## Lookups -/

def vpcIds (s : Settings) : View := ⟨"EC2.GetVPCID", s.vpcTtl⟩

def vpcs (s : Settings) : View := ⟨"EC2.GetVPC", s.vpcTtl⟩

/-- The id of our network: the one set, else the one cached, else that of the host. -/
def vpcId (s : Settings) : Work Json :=
  match nonEmpty s.vpcId with
  | some id => return .str id
  | none => do
    match ← (vpcIds s).read "" with
    | some id => return id.toJson
    | none =>
      let identity ← hostIdentity s.metadata
      let reservations ← describeAll "describe_instances" "Reservations"
        [("InstanceIds", .arr [identity.instanceId])]
      let id ← Work.check (networkOf (.arr reservations))
      (vpcIds s).write (.text "") (.plain id)
      return id

/-- A network by its id, which exactly one record must answer. -/
def vpc (s : Settings) (id : String) : Work Stored := do
  match ← (vpcs s).read id with
  | some found => return found
  | none =>
    match ← describeAll "describe_vpcs" "Vpcs" [("VpcIds", .arr [.str id])] with
    | [record] =>
      let found ← Work.check (Vpc.ofJson record)
      (vpcs s).write (.text id) (.vpc found)
      return .vpc found
    | records => throw (.invariant "VPCs" id 1 records.length)

end NetLookup.Lookup
