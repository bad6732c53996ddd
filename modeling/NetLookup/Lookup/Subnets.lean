import NetLookup.Json.Encode
import NetLookup.Lookup.Network
import NetLookup.Tagging.ClusterIndex

/-! # Subnets by name and by cluster

Of the subnets of a cluster at most one per zone is chosen, and at least two must be. -/

namespace NetLookup.Lookup

/-! ## By name -/

def subnetIds (s : Settings) : View := ⟨"EC2.GetSubnets", s.subnetTtl⟩

/-- The request for resources by name in one network. -/
def namedParams (names : List String) (vpcId : Json) : Fields :=
  Filter.params [Filter.entry "tag:Name" (names.map .str), Filter.entry "vpc-id" [vpcId]]

/-- The ids of the records that have a name, each stored under it. -/
def rememberSubnets (v : View) : List Json → Work (List Json)
  | [] => return []
  | record :: records => do
    let subnet ← Work.check (Subnet.ofJson record)
    match subnet.name? with
    | none => rememberSubnets v records
    | some name =>
      v.remember name subnet.id
      return subnet.id :: (← rememberSubnets v records)

/-- The cached ids, followed by those of one request for all other names. -/
def subnets (s : Settings) (names : List String) : Work (List Json) := do
  let (ids, missing) ← (subnetIds s).readAll names
  if missing.isEmpty then return ids
  let records ← describeAll "describe_subnets" "Subnets" (namedParams missing (← vpcId s))
  return ids ++ (← rememberSubnets (subnetIds s) records)

/-! ## Schemes -/

/-- Whether a load balancer faces the internet. -/
inductive Scheme where
  | internal
  | internetFacing
  deriving DecidableEq

namespace Scheme

def name : Scheme → String
  | internal => "internal"
  | internetFacing => "internet-facing"

def all : List Scheme := [internal, internetFacing]

/-- The key of the tag on subnets for load balancers of a scheme. -/
def roleTag : Scheme → String
  | internal => "kubernetes.io/role/internal-elb"
  | internetFacing => "kubernetes.io/role/elb"

def expected : String :=
  Text.quoted internal.name ++ " or " ++ Text.quoted internetFacing.name

def ofJson : Json → Except Failure Scheme
  | .str "internal" => .ok internal
  | .str "internet-facing" => .ok internetFacing
  | .arr _ | .obj _ => .error (.fault .wrongType)
  | other => .error (.validation "scheme" other expected none)

theorem ofJson_name (s : Scheme) : ofJson (.str s.name) = .ok s := by cases s <;> rfl

end Scheme

/-! ## Candidates -/

/-- The ids of the subnets that carry a role tag, each once, in the order of the index. -/
def candidates (index : ClusterIndex) (roleTag : String) : List String :=
  (((index .subnet).filter fun r => r.2.hasKey roleTag).map fun r => Arn.resourceId r.1).eraseDups

def clusterSubnetsById (s : Settings) : View := ⟨"ClusterSubnets", s.subnetTtl⟩

/-- The cached snapshots of the candidates that have one, and the other candidates. -/
def readSnapshots (v : View) : List String → Work (Named Stored × List String)
  | [] => return ([], [])
  | id :: ids => do
    let found ← v.read id
    let (known, missing) ← readSnapshots v ids
    match found with
    | some snapshot => return ((id, snapshot) :: known, missing)
    | none => return (known, id :: missing)

/-- A record as a snapshot with the key of its id. -/
def fetchedOf (record : Json) : Except Failure (Key × Subnet) := do
  let subnet ← Subnet.ofJson record
  return (← Key.ofJson subnet.id, subnet)

/-- The last fetched snapshot of an id. -/
def lastFetched (fetched : List (Key × Subnet)) (id : String) : Option Subnet :=
  fetched.reverse.lookup (.text id)

/-! ## Choice -/

/-- Takes the candidates in order and admits those whose zone is still free. What was fetched goes
before what was cached, and is stored when it is admitted. -/
def choose (v : View) (fetched : List (Key × Subnet)) (known : Named Stored) :
    List String → List Subnet → Work (List Subnet)
  | [], admitted => return admitted
  | id :: ids, admitted =>
    match lastFetched fetched id, known.lookup id with
    | some subnet, _ => do
      if subnet.usable admitted then
        v.write (.text id) (.subnet subnet)
        choose v fetched known ids (admitted ++ [subnet])
      else choose v fetched known ids admitted
    | none, some stored => do
      let subnet ← Work.check stored.asSubnet
      choose v fetched known ids (if subnet.usable admitted then admitted ++ [subnet] else admitted)
    | none, none => choose v fetched known ids admitted

def minimalCount : Nat := 2

/-- The tag that subnets of the cluster must carry, as far as the cluster is known. -/
def requiredTag (cluster : String) : String :=
  if cluster = "" then clusterTagName ++ "/<cluster name>" else clusterTagKey cluster

def insufficient (s : Settings) (scheme : Scheme) (found : List Json) : Failure :=
  let tag := requiredTag s.clusterName
  .lookup "subnets"
    ("Retrieval of subnets failed to resolve 2 qualified subnets. Subnets must contain the " ++ tag
      ++ " tag with a value of shared or owned and the " ++ scheme.roleTag
      ++ " tag signifying it should be used for ALBs. Additionally, there must be at least 2 "
      ++ "subnets with unique availability zones as required by ALBs. Either tag subnets to meet "
      ++ "this requirement or explicitly list the subnets to use for ALB creation. The subnets "
      ++ "that did resolve were " ++ Json.encode .ascii (.arr found) ++ ".")
    [("scheme", .str scheme.name), ("cluster_tag", .str tag), ("role_tag", .str scheme.roleTag),
      ("subnets", .arr found)]
    none

/-- The snapshots of the candidates without a cached one. -/
def fetchSnapshots (missing : List String) : Work (List (Key × Subnet)) := do
  if missing.isEmpty then return []
  let records ← describeAll "describe_subnets" "Subnets"
    (Filter.params [Filter.entry "subnet-id" (missing.map .str)])
  Work.check (records.mapM fetchedOf)

/-- The ids of the chosen subnets of the cluster in ascending order. -/
def clusterSubnets (s : Settings) (scheme : Json) : Work (List Json) := do
  let scheme ← Work.check (Scheme.ofJson scheme)
  let ids := candidates (← clusterIndex s.clusterName) scheme.roleTag
  let (known, missing) ← readSnapshots (clusterSubnetsById s) ids
  let fetched ← fetchSnapshots missing
  let admitted ← choose (clusterSubnetsById s) fetched known ids []
  let found ← Work.check (Json.sorted (admitted.map (·.id)))
  if found.length < minimalCount then throw (insufficient s scheme found)
  return found

end NetLookup.Lookup
