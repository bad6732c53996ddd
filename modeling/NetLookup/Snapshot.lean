import NetLookup.Tagging

/-! # Snapshots of resources

A snapshot holds the fields of a record as they came, so that a value of an unexpected kind passes
through. A missing field reads as the empty text. -/

namespace NetLookup

/-! ## Subnets -/

structure Subnet where
  id : Json
  zone : Json
  vpcId : Json
  cidrBlock : Json
  tags : Tags

namespace Subnet

def ofJson (record : Json) : Except Failure Subnet := do
  let id ← record.fieldOrEmpty "SubnetId"
  let zone ← record.fieldOrEmpty "AvailabilityZone"
  let vpcId ← record.fieldOrEmpty "VpcId"
  let cidrBlock ← record.fieldOrEmpty "CidrBlock"
  let tags ← Tags.ofJson (← record.fieldD "Tags" .null)
  return { id, zone, vpcId, cidrBlock, tags }

def name? (s : Subnet) : Option Json := s.tags.name?

/-- Whether no admitted subnet lies in the same zone. -/
def usable (candidate : Subnet) (admitted : List Subnet) : Bool :=
  admitted.all fun s => !candidate.zone.same s.zone

/-- A subnet as messages write it. -/
def written (s : Subnet) : String :=
  "Subnet(subnet_id=" ++ s.id.literal ++ ", availability_zone=" ++ s.zone.literal ++ ", vpc_id="
    ++ s.vpcId.literal ++ ", cidr_block=" ++ s.cidrBlock.literal ++ ", tags=" ++ s.tags.written ++ ")"

def toJson (s : Subnet) : Json :=
  .resource s.written
    [("type", .str "Subnet"), ("subnet_id", s.id), ("availability_zone", s.zone),
      ("vpc_id", s.vpcId), ("cidr_block", s.cidrBlock), ("tags", s.tags.toJson),
      ("name", s.name?.getD .null)]

end Subnet

/-! ## Security groups -/

structure SecurityGroup where
  id : Json
  groupName : Json
  vpcId : Json
  description : Json
  tags : Tags

namespace SecurityGroup

def ofJson (record : Json) : Except Failure SecurityGroup := do
  let id ← record.fieldOrEmpty "GroupId"
  let groupName ← record.fieldOrEmpty "GroupName"
  let vpcId ← record.fieldOrEmpty "VpcId"
  let description ← record.fieldOrEmpty "Description"
  let tags ← Tags.ofJson (← record.fieldD "Tags" .null)
  return { id, groupName, vpcId, description, tags }

/-- The value of the `Name` tag, not the name of the group. -/
def name? (g : SecurityGroup) : Option Json := g.tags.name?

def toJson (g : SecurityGroup) : Json :=
  .obj [("type", .str "SecurityGroup"), ("group_id", g.id), ("group_name", g.groupName),
    ("vpc_id", g.vpcId), ("description", g.description), ("tags", g.tags.toJson),
    ("name", g.name?.getD .null)]

end SecurityGroup

/-! ## Networks -/

structure Vpc where
  id : Json
  cidrBlock : Json
  state : Json
  isDefault : Json
  tags : Tags

namespace Vpc

def ofJson (record : Json) : Except Failure Vpc := do
  let id ← record.fieldOrEmpty "VpcId"
  let cidrBlock ← record.fieldOrEmpty "CidrBlock"
  let state ← record.fieldOrEmpty "State"
  let isDefault ← record.fieldD "IsDefault" (.bool false)
  let tags ← Tags.ofJson (← record.fieldD "Tags" .null)
  return { id, cidrBlock, state, isDefault, tags }

/-- A network as messages write it. -/
def written (v : Vpc) : String :=
  "VPC(vpc_id=" ++ v.id.literal ++ ", cidr_block=" ++ v.cidrBlock.literal ++ ", state="
    ++ v.state.literal ++ ", is_default=" ++ v.isDefault.literal ++ ", tags=" ++ v.tags.written ++ ")"

def toJson (v : Vpc) : Json :=
  .resource v.written
    [("type", .str "VPC"), ("vpc_id", v.id), ("cidr_block", v.cidrBlock), ("state", v.state),
      ("is_default", v.isDefault), ("tags", v.tags.toJson)]

end Vpc

/-! ## Instances -/

/-- Only the low byte of a state code counts; 16 there means running. -/
def running (stateCode : Json) : Except Failure Bool :=
  match stateCode.number? with
  | some n => .ok (n % 256 == 16)
  | none => .error (.fault .wrongType)

structure Instance where
  id : Json
  vpcId : Json
  stateCode : Json
  stateName : Json
  subnetId : Json
  zone : Json
  tags : Tags

namespace Instance

def ofJson (record : Json) : Except Failure Instance := do
  let state ← record.fieldD "State" (.obj [])
  let id ← record.fieldOrEmpty "InstanceId"
  let vpcId ← record.fieldD "VpcId" .null
  let stateCode ← state.fieldD "Code" (.num 0)
  let stateName ← state.fieldOrEmpty "Name"
  let subnetId ← record.fieldOrEmpty "SubnetId"
  let zone ← (← record.fieldD "Placement" (.obj [])).fieldOrEmpty "AvailabilityZone"
  let tags ← Tags.ofJson (← record.fieldD "Tags" .null)
  return { id, vpcId := if vpcId.truthy then vpcId else .empty, stateCode, stateName, subnetId, zone, tags }

def isRunning (i : Instance) : Except Failure Bool := running i.stateCode

end Instance

/-- An entry of an answer about the states of instances. -/
structure InstanceStatus where
  id : Json
  stateCode : Json
  stateName : Json

namespace InstanceStatus

def ofJson (record : Json) : Except Failure InstanceStatus := do
  let state ← record.fieldD "InstanceState" (.obj [])
  let id ← record.fieldOrEmpty "InstanceId"
  let stateCode ← state.fieldD "Code" (.num 0)
  let stateName ← state.fieldOrEmpty "Name"
  return { id, stateCode, stateName }

def isRunning (s : InstanceStatus) : Except Failure Bool := running s.stateCode

end InstanceStatus

/-! ## What the cache holds -/

/-- A cached value: a plain one or a snapshot. -/
inductive Stored where
  | plain (v : Json)
  | subnet (s : Subnet)
  | vpc (v : Vpc)

namespace Stored

/-- A stored null is there and yet tells nothing. -/
def isNull : Stored → Bool
  | plain .null => true
  | _ => false

def toJson : Stored → Json
  | plain v => v
  | subnet s => s.toJson
  | vpc v => v.toJson

/-- A cached value that is used as a subnet. -/
def asSubnet : Stored → Except Failure Subnet
  | subnet s => .ok s
  | _ => .error (.fault .noMember)

end Stored

end NetLookup
