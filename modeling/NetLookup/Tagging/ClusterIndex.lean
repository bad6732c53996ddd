import NetLookup.Listing
import NetLookup.Tagging.Arn

/-! # The resources of a cluster by kind -/

namespace NetLookup

inductive ResourceKind where
  | subnet
  | securityGroup
  | loadBalancer
  | targetGroup
  | other
  deriving DecidableEq

def ResourceKind.ofType : String → ResourceKind
  | "subnet" => subnet
  | "security-group" => securityGroup
  | "loadbalancer" => loadBalancer
  | "targetgroup" => targetGroup
  | _ => other

def ResourceKind.ofArn (arn : String) : ResourceKind := ofType (Arn.resourceType arn)

/-- The tags of each resource of a kind by its full name. -/
abbrev ClusterIndex := ResourceKind → Named Tags

/-- A tagged resource. -/
structure Mapping where
  arn : String
  tags : Tags

namespace Mapping

def ofJson (record : Json) : Except Failure Mapping := do
  let arn ← record.fieldOrEmpty "ResourceARN"
  let tags ← (← (← record.fieldD "Tags" (.arr [])).elements).mapM Tags.pairOf
  match arn with
  | .str arn => return { arn, tags }
  | _ => throw (.fault .noMember)

end Mapping

namespace ClusterIndex

def empty : ClusterIndex := fun _ => []

/-- A resource seen again keeps its place and takes the new tags. -/
def insert (index : ClusterIndex) (m : Mapping) : ClusterIndex := fun kind =>
  if kind = .ofArn m.arn then (index kind).set m.arn m.tags else index kind

def ofMappings (ms : List Mapping) : ClusterIndex := ms.foldl insert empty

end ClusterIndex

/-! ## Reading the index -/

def clusterTagName : String := "kubernetes.io/cluster"

/-- The key of the tag that marks the resources of a cluster. -/
def clusterTagKey (cluster : String) : String := clusterTagName ++ "/" ++ cluster

def clusterParams (cluster : String) : Fields :=
  [("TagFilters", .arr [.obj [("Key", .str (clusterTagKey cluster))]])]

/-- The resources that are tagged for a cluster. -/
def clusterIndex (cluster : String) : Work ClusterIndex := do
  let records ← listAll .tagging (.str "resourcegroupstaggingapi") "get_resources"
    "ResourceTagMappingList" (clusterParams cluster)
  return .ofMappings (← Work.check (records.mapM Mapping.ofJson))

end NetLookup
