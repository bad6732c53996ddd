import NetLookup.Duration
import NetLookup.Identity

/-! # Settings -/

namespace NetLookup

structure Settings where
  /-- The network to use without looking it up. -/
  vpcId : Option String := none
  region : Option String := none
  clusterName : String := ""
  endpoint : String := MetadataService.defaultEndpoint
  subnetTtl : Ttl := .span (.ofMinutes 60)
  groupTtl : Ttl := .span (.ofMinutes 60)
  vpcTtl : Ttl := .span (.ofMinutes 60)
  healthTtl : Ttl := .span (.ofMinutes 5)
  /-- How often a deletion is attempted while another resource holds on. -/
  deleteMaxAttempts : Int := 20

/-- An empty text counts as none. -/
def nonEmpty (s : Option String) : Option String := s.filter (· != "")

namespace Settings

def ofEnvironment (env : String → Option String) : Settings where
  vpcId := nonEmpty (env "AWS_VPC_ID")
  region := nonEmpty (env "AWS_REGION") <|> nonEmpty (env "AWS_DEFAULT_REGION")
  clusterName := (env "ALBNET_CLUSTER_NAME").getD ""
  endpoint := (nonEmpty (env "ALBNET_IMDS_ENDPOINT")).getD MetadataService.defaultEndpoint

def metadata (s : Settings) : MetadataService := ⟨s.endpoint, MetadataService.defaultTimeout⟩

end Settings

end NetLookup
