import NetLookup.Lookup.Instances
import NetLookup.Lookup.SecurityGroups

/-! # All lookups under one type -/

namespace NetLookup

inductive Operation where
  | subnets (names : List String)
  | clusterSubnets (scheme : Json)
  | securityGroups (names : List String)
  | securityGroupById (id : String)
  | securityGroupByName (network name : String)
  | deleteSecurityGroup (id : String)
  | vpcId
  | vpc (id : String)
  | nodeHealthy (id : String)
  | instances (ids : List String)
  | status

inductive Answer where
  | done
  | value (v : Json)
  | stored (v : Stored)
  | group (g : Option SecurityGroup)
  | instances (is : List Instance)

namespace Operation

def run (s : Settings) : Operation → Work Answer
  | .subnets names => return .value (.arr (← Lookup.subnets s names))
  | .clusterSubnets scheme => return .value (.arr (← Lookup.clusterSubnets s scheme))
  | .securityGroups names => return .value (.arr (← Lookup.securityGroups s names))
  | .securityGroupById id => return .group (← Lookup.securityGroupById id)
  | .securityGroupByName network name =>
    return .group (← Lookup.securityGroupByName network name)
  | .deleteSecurityGroup id => do
    Lookup.deleteSecurityGroup s id
    return .done
  | .vpcId => return .value (← Lookup.vpcId s)
  | .vpc id => return .stored (← Lookup.vpc s id)
  | .nodeHealthy id => return .value (← Lookup.nodeHealthy s id)
  | .instances ids => return .instances (← Lookup.instances ids)
  | .status => do
    Lookup.status
    return .done

end Operation

end NetLookup
