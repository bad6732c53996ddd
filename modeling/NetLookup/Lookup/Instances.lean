import NetLookup.Lookup.Remembered

/-! # Instances and their health -/

namespace NetLookup.Lookup

/-! ## Health -/

def verdicts (s : Settings) : View := ⟨"EC2.IsNodeHealthy", s.healthTtl⟩

/-- The verdict of the first record of an instance. -/
def verdictOf (id : String) : List Json → Except Failure (Option Bool)
  | [] => .ok none
  | record :: records => do
    let status ← InstanceStatus.ofJson record
    if status.id.same (.str id) then return some (← status.isRunning)
    verdictOf id records

/-- Whether an instance is running. Nothing is stored about one that no record tells of. -/
def nodeHealthy (s : Settings) (id : String) : Work Json := do
  match ← (verdicts s).read id with
  | some verdict => return verdict.toJson
  | none =>
    let records ← describeAll "describe_instance_status" "InstanceStatuses"
      [("InstanceIds", .arr [.str id])]
    match ← Work.check (verdictOf id records) with
    | none => return .bool false
    | some healthy =>
      (verdicts s).write (.text id) (.plain (.bool healthy))
      return .bool healthy

/-! ## Instances -/

def instancesOf (reservation : Json) : Except Failure (List Instance) := do
  (← (← reservation.fieldD "Instances" (.arr [])).elements).mapM Instance.ofJson

/-- Instances by their ids, over all reservations. -/
def instances (ids : List String) : Work (List Instance) := do
  let reservations ← describeAll "describe_instances" "Reservations"
    [("InstanceIds", .arr (ids.map .str))]
  return (← Work.check (reservations.mapM instancesOf)).flatten

/-! ## Reachability -/

/-- Fails if the interface cannot be reached. -/
def status : Work Unit := do
  Work.perform [.call "describe_tags" [("MaxResults", .num 6)]]
  match (← get).remote.tagsFailure with
  | some e => throw (e.named (.str "ec2") (.str "describe_tags") [])
  | none => return ()

end NetLookup.Lookup
