import NetLookup.Lookup.Subnets
import NetLookup.Retry.Run

/-! # Security groups -/

namespace NetLookup.Lookup

def groupIds (s : Settings) : View := ⟨"EC2.GetSecurityGroups", s.groupTtl⟩

/-! ## By name -/

/-- The ids of all records; those that have a name are stored under it. -/
def rememberGroups (v : View) : List Json → Work (List Json)
  | [] => return []
  | record :: records => do
    let group ← Work.check (SecurityGroup.ofJson record)
    match group.name? with
    | none => pure ()
    | some name => v.remember name group.id
    return group.id :: (← rememberGroups v records)

def describeGroups (params : Fields) : Work (List Json) :=
  describeAll "describe_security_groups" "SecurityGroups" params

/-- The cached ids, followed by those of one request for all other names. -/
def securityGroups (s : Settings) (names : List String) : Work (List Json) := do
  let (ids, missing) ← (groupIds s).readAll names
  if missing.isEmpty then return ids
  let records ← describeGroups (namedParams missing (← vpcId s))
  return ids ++ (← rememberGroups (groupIds s) records)

/-! ## One group -/

def firstGroup : List Json → Except Failure (Option SecurityGroup)
  | [] => .ok none
  | record :: _ => some <$> SecurityGroup.ofJson record

/-- An unknown id is refused rather than answered by no record; it means that there is no group. -/
def noneIfUnknown (e : Failure) : Work (List Json) := do
  match e with
  | .transport _ _ => if ← Work.check e.isNotFound then return [] else throw e
  | _ => throw e

def securityGroupById (id : String) : Work (Option SecurityGroup) := do
  let records ← tryCatch (describeGroups [("GroupIds", .arr [.str id])]) noneIfUnknown
  Work.check (firstGroup records)

def securityGroupByName (vpcId name : String) : Work (Option SecurityGroup) := do
  let records ← describeGroups
    (Filter.params [Filter.entry "vpc-id" [.str vpcId], Filter.entry "group-name" [.str name]])
  Work.check (firstGroup records)

/-! ## Deletion -/

def deletePolicy (s : Settings) : Policy := .dependency (.standard .standard) s.deleteMaxAttempts

def deleteCall (id : String) : Event := .call "delete_security_group" [("GroupId", .str id)]

/-- Calls with the waits between them. -/
def callsWithWaits (call : Event) (waits : List Float) : List Event :=
  call :: waits.flatMap fun w => [.sleep w, call]

def deletions (outcome : Nat → Option Failure) : Repeated Unit where
  service := "ec2"
  operation := "delete_security_group"
  outcome i := match outcome i with
    | some e => .error e
    | none => .ok ()

/-- Deletes a group, again and again while another resource holds on to it. -/
def deleteSecurityGroup (s : Settings) (id : String) : Work Unit := do
  let state ← get
  let run := (deletions state.remote.deletion).run (deletePolicy s) state.draw
  let used := Repeated.drawsUsed (deletePolicy s) run
  set { state with
    clock := run.waits.foldl (· + ·) state.clock
    draw := fun n => state.draw (n + used)
    remote := { state.remote with deletion := fun n => state.remote.deletion (n + run.calls) }
    trace := state.trace ++ callsWithWaits (deleteCall id) run.waits }
  Work.check run.result

end NetLookup.Lookup
