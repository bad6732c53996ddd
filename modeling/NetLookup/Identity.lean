import NetLookup.Remote

/-! # The identity of the host

The metadata service first hands out a token, and shows the identity document to whoever has it. -/

namespace NetLookup

structure Identity where
  instanceId : Json
  region : Json
  zone : Json
  accountId : Json

namespace Identity

def resource : String := "instance-identity-document"

def noInstance (fields : Fields) : Failure :=
  .lookup resource "Instance identity document did not contain an instanceId"
    [("keys", .arr ((fields.map (·.1)).mergeSort Json.textLe |>.map .str))] none

/-- The document must name an instance. -/
def ofJson (document : Json) : Except Failure Identity := do
  let instanceId ← document.fieldOrEmpty "instanceId"
  if !instanceId.truthy then
    let fields := match document with
      | .obj fields => fields
      | _ => []
    throw (noInstance fields)
  let region ← document.fieldOrEmpty "region"
  let zone ← document.fieldOrEmpty "availabilityZone"
  let accountId ← document.fieldOrEmpty "accountId"
  return { instanceId, region, zone, accountId }

def toJson (d : Identity) : Json :=
  .obj [("type", .str "IdentityDocument"), ("instance_id", d.instanceId), ("region", d.region),
    ("availability_zone", d.zone), ("account_id", d.accountId)]

end Identity

/-! ## Requests -/

/-- Where the metadata service is, and how long it may take to answer. -/
structure MetadataService where
  endpoint : String
  timeout : Float

namespace MetadataService

def defaultEndpoint : String := "http://169.254.169.254"

def defaultTimeout : Float := 2.0

/-- The endpoint without slashes at its end. -/
def base (m : MetadataService) : String :=
  String.ofList (m.endpoint.toList.reverse.dropWhile (· == '/')).reverse

def tokenRequest (m : MetadataService) : Event :=
  .http "PUT" (m.base ++ "/latest/api/token") [("X-aws-ec2-metadata-token-ttl-seconds", "21600")]
    m.timeout

def documentRequest (m : MetadataService) (token : String) : Event :=
  .http "GET" (m.base ++ "/latest/dynamic/instance-identity/document")
    [("X-aws-ec2-metadata-token", token)] m.timeout

/-- A failed request under its name; other failures stay as they are. -/
def named (e : Failure) : Failure :=
  if e.isHttp then
    .transport ⟨.str "ec2metadata", .str "get_instance_identity_document", .str e.kind, .str e.text, []⟩
      (some e)
  else e

end MetadataService

namespace Reply

/-- Whether an answer came, and with a good status. -/
def received (r : Reply) : Except Failure Unit :=
  match r.noAnswer, r.badStatus with
  | some e, _ => .error e
  | none, some m => .error (.http "HTTPError" m)
  | none, none => .ok ()

def notJson (reason : String) : Failure :=
  .lookup Identity.resource "Instance identity document is not valid JSON" []
    (some (.foreign "ValueError" reason))

end Reply

/-- The identity document of the host. -/
def hostIdentity (m : MetadataService) : Work Identity := do
  Work.perform [m.tokenRequest]
  let remote := (← get).remote
  Work.check (remote.token.received.mapError MetadataService.named)
  Work.perform [m.documentRequest remote.token.text]
  Work.check (remote.identity.received.mapError MetadataService.named)
  let document ← Work.check (remote.identity.document.mapError Reply.notJson)
  Work.check (Identity.ofJson document)

end NetLookup
