import NetLookup.Json.Literal

/-! # What can go wrong

Failures of the remote side are kept as they came; failures of this library say what was asked for
and carry the failure that caused them. -/

namespace NetLookup

/-! ## Failures that come from outside -/

/-- What goes wrong when a value is used in a way that its kind does not allow. -/
inductive Fault where
  /-- A value was counted, walked through, compared or combined that cannot be. -/
  | wrongType
  /-- A field was asked of a value that has no fields. -/
  | noMember
  /-- A value with named fields has none of this name. -/
  | noEntry (name : String)
  /-- A result is too large for a floating-point number. -/
  | overflow
  | divisionByZero
  deriving DecidableEq

def Fault.text : Fault → String
  | .wrongType => "a value of the wrong kind"
  | .noMember => "a value without fields"
  | .noEntry name => name
  | .overflow => "a result out of range"
  | .divisionByZero => "a division by zero"

/-- An error answer of a service. The code and the message may be missing, which is not the same as
being null. -/
structure ServiceError where
  code : Option Json
  message : Option Json
  operation : String
  /-- How often the request was repeated, if that was given up. -/
  retriesSpent : Option Json

/-- A request that got no answer, or could not be made: the name of the class of what went wrong, and what is
said about it. -/
structure SdkFault where
  kind : String
  text : String
  named : kind ≠ "" := by decide
  deriving DecidableEq

namespace SdkFault

def unreachable (url : String) : SdkFault where
  kind := "EndpointConnectionError"
  text := "Could not connect to the endpoint URL: \"" ++ url ++ "\""

def noCredentials : SdkFault where
  kind := "NoCredentialsError"
  text := "Unable to locate credentials"

def noRegion : SdkFault where
  kind := "NoRegionError"
  text := "You must specify a region."

/-- The classes of faults where no connection came about, and the one where no answer came in time. -/
def lossKinds : List String :=
  ["ConnectionError", "EndpointConnectionError", "ConnectTimeoutError", "ProxyConnectionError", "SSLError",
    "ReadTimeoutError"]

end SdkFault

namespace ServiceError

def text (e : ServiceError) : String :=
  let shown (part : Option Json) := (part.getD (.str "Unknown")).display
  let spent := match e.retriesSpent with
    | some n => " (reached max retries: " ++ n.display ++ ")"
    | none => ""
  "An error occurred (" ++ shown e.code ++ ") when calling the " ++ e.operation ++ " operation"
    ++ spent ++ ": " ++ shown e.message

end ServiceError

/-! ## Failures -/

/-- The request that failed, and what the service said about it; null where it said nothing. -/
structure FailedRequest where
  service : Json
  operation : Json
  code : Json
  message : Json
  params : Fields

inductive Failure where
  | service (error : ServiceError)
  | sdk (fault : SdkFault)
  /-- A request to the metadata service went wrong. -/
  | http (kind message : String)
  /-- Any other failure of the surroundings. -/
  | foreign (kind message : String)
  | fault (fault : Fault)
  | plain (message : String) (details : Fields) (cause : Option Failure)
  /-- An argument is not one of those allowed. -/
  | validation (field : String) (value : Json) (expected : String) (cause : Option Failure)
  /-- An answer does not hold what was looked for. -/
  | lookup (resource message : String) (details : Fields) (cause : Option Failure)
  /-- An answer holds another number of records than it must. -/
  | invariant (resource identifier : String) (expected actual : Int)
  | transport (request : FailedRequest) (cause : Option Failure)

namespace FailedRequest

def describe (r : FailedRequest) : String :=
  r.service.display ++ "." ++ r.operation.display
    ++ (if r.code.truthy then " failed (" ++ r.code.display ++ ")" else "")
    ++ (if r.message.truthy then ": " ++ r.message.display else "")
    ++ (if r.params.isEmpty then "" else " [params=" ++ (Json.obj r.params).literal ++ "]")

end FailedRequest

namespace Failure

/-- What is wrong with an argument. -/
def unexpected (field : String) (value : Json) (expected : String) : String :=
  "Invalid " ++ field ++ " [" ++ value.display ++ "]: expected " ++ expected

/-- What is wrong with the number of records. -/
def miscounted (resource identifier : String) (expected actual : Int) : String :=
  "Invalid amount of " ++ resource ++ " " ++ toString actual ++ " returned for " ++ identifier
    ++ " (expected " ++ toString expected ++ ")"

/-- What is wrong, without the cause. -/
def message : Failure → String
  | service e => e.text
  | sdk f => f.text
  | http _ m => m
  | foreign _ m => m
  | fault f => f.text
  | plain m _ _ => m
  | validation field value expected _ => unexpected field value expected
  | lookup _ m _ _ => m
  | invariant resource identifier expected actual =>
    miscounted resource identifier expected actual
  | transport r _ => r.describe

def cause? : Failure → Option Failure
  | plain _ _ c => c
  | validation _ _ _ c => c
  | lookup _ _ _ c => c
  | transport _ c => c
  | _ => none

mutual

/-- The message, and after a colon the text of the cause. -/
def text : Failure → String
  | service e => e.text
  | sdk f => f.text
  | http _ m => m
  | foreign _ m => m
  | fault f => f.text
  | plain m _ c => m ++ causeText c
  | validation field value expected c => unexpected field value expected ++ causeText c
  | lookup _ m _ c => m ++ causeText c
  | invariant resource identifier expected actual =>
    miscounted resource identifier expected actual
  | transport r c => r.describe ++ causeText c

def causeText : Option Failure → String
  | none => ""
  | some e => ": " ++ text e

end

theorem text_eq (e : Failure) : e.text = e.message ++ causeText e.cause? := by
  cases e <;> simp [text, message, cause?, causeText]

/-! ## Reports -/

/-- The name of a failure's kind. -/
def kind : Failure → String
  | service _ => "ClientError"
  | sdk f => f.kind
  | http k _ | foreign k _ => k
  | fault _ => "Fault"
  | plain _ _ _ => "AlbNetError"
  | validation _ _ _ _ => "ValidationError"
  | lookup _ _ _ _ => "ResourceLookupError"
  | invariant _ _ _ _ => "InvariantViolation"
  | transport _ _ => "TransportError"

/-- Whether a failure is one of this library's own. -/
def isOwn : Failure → Bool
  | plain _ _ _ | validation _ _ _ _ | lookup _ _ _ _ | invariant _ _ _ _ | transport _ _ => true
  | _ => false

/-- Whether a failure comes from the cloud interface, with or without an answer. -/
def isRemote : Failure → Bool
  | service _ | sdk _ => true
  | _ => false

def isHttp : Failure → Bool
  | http _ _ => true
  | _ => false

/-- What a failure says about its circumstances. -/
def details : Failure → Fields
  | plain _ d _ => d
  | validation field value expected _ =>
    [("field", .str field), ("value", .str value.display), ("expected", .str expected)]
  | lookup resource _ d _ => d.set "resource" (.str resource)
  | invariant resource identifier expected actual =>
    [("resource", .str resource), ("identifier", .str identifier), ("expected", .num expected),
      ("actual", .num actual)]
  | transport r _ =>
    [("service", r.service), ("operation", r.operation), ("error_code", r.code),
      ("params", .obj r.params)]
  | _ => []

/-- A failure as a value with named fields. -/
def report (e : Failure) : Json :=
  .obj [("error_type", .str e.kind), ("message", .str e.message),
    ("cause", e.cause?.elim .null fun c => .str c.text), ("details", .obj e.details)]

/-! ## Naming the request -/

/-- The code and the message that a failure brings along: of an error answer its own, of anything
else the name of its kind. -/
def codeAndMessage : Failure → Json × Json
  | service e => (e.code.getD .null, e.message.getD .null)
  | e => (.str e.kind, .null)

/-- A failure under the name of the request that met it. -/
def ofRequest (service operation : Json) (params : Fields) (e : Failure) : Failure :=
  .transport ⟨service, operation, e.codeAndMessage.1, e.codeAndMessage.2, params⟩ (some e)

/-- Failures of the cloud interface take the request's name, all others stay as they are. -/
def named (service operation : Json) (params : Fields) (e : Failure) : Failure :=
  if e.isRemote then e.ofRequest service operation params else e

end Failure

end NetLookup
