import NetLookup.Failure

/-! # The codes of failures and what they tell -/

namespace NetLookup

namespace Failure

/-! ## The code -/

/-- The code of a failed request or of an error answer; anything else goes by its kind. -/
def code : Failure → Json
  | transport r _ => if r.code.truthy then r.code else .str "TransportError"
  | service e => e.code.getD (.str "Unknown")
  | e => .str e.kind

def dependencyViolation : String := "DependencyViolation"

def throttlingCodes : List String :=
  ["Throttling", "ThrottlingException", "RequestLimitExceeded", "TooManyRequestsException",
    "RateExceeded"]

def notFoundCodes : List String :=
  ["InvalidGroup.NotFound", "InvalidSubnetID.NotFound", "InvalidVpcID.NotFound",
    "InvalidInstanceID.NotFound"]

def transientCodes : List String :=
  ["ServiceUnavailable", "ServiceUnavailableException", "InternalError", "InternalServiceError",
    "RequestTimeout", "RequestTimeoutException"]

/-! ## Classes of failures -/

/-- Whether a code is one of a set; a list or an object can be in no set. -/
def codeAmong (codes : List String) (e : Failure) : Except Failure Bool :=
  match e.code with
  | .str s => .ok (codes.contains s)
  | .arr _ | .obj _ => .error (.fault .wrongType)
  | _ => .ok false

/-- Another resource still holds on to the one to be deleted. -/
def isDependencyViolation (e : Failure) : Bool :=
  e.code.same (.str dependencyViolation)

def isThrottling (e : Failure) : Except Failure Bool := e.codeAmong throttlingCodes

def isNotFound (e : Failure) : Except Failure Bool := e.codeAmong notFoundCodes

/-- No connection came about, or no answer came in time. -/
def isConnectionLoss : Failure → Bool
  | sdk f => SdkFault.lossKinds.contains f.kind
  | _ => false

/-- Whether the same request may well succeed a little later. -/
def isRetryable (e : Failure) : Except Failure Bool :=
  if e.isConnectionLoss then .ok true else e.codeAmong (throttlingCodes ++ transientCodes)

/-- Codes that can be looked up in a set. -/
def codeReadable (e : Failure) : Bool :=
  match e.code with
  | .arr _ | .obj _ => false
  | _ => true

theorem codeAmong_of_readable {e : Failure} (codes : List String) (h : e.codeReadable) :
    e.codeAmong codes = .ok (e.code.text?.any codes.contains) := by
  unfold codeReadable at h
  unfold codeAmong
  cases hc : e.code <;> simp_all [Json.text?]

end Failure

end NetLookup
