import NetLookup.Json.Order

/-! # Options of clients

A client gets the standard options with those of the caller on top. Limits on repeated requests are one
option, which the caller's value replaces as a whole. -/

namespace NetLookup

/-! ## Limits on repeated requests -/

namespace RetryLimits

def names : List String := ["max_attempts", "mode", "total_max_attempts"]

def modes : List String := ["legacy", "standard", "adaptive"]

def tooFew (count : Json) (least : Int) : Failure :=
  .foreign "InvalidMaxRetryAttemptsError"
    ("Value provided to \"max_attempts\": " ++ count.display
      ++ " must be an integer greater than or equal to " ++ toString least ++ ".")

/-- Texts in quotes and parentheses. -/
def listed (texts : List String) : String := "(" ++ ", ".intercalate (texts.map Text.quoted) ++ ")"

def unknownMode (mode : Json) : Failure :=
  .foreign "InvalidRetryModeError"
    ("Invalid value provided to \"mode\": \"" ++ mode.display ++ "\" must be one of: " ++ listed modes)

def unknownLimit (name : String) : Failure :=
  .foreign "InvalidRetryConfigurationError"
    ("Cannot provide retry configuration for \"" ++ name
      ++ "\". Valid retry configuration options are: " ++ listed names)

def checkCount (least : Int) (v : Json) : Except Failure Unit :=
  match v.compare? (.num least) with
  | none => .error (.fault .wrongType)
  | some found => if found = .lt then .error (tooFew v least) else .ok ()

def checkLimit (name : String) (v : Json) : Except Failure Unit :=
  match name with
  | "max_attempts" => checkCount 0 v
  | "total_max_attempts" => checkCount 1 v
  | "mode" => if modes.any fun m => v.same (.str m) then .ok () else .error (unknownMode v)
  | _ => .error (unknownLimit name)

/-- The first limit that is wrong. -/
def check : Json → Except Failure Unit
  | .null => .ok ()
  | .obj limits => limits.forM fun l => checkLimit l.1 l.2
  | _ => .error (.fault .noMember)

end RetryLimits

/-! ## Addressing -/

namespace Addressing

def styles : List String := ["auto", "virtual", "path"]

def unknownStyle (style : Json) : Failure :=
  .foreign "InvalidS3AddressingStyleError"
    ("S3 addressing style " ++ style.display
      ++ " is invalid. Valid options are: 'auto', 'virtual', and 'path'")

/-- A style need not be given. -/
def checkStyle (style : Json) : Except Failure Unit :=
  if style.isNull || styles.any fun s => style.same (.str s) then .ok ()
  else .error (unknownStyle style)

/-- Whether the options about storage name a known style. -/
def check : Json → Except Failure Unit
  | .null => .ok ()
  | storage => do checkStyle (← storage.fieldD "addressing_style" .null)

end Addressing

/-! ## Options -/

/-- Options by name, those that are set. -/
abbrev ClientOptions := Fields

namespace ClientOptions

def standard (maxAttempts mode : Json) : ClientOptions :=
  [("retries", .obj [("max_attempts", maxAttempts), ("mode", mode)]),
    ("connect_timeout", .num 5), ("read_timeout", .num 30)]

def standardMaxAttempts : Json := .num 5

def standardMode : Json := .str "adaptive"

/-- The names that options may have. -/
def names : List String :=
  ["region_name", "signature_version", "user_agent", "user_agent_extra", "user_agent_appid",
    "connect_timeout", "read_timeout", "parameter_validation", "max_pool_connections", "proxies",
    "proxies_config", "s3", "retries", "client_cert", "inject_host_prefix",
    "endpoint_discovery_enabled", "use_dualstack_endpoint", "use_fips_endpoint",
    "ignore_configured_endpoint_urls", "defaults_mode", "tcp_keepalive",
    "request_min_compression_size_bytes", "disable_request_compression", "client_context_params",
    "sigv4a_signing_region_set", "request_checksum_calculation", "response_checksum_validation",
    "account_id_endpoint_mode", "auth_scheme_preference", "s3_disable_express_session_auth"]

/-- Options as they are if all have a known name and their style of addressing and their limits are in
order. -/
def checked (options : ClientOptions) : Except Failure ClientOptions := do
  if options.any fun o => !names.contains o.1 then throw (.fault .wrongType)
  Addressing.check ((options.lookup "s3").getD .null)
  RetryLimits.check ((options.lookup "retries").getD .null)
  return options

/-- The options of two sets; where both set one, the second wins. -/
def merge (options given : ClientOptions) : ClientOptions :=
  given.foldl (fun os o => os.set o.1 o.2) options

/-- The standard options below those given, which have to be in order by themselves. -/
def make (maxAttempts mode : Json) (given : Option ClientOptions) :
    Except Failure ClientOptions := do
  let given ← (given.getD []).checked
  let own ← (standard maxAttempts mode).checked
  return own.merge given

/-- The options that every client has, each with its value when it is not set. -/
def shown : Fields :=
  [("retries", .null), ("connect_timeout", .num 60), ("read_timeout", .num 60),
    ("max_pool_connections", .num 10), ("user_agent_extra", .null)]

def toJson (options : ClientOptions) : Json :=
  .obj (shown.map fun o => (o.1, (options.lookup o.1).getD o.2))

end ClientOptions

/-! ## Clients -/

/-- A client of a service. -/
structure Client where
  service : Json
  region : Json
  /-- The region of the session that made it. -/
  sessionRegion : Option String
  options : ClientOptions
  /-- What else was said when it was made. -/
  extra : Fields

def optional : Option String → Json
  | none => .null
  | some s => .str s

namespace Client

/-- A client with the standard options for a region. -/
def standard (service : String) (region sessionRegion : Option String) : Client :=
  { service := .str service, region := optional region, sessionRegion, extra := []
    options := .standard ClientOptions.standardMaxAttempts ClientOptions.standardMode }

/-- The clients that lookups need. That they can be made is taken for granted: nothing is sent for it, and
it fails only without descriptions of the services or without any region. -/
def forLookups (region sessionRegion : Option String) : List Client :=
  [standard "ec2" region sessionRegion, standard "resourcegroupstaggingapi" region sessionRegion]

/-- The session and the service are said before all arguments, and cannot be said again among them. -/
def saidBefore : List String := ["session", "service_name"]

/-- The arguments with a meaning of their own. All others are passed on. -/
def ownArguments : List String := ["region_name", "max_attempts", "retry_mode", "config"]

/-- The name that the session has for itself, which no argument that it is handed can have. -/
def ownName : String := "self"

/-- A client with the given options on top of the standard ones. A plain value among the arguments is
not taken for options. -/
def make (service : Json) (arguments : Fields) (given : Option ClientOptions) :
    Except Failure Client := do
  let argument (name : String) (default : Json) := (arguments.lookup name).getD default
  if arguments.any fun a => saidBefore.contains a.1 then throw (.fault .wrongType)
  let options ← ClientOptions.make (argument "max_attempts" ClientOptions.standardMaxAttempts)
    (argument "retry_mode" ClientOptions.standardMode) given
  if !(argument "config" .null).isNull then throw (.fault .noMember)
  if arguments.any fun a => a.1 == ownName then throw (.fault .wrongType)
  return { service, region := argument "region_name" .null, sessionRegion := none, options
           extra := arguments.filter fun a => !ownArguments.contains a.1 }

def toJson (c : Client) : Json :=
  .obj [("service", c.service), ("region", c.region),
    ("session_region", optional c.sessionRegion), ("config", c.options.toJson),
    ("kwargs", .obj c.extra)]

end Client

end NetLookup
