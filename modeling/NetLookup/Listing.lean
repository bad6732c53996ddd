import NetLookup.Remote

/-! # Paginated listings

A listing succeeds as a whole or fails as a whole: records from before an outage are dropped. -/

namespace NetLookup

/-! ## Filters -/

namespace Filter

def entry (name : String) (values : List Json) : Json :=
  .obj [("Name", .str name), ("Values", .arr values)]

/-- A filter whose values are the parts of one value. -/
def ofJson (name values : Json) : Except Failure Json := do
  return .obj [("Name", name), ("Values", .arr (← values.elements))]

/-- The request for what all filters let through. -/
def params (filters : List Json) : Fields := [("Filters", .arr filters)]

end Filter

/-! ## Pages -/

namespace Listing

/-- The records of a page; a page may lack them. -/
def records (key : String) (page : Json) : Except Failure (List Json) := do
  (← page.fieldD key (.arr [])).elements

def collect (key : String) (pages : List Json) : Except Failure (List Json) := do
  return (← pages.mapM (records key)).flatten

/-- What a listing that got started comes to. -/
def outcome (key : String) (pages : List Json) : Option Outage → Except Failure (List Json)
  | some (.atPage n e) => do
    let _ ← collect key (pages.take n)
    throw e
  | _ => collect key pages

/-! ### Arguments -/

def anySaid (names : List String) (arguments : Fields) : Bool :=
  arguments.any fun a => names.contains a.1

/-- What is said before all arguments of a listing, and cannot be said again among them. -/
def saidBefore : List String := ["client", "operation", "result_key"]

def serviceName : String := "service"

/-- The name that a listing has for itself, which no parameter of the request can have. -/
def ownName : String := "self"

end Listing

/-- All records of a listing in page order. A failure of the remote side gets the request's name. -/
def listAll (api : Api) (service : Json) (operation key : String) (params : Fields) :
    Work (List Json) := do
  let remote := (← get).remote
  match remote.outage api operation with
  | some (.beforeStart e) => throw (e.named service (.str operation) params)
  | outage =>
    if Listing.anySaid [Listing.ownName] params then throw (.fault .wrongType)
    Work.perform [.page api operation params]
    Work.check ((Listing.outcome key (remote.pages api operation) outage).mapError
      (·.named service (.str operation) params))

def mainService : Json := .str "ec2"

/-- A listing of the main interface. -/
def describeAll (operation key : String) (params : Fields) : Work (List Json) :=
  listAll .ec2 mainService operation key params

/-- A listing of the main interface by arguments. One of them may be the service that a failure is to
name, all others are parameters of the request. -/
def describeBy (operation key : String) (arguments : Fields) : Work (List Json) := do
  if Listing.anySaid Listing.saidBefore arguments then throw (.fault .wrongType)
  listAll .ec2 ((arguments.lookup Listing.serviceName).getD mainService) operation key
    (arguments.filter fun a => a.1 != Listing.serviceName)

end NetLookup
