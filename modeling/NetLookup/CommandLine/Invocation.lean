import NetLookup.CommandLine.Options
import NetLookup.Lookup.Operation

/-! # What a command line asks for -/

namespace NetLookup.CommandLine

inductive Command where
  | vpcId
  | subnets (scheme : Lookup.Scheme) (json : Bool)
  | subnetsByName (names : List String) (json : Bool)
  | securityGroups (names : List String) (json : Bool)
  | nodeHealth (id : String)
  | status

/-- The options before the command. -/
structure Overrides where
  region : Option String := none
  vpcId : Option String := none
  cluster : Option String := none
  /-- Whether the steps are to be logged. -/
  verbose : Bool := false

inductive Invocation where
  | version
  | help
  | run (overrides : Overrides) (command : Command)

/-! ## Options -/

def helpRule : OptionRule := { name := "help" }

def jsonRule : OptionRule := { name := "json" }

def schemeRule : OptionRule := { name := "scheme", letter := some 's', takesValue := true }

/-- The options before the command; its name ends them. -/
def mainGrammar : Grammar where
  options := [helpRule, { name := "version" }, { name := "region", letter := some 'r', takesValue := true },
    { name := "vpc-id", takesValue := true }, { name := "cluster", takesValue := true },
    { name := "verbose", letter := some 'v' }]
  mixed := false

def commandGrammar (options : List OptionRule) : Grammar where
  options := helpRule :: options
  mixed := true

/-! ## Commands -/

/-- An answer to the request for help, or what the words after the command come to. -/
def helpOr (options : List OptionRule) (words : List String) (make : Given → Option Command) :
    Option (Option Command) := do
  let given ← (commandGrammar options).read words
  if given.has "help" then return none
  return some (← make given)

def schemeOf (given : Given) : Option Lookup.Scheme :=
  match given.value? "scheme" with
  | none => some .internetFacing
  | some name => Lookup.Scheme.all.find? (·.name == name)

def named (make : List String → Bool → Command) (given : Given) : Option Command :=
  if given.arguments.isEmpty then none else some (make given.arguments (given.has "json"))

def commandNames : List String :=
  ["vpc-id", "subnets", "subnets-by-name", "security-groups", "node-health", "status"]

/-- A command by its name. Nothing is returned for words that do not fit, and no command where help
is asked for. -/
def command (name : String) (words : List String) : Option (Option Command) :=
  match name with
  | "vpc-id" => helpOr [] words fun g => if g.arguments.isEmpty then some .vpcId else none
  | "subnets" => helpOr [schemeRule, jsonRule] words fun g => do
    let scheme ← schemeOf g
    if g.arguments.isEmpty then some (.subnets scheme (g.has "json")) else none
  | "subnets-by-name" => helpOr [jsonRule] words (named .subnetsByName)
  | "security-groups" => helpOr [jsonRule] words (named .securityGroups)
  | "node-health" => helpOr [] words fun g =>
    match g.arguments with
    | [id] => some (.nodeHealth id)
    | _ => none
  | "status" => helpOr [] words fun g => if g.arguments.isEmpty then some .status else none
  | _ => none

namespace Invocation

/-- The first of the requests for the version and for help. -/
def information? (given : Given) : Option Invocation :=
  given.options.findSome? fun o =>
    if o.1 == "version" then some version else if o.1 == "help" then some help else none

/-- What a command and the words after it come to, by the options before it. -/
def ofCommand (given : Given) (name : String) (words : List String) : Option Invocation := do
  match ← command name words with
  | none => return help
  | some c =>
    return run ⟨given.value? "region", given.value? "vpc-id", given.value? "cluster",
      given.has "verbose"⟩ c

/-- Reads a command line; nothing if its words do not fit. Where no command has the name, the words
from there on are read once more for a request for information. -/
def ofWords (words : List String) : Option Invocation := do
  let given ← mainGrammar.read words
  match information? given, given.arguments with
  | some invocation, _ => return invocation
  | none, [] => none
  | none, name :: rest =>
    if commandNames.contains name then ofCommand given name rest
    else information? (← mainGrammar.read (name :: rest))

end Invocation

end NetLookup.CommandLine
