import NetLookup.CommandLine.Run

/-! # Words for options and commands

Any choice of the options before the command can be said in words, the empty text among its values, and
they are read as that choice. The words after them name an operation, with its arguments. -/

namespace NetLookup.CommandLine

def optionWords (name : String) : Option String → List String
  | none => []
  | some value => ["--" ++ name, value]

def optionGiven (name : String) : Option String → List (String × String)
  | none => []
  | some value => [(name, value)]

def flagWords (name : String) (given : Bool) : List String := if given then ["--" ++ name] else []

def flagGiven (name : String) (given : Bool) : List (String × String) := if given then [(name, "")] else []

namespace Overrides

def words (o : Overrides) : List String :=
  optionWords "region" o.region ++ optionWords "vpc-id" o.vpcId ++ optionWords "cluster" o.cluster
    ++ flagWords "verbose" o.verbose

def given (o : Overrides) : List (String × String) :=
  optionGiven "region" o.region ++ optionGiven "vpc-id" o.vpcId ++ optionGiven "cluster" o.cluster
    ++ flagGiven "verbose" o.verbose

end Overrides

/-! ## Reading them -/

namespace Grammar

end Grammar

namespace Grammar

end Grammar

theorem of_named {make : List String → Bool → Command} {g : Given} {c : Command} (h : named make g = some c) :
    ∃ names json, names ≠ [] ∧ c = make names json := by
  unfold named at h
  split at h
  · cases h
  · rename_i hnames
    exact ⟨_, _, fun hnone => hnames (List.isEmpty_iff.2 hnone), (Option.some.inj h).symm⟩

namespace Grammar

end Grammar

end NetLookup.CommandLine
