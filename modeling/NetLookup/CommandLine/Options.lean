/-! # Words of a command line

A word is a value that an option waits for, an option, or an argument. Two dashes end the options; where
options have to come first, so does the first argument. -/

namespace NetLookup.CommandLine

/-- An option with a long name, and perhaps a letter. -/
structure OptionRule where
  name : String
  letter : Option Char := none
  takesValue : Bool := false

structure Grammar where
  options : List OptionRule
  /-- Whether options may follow arguments. -/
  mixed : Bool

/-- What a command line gave so far. -/
structure Given where
  /-- Options by their long names, in order. -/
  options : List (String × String) := []
  arguments : List String := []
  /-- The option that the next word is the value of. -/
  waiting : Option String := none
  /-- No more options are expected. -/
  ended : Bool := false

namespace Given

def option (g : Given) (name value : String) : Given :=
  { g with options := g.options ++ [(name, value)], waiting := none }

def argument (g : Given) (word : String) : Given :=
  { g with arguments := g.arguments ++ [word] }

/-- The value of an option; of several the last one. -/
def value? (g : Given) (name : String) : Option String := g.options.reverse.lookup name

def has (g : Given) (name : String) : Bool := g.options.any (·.1 == name)

end Given

namespace Grammar

/-! ## Options -/

def byName (r : Grammar) (name : String) : Option OptionRule := r.options.find? (·.name == name)

def byLetter (r : Grammar) (c : Char) : Option OptionRule := r.options.find? (·.letter == some c)

/-- A long option; its value may follow after an equals sign. -/
def long (r : Grammar) (g : Given) (name : List Char) : Option Given := do
  let rule ← r.byName (String.ofList (name.takeWhile (· != '=')))
  match name.dropWhile (· != '='), rule.takesValue with
  | [], true => return { g with waiting := some rule.name }
  | [], false => return g.option rule.name ""
  | _ :: value, true => return g.option rule.name (String.ofList value)
  | _ :: _, false => none

/-- Options by their letters; what follows a letter with a value is the value. -/
def short (r : Grammar) : Given → List Char → Option Given
  | g, [] => some g
  | g, c :: cs => do
    let rule ← r.byLetter c
    if rule.takesValue then
      match cs with
      | [] => return { g with waiting := some rule.name }
      | value => return g.option rule.name (String.ofList value)
    else r.short (g.option rule.name "") cs

/-! ## Words -/

/-- A word where an option may stand. A dash alone is an argument. -/
def free (r : Grammar) (g : Given) (word : String) : Option Given :=
  match word.toList with
  | ['-', '-'] => some { g with ended := true }
  | '-' :: '-' :: name => r.long g name
  | '-' :: c :: cs => r.short g (c :: cs)
  | _ => some { g.argument word with ended := !r.mixed }

def step (r : Grammar) (g : Given) (word : String) : Option Given :=
  match g.waiting with
  | some name => some (g.option name word)
  | none => if g.ended then some (g.argument word) else r.free g word

/-- Reads all words; the last one must not leave an option waiting. -/
def read (r : Grammar) (words : List String) : Option Given := do
  let g ← words.foldlM r.step {}
  if g.waiting.isSome then none else some g

end Grammar

end NetLookup.CommandLine
