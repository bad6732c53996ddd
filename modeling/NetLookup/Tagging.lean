import NetLookup.Json.Access

/-! # Tags -/

namespace NetLookup

/-- Tags in the order of the answer. A key may occur more than once. -/
abbrev Tags := List (Json × Json)

namespace Tags

def pairOf (tag : Json) : Except Failure (Json × Json) := do
  return (← tag.fieldOrEmpty "Key", ← tag.fieldOrEmpty "Value")

/-- The tags of a list of objects with a key and a value each; what does not count as present has
no tags. -/
def ofJson (raw : Json) : Except Failure Tags :=
  if raw.truthy then do (← raw.elements).mapM pairOf else .ok []

/-- The value of the first tag with a key. -/
def value? (tags : Tags) (key : Json) : Option Json :=
  (tags.find? fun t => t.1.same key).map (·.2)

def nameKey : Json := .str "Name"

/-- The value of the first tag named `Name`; a null one is no name. -/
def name? (tags : Tags) : Option Json :=
  match tags.value? nameKey with
  | some .null => none
  | found => found

def hasKey (tags : Tags) (key : String) : Bool := tags.any fun t => t.1.same (.str key)

def toJson (tags : Tags) : Json := .arr (tags.map fun t => .arr [t.1, t.2])

/-- A tag as messages write it. -/
def writtenPair (tag : Json × Json) : String :=
  "(" ++ tag.1.literal ++ ", " ++ tag.2.literal ++ ")"

/-- Tags as messages write them. A comma follows a tag that stands alone. -/
def written : Tags → String
  | [tag] => "(" ++ writtenPair tag ++ ",)"
  | tags => "(" ++ Json.joined (tags.map writtenPair) ++ ")"

end Tags

end NetLookup
