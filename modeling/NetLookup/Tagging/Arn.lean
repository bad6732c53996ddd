/-! # Resource names

A name has six parts with colons between them; only the sixth may hold colons itself. That part is a
path: its first segment is the type of the resource, its last one the id. -/

namespace NetLookup.Arn

/-- What follows the `n`-th colon, or the last one if there are fewer. -/
def afterColons : Nat → List Char → List Char
  | 0, cs => cs
  | n + 1, cs =>
    match cs.dropWhile (· != ':') with
    | [] => cs
    | _ :: rest => afterColons n rest

def resourcePart (arn : String) : List Char := afterColons 5 arn.toList

/-- The first segment of a path. -/
def firstSegment (cs : List Char) : List Char := cs.takeWhile (· != '/')

/-- The last segment of a path. -/
def lastSegment (cs : List Char) : List Char := (cs.reverse.takeWhile (· != '/')).reverse

def resourceId (arn : String) : String := String.ofList (lastSegment arn.toList)

def resourceType (arn : String) : String := String.ofList (firstSegment (resourcePart arn))

theorem slash_notMem_firstSegment (cs : List Char) : '/' ∉ firstSegment cs := by
  intro h
  simpa using List.all_eq_true.1 List.all_takeWhile _ h

end NetLookup.Arn
