import NetLookup.Json.Literal
import NetLookup.Text.Width

/-! # Values in lines

A list or an object that does not fit into a line stands between lines with its brackets, one element a
line, further in. -/

namespace NetLookup.Json

def lineWidth : Nat := 80

def indentStep : Nat := 4

/-- A line that starts `indent` columns further in. -/
def indented (indent : Nat) (line : String) : String :=
  String.ofList (List.replicate indent ' ') ++ line

/-- Whether a value fits into a line. An element leaves room for a comma and a blank, also if it is the
last one. -/
def fits (indent : Nat) (line : String) : Bool :=
  let room := if indent = 0 then 0 else ", ".length
  indent + Text.columns line.toList + room ≤ lineWidth

/-- Lines between brackets. -/
def block (indent : Nat) (opening closing : String) (lines : List String) : List String :=
  indented indent opening :: lines ++ [indented indent closing]

mutual

/-- The lines of a value between what stands before it and after it. -/
def layout (indent : Nat) (before after : String) : Json → List String
  | arr items =>
    let line := before ++ literal (arr items)
    if items.isEmpty || fits indent line then [indented indent (line ++ after)]
    else block indent (before ++ "[") ("]" ++ after) (layoutItems (indent + indentStep) items)
  | obj fields =>
    let line := before ++ literal (obj fields)
    if fields.isEmpty || fits indent line then [indented indent (line ++ after)]
    else block indent (before ++ "\x7b") ("\x7d" ++ after) (layoutFields (indent + indentStep) fields)
  | v => [indented indent (before ++ literal v ++ after)]

/-- A comma follows all elements but the last. -/
def layoutItems (indent : Nat) : List Json → List String
  | [] => []
  | v :: vs => layout indent "" (if vs.isEmpty then "" else ",") v ++ layoutItems indent vs

def layoutFields (indent : Nat) : List (String × Json) → List String
  | [] => []
  | (k, v) :: fs =>
    layout indent (Text.quoted k ++ ": ") (if fs.isEmpty then "" else ",") v
      ++ layoutFields indent fs

end

/-- A value over as many lines as it needs. -/
def displayLines (v : Json) : String := "\n".intercalate (layout 0 "" "" v)

end NetLookup.Json
