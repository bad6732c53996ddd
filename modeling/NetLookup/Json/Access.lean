import NetLookup.Failure

/-! # Taking values apart

Every access says what it does to a value of the wrong kind. -/

namespace NetLookup.Json

/-- The field of an object, which may be missing. -/
def field? (v : Json) (name : String) : Except Failure (Option Json) :=
  match v with
  | obj fields => .ok (fields.lookup name)
  | _ => .error (.fault .noMember)

/-- The field of an object; a missing one reads as the default, a null one as null. -/
def fieldD (v : Json) (name : String) (default : Json) : Except Failure Json :=
  return (← v.field? name).getD default

/-- The text of a missing field. -/
def empty : Json := .str ""

def fieldOrEmpty (v : Json) (name : String) : Except Failure Json := v.fieldD name empty

/-- The parts of a value in order: items of a list, characters of a text, names of an object. -/
def elements : Json → Except Failure (List Json)
  | arr items => .ok items
  | str s => .ok (s.toList.map fun c => .str c.toString)
  | obj fields => .ok (fields.map fun f => .str f.1)
  | _ => .error (.fault .wrongType)

/-- The number of parts. -/
def size (v : Json) : Except Failure Nat := return (← v.elements).length

/-- The first part; an object has no first one, it would need a field of that name. -/
def first : Json → Except Failure Json
  | arr (v :: _) => .ok v
  | str s => .ok (.str (String.ofList (s.toList.take 1)))
  | arr [] | obj _ => .error (.fault (.noEntry "0"))
  | _ => .error (.fault .wrongType)

@[simp] theorem field?_obj (fields : Fields) (name : String) :
    (obj fields).field? name = .ok (fields.lookup name) := rfl

@[simp] theorem fieldD_obj (fields : Fields) (name : String) (default : Json) :
    (obj fields).fieldD name default = .ok ((fields.lookup name).getD default) := rfl

@[simp] theorem elements_arr (items : List Json) : (arr items).elements = .ok items := rfl

@[simp] theorem size_arr (items : List Json) : (arr items).size = .ok items.length := rfl

end NetLookup.Json
