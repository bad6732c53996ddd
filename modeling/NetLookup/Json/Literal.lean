import NetLookup.Json
import NetLookup.Text.Quoted

/-! # Values as messages show them -/

namespace NetLookup.Json

def joined (parts : List String) : String := ", ".intercalate parts

mutual

/-- A value inside another one or inside a request: its texts are quoted. -/
def literal : Json → String
  | null => "None"
  | bool true => "True"
  | bool false => "False"
  | num n => toString n
  | frac x => x.text
  | str s => Text.quoted s
  | arr items => "[" ++ joined (literals items) ++ "]"
  | obj fields => "\x7b" ++ joined (fieldLiterals fields) ++ "\x7d"
  | resource written _ => written

def literals : List Json → List String
  | [] => []
  | v :: vs => literal v :: literals vs

def fieldLiterals : List (String × Json) → List String
  | [] => []
  | (k, v) :: fs => (Text.quoted k ++ ": " ++ literal v) :: fieldLiterals fs

end

/-- A value on its own: a text stands as it is. -/
def display : Json → String
  | str s => s
  | v => literal v

@[simp] theorem display_str (s : String) : display (str s) = s := rfl

@[simp] theorem literals_eq_map (vs : List Json) : literals vs = vs.map literal := by
  induction vs with
  | nil => rfl
  | cons v vs ih => simp [literals, ih]

end NetLookup.Json
