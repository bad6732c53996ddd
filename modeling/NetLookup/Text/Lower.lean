import NetLookup.Text.Lower.Context
import NetLookup.Text.Lower.Runs

/-! # Small letters

Every letter has its own small letter but two: the sigma has another one at the end of a word, and the
capital I with a dot keeps the dot. -/

namespace NetLookup.Text

def Run.holds (r : Run) (n : Nat) : Bool := r.1 ≤ n && n ≤ r.2.1 && (n - r.1) % r.2.2.1 == 0

/-- The small letter of a letter that stands alone. -/
def lowerChar (c : Char) : Char :=
  match lowered.find? fun r => Run.holds r c.toNat with
  | some r => Char.ofNat (c.toNat + r.2.2.2).toNat
  | none => c

/-- Whether the nearest neighbour, the first of the list, is a letter. -/
def besideLetter (neighbours : List Char) : Bool :=
  match neighbours.dropWhile ignorable.holds with
  | [] => false
  | c :: _ => cased.holds c

/-- The small letters of a character between others, of which those before it come last first. -/
def lowerBetween (before : List Char) (c : Char) (after : List Char) : List Char :=
  if c = 'Σ' then [if besideLetter before && !besideLetter after then 'ς' else 'σ']
  else if c = 'İ' then ['i', '\u0307']
  else [lowerChar c]

def lowerAfter (before : List Char) : List Char → List Char
  | [] => []
  | c :: cs => lowerBetween before c cs ++ lowerAfter (c :: before) cs

/-- A text in small letters. -/
def lower (cs : List Char) : List Char := lowerAfter [] cs

end NetLookup.Text
