import NetLookup.Text.Ranges

/-! # Blanks and the words between them -/

namespace NetLookup.Text

/-- Spaces of all widths, tabs, ends of lines, and the four separators of ASCII. -/
def blanks : Ranges :=
  [(0x9, 0xd), (0x1c, 0x20), (0x85, 0x85), (0xa0, 0xa0), (0x1680, 0x1680), (0x2000, 0x200a),
    (0x2028, 0x2029), (0x202f, 0x202f), (0x205f, 0x205f), (0x3000, 0x3000)]

def isBlank (c : Char) : Bool := blanks.holds c

/-- A text without the blanks at both ends. -/
def trim (cs : List Char) : List Char :=
  ((cs.dropWhile isBlank).reverse.dropWhile isBlank).reverse

/-- Puts a character before the first of the words that are open to it. -/
def beforeWords (c : Char) (open_ : List Char × List (List Char)) : List Char × List (List Char) :=
  if isBlank c then ([], if open_.1.isEmpty then open_.2 else open_.1 :: open_.2)
  else (c :: open_.1, open_.2)

/-- The runs of characters that are no blanks. -/
def words (cs : List Char) : List (List Char) :=
  let (word, rest) := cs.foldr beforeWords ([], [])
  if word.isEmpty then rest else word :: rest

end NetLookup.Text
