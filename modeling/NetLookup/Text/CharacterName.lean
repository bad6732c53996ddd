import NetLookup.Text.Blank
import NetLookup.Text.CharacterName.A
import NetLookup.Text.CharacterName.B
import NetLookup.Text.CharacterName.C
import NetLookup.Text.CharacterName.DToF
import NetLookup.Text.CharacterName.GToJ
import NetLookup.Text.CharacterName.KToL
import NetLookup.Text.CharacterName.MToN
import NetLookup.Text.CharacterName.OToR
import NetLookup.Text.CharacterName.S
import NetLookup.Text.CharacterName.T
import NetLookup.Text.CharacterName.UToZ
import NetLookup.Text.Hex

/-! # Names of characters

An ideograph has its number in its name, a Korean syllable its letters. All other names are in tables,
in which a name does not repeat the words that it begins with like the name before it. -/

namespace NetLookup.Text.CharacterName

/-! ## Ideographs -/

def ideographs : Ranges :=
  [(0x3400, 0x4dbf), (0x4e00, 0x9fff), (0x20000, 0x2a6df), (0x2a700, 0x2b738), (0x2b740, 0x2b81d),
    (0x2b820, 0x2cea1), (0x2ceb0, 0x2ebe0), (0x30000, 0x3134a)]

def ideographStart : List Char := "CJK UNIFIED IDEOGRAPH-".toList

def isCapitalHexDigit (c : Char) : Bool := c.isDigit || ('A' ≤ c && c ≤ 'F')

/-- The number has four digits or five. -/
def isIdeograph (name : List Char) : Bool :=
  let number := name.drop ideographStart.length
  ideographStart.isPrefixOf name && (number.length == 4 || number.length == 5)
    && number.all isCapitalHexDigit && ideographs.holds (Char.ofNat (hexValue number))

/-! ## Syllables -/

def syllableStart : List Char := "HANGUL SYLLABLE ".toList

/-- The consonants that a syllable may begin with, if it does not begin with its vowel. -/
def leading : List (List Char) := words "G GG N D DD R M B BB S SS J JJ C K T P H".toList

def vowels : List (List Char) :=
  words "A AE YA YAE EO E YEO YE O WA WAE OE YO U WEO WE WI YU EU YI I".toList

/-- The consonants that a syllable may end with, if it does not end with its vowel. -/
def trailing : List (List Char) :=
  words "G GG GS N NJ NH D L LG LM LB LS LT LP LH M B BS S SS NG J C K T P H".toList

def isVowelLetter (c : Char) : Bool := "AEIOUWY".toList.contains c

def isSyllable (name : List Char) : Bool :=
  let letters := name.drop syllableStart.length
  let first := letters.takeWhile (!isVowelLetter ·)
  let rest := letters.dropWhile (!isVowelLetter ·)
  let last := rest.dropWhile isVowelLetter
  syllableStart.isPrefixOf name && (first.isEmpty || leading.contains first)
    && vowels.contains (rest.takeWhile isVowelLetter) && (last.isEmpty || trailing.contains last)

/-! ## Tables -/

/-- A table for each letter that names begin with. -/
def tables : List (Char × String) :=
  [('A', aNames), ('B', bNames), ('C', cNames), ('D', dNames), ('E', eNames), ('F', fNames),
    ('G', gNames), ('H', hNames), ('I', iNames), ('J', jNames), ('K', kNames), ('L', lNames),
    ('M', mNames), ('N', nNames), ('O', oNames), ('P', pNames), ('Q', qNames), ('R', rNames),
    ('S', sNames), ('T', tNames), ('U', uNames), ('V', vNames), ('W', wNames), ('X', xNames),
    ('Y', yNames), ('Z', zNames)]

/-- A name as its words. -/
abbrev Words := List (List Char)

/-- How many words a name takes from the one before it; `a` means none. -/
def shared (mark : Char) : Nat := mark.toNat - 'a'.toNat

/-- The name that has been read so far and those after it. A word behind a small letter begins a new
name. -/
def namesFrom (current : Words) : Words → List Words
  | [] => [current]
  | [] :: rest => namesFrom current rest
  | (c :: word) :: rest =>
    if c.isLower then current :: namesFrom (current.take (shared c) ++ [word]) rest
    else namesFrom (current ++ [c :: word]) rest

/-- The names of a table. No name stands before the first one. -/
def names (table : String) : List Words := (namesFrom [] (words table.toList)).drop 1

/-- Words of a name have one blank between them. -/
def isListed (name : List Char) : Bool :=
  let parts := words name
  [' '].intercalate parts == name
    && (name.head?.bind (List.lookup · tables)).any fun table => (names table).contains parts

end CharacterName

/-- Whether a text is the name of a character. Names in tables may be written in small letters. -/
def isCharacterName (name : List Char) : Bool :=
  CharacterName.isIdeograph name || CharacterName.isSyllable name
    || CharacterName.isListed (name.map Char.toUpper)

end NetLookup.Text
