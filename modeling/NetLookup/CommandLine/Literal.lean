import NetLookup.Text.CharacterName

/-! # Literals

A literal is a number, a quoted text, one of a few words, or a collection of literals: a row in
parentheses, or a set or a table in braces. Here it is only told whether a text is one. -/

namespace NetLookup.CommandLine.Literal

/-- What kind of a literal stands somewhere, as far as others depend on it. -/
inductive Kind where
  | real
  | imaginary
  /-- A real number with a sign. -/
  | signedReal
  /-- Any other literal that may be an element of a set or a key of a table. -/
  | fixed
  /-- A set or a table, or a row that holds one. -/
  | changing
  /-- The word that parentheses make the empty set. -/
  | setWord
  deriving DecidableEq

namespace Kind

def isKey (k : Kind) : Bool := k != changing && k != setWord

def isValue (k : Kind) : Bool := k != setWord

/-- A number behind a sign. -/
def signed? : Kind → Option Kind
  | real => some signedReal
  | imaginary => some fixed
  | _ => none

/-- Two numbers on both sides of a sign: an imaginary one is added to a real one. -/
def sum? : Kind → Kind → Option Kind
  | real, imaginary | signedReal, imaginary => some fixed
  | _, _ => none

end Kind

/-! ## Blanks -/

/-- How much of a text is passed over between two parts. -/
inductive Gap where
  /-- Blanks within a line. -/
  | line
  /-- Ends of lines as well, as within brackets. -/
  | lines
  deriving DecidableEq

def skipComment (cs : List Char) : List Char := cs.dropWhile (· != '\n')

/-- What follows the blanks and comments at the start. A backslash hides the end of its line. The
first number bounds the steps. -/
def skip (gap : Gap) : Nat → List Char → List Char
  | 0, cs => cs
  | n + 1, ' ' :: cs | n + 1, '\t' :: cs | n + 1, '\x0c' :: cs => skip gap n cs
  | n + 1, '\\' :: '\n' :: cs => skip gap n cs
  | n + 1, '#' :: cs => skip gap n (skipComment cs)
  | n + 1, '\n' :: cs => if gap = .lines then skip gap n cs else '\n' :: cs
  | _ + 1, cs => cs

def after (gap : Gap) (cs : List Char) : List Char := skip gap cs.length cs

/-! ## Numbers -/

def isNameChar (c : Char) : Bool := c.isAlphanum || c == '_' || 0x80 ≤ c.toNat

/-- Nothing that could belong to a name follows a number. -/
def endsNumber : List Char → Bool
  | c :: _ => !isNameChar c
  | [] => true

/-- Digits, between two of which an underscore may stand. -/
def digits (isDigit : Char → Bool) : List Char → Option (List Char × List Char)
  | c :: '_' :: cs =>
    if !isDigit c then none
    else match digits isDigit cs with
      | some (ds, rest) => some (c :: ds, rest)
      | none => some ([c], '_' :: cs)
  | c :: cs =>
    if !isDigit c then none
    else match digits isDigit cs with
      | some (ds, rest) => some (c :: ds, rest)
      | none => some ([c], cs)
  | [] => none

def isBinaryDigit (c : Char) : Bool := c == '0' || c == '1'

def isOctalDigit (c : Char) : Bool := '0' ≤ c && c ≤ '7'

/-- The digits of a number that begins with zero and a letter. -/
def digitsOf? : Char → Option (Char → Bool)
  | 'x' | 'X' => some Text.isHexDigit
  | 'o' | 'O' => some isOctalDigit
  | 'b' | 'B' => some isBinaryDigit
  | _ => none

def radixNumber (isDigit : Char → Bool) (cs : List Char) : Option (Kind × List Char) :=
  let cs := match cs with
    | '_' :: cs => cs
    | cs => cs
  match digits isDigit cs with
  | some (_, rest) => if endsNumber rest then some (.real, rest) else none
  | none => none

def mostDigits : Nat := 4300

/-- A whole number has no zeros in front, unless it is zero, which may have any number of them. -/
def isWhole (ds : List Char) : Bool :=
  ds.all (· == '0') || (ds.length ≤ mostDigits && ds.head? != some '0')

/-- What follows an exponent at the start, if there is one. -/
def afterExponent : List Char → Option (List Char)
  | 'e' :: '+' :: cs | 'e' :: '-' :: cs | 'E' :: '+' :: cs | 'E' :: '-' :: cs
  | 'e' :: cs | 'E' :: cs => (digits Char.isDigit cs).map (·.2)
  | _ => none

/-- What follows a point and the digits after it. -/
def afterFraction : List Char → Option (List Char)
  | '.' :: cs =>
    match digits Char.isDigit cs with
    | some (_, rest) => some rest
    | none => some cs
  | _ => none

def decimalNumber (cs : List Char) : Option (Kind × List Char) :=
  let (whole, rest) := (digits Char.isDigit cs).getD ([], cs)
  let fraction := afterFraction rest
  let rest' := fraction.getD rest
  let exponent := afterExponent rest'
  let rest'' := exponent.getD rest'
  let proper := !whole.isEmpty || (rest.drop 1).head?.any Char.isDigit
  match rest'' with
  | 'j' :: cs | 'J' :: cs => if proper && endsNumber cs then some (.imaginary, cs) else none
  | cs =>
    let allowed := fraction.isSome || exponent.isSome || isWhole whole
    if proper && allowed && endsNumber cs then some (.real, cs) else none

def number : List Char → Option (Kind × List Char)
  | '0' :: c :: cs =>
    match digitsOf? c with
    | some isDigit => radixNumber isDigit cs
    | none => decimalNumber ('0' :: c :: cs)
  | cs => decimalNumber cs

/-! ## Quoted texts -/

/-- How a quoted text is written. -/
structure Quoting where
  /-- Whether backslashes stand for themselves. -/
  raw : Bool := false
  /-- Whether it holds bytes rather than characters. -/
  bytes : Bool := false

/-- The letters before a quote. -/
def Quoting.ofLetters (letters : List Char) : Option Quoting :=
  match letters.map Char.toLower with
  | [] | ['u'] => some {}
  | ['r'] => some { raw := true }
  | ['b'] => some { bytes := true }
  | ['b', 'r'] | ['r', 'b'] => some { raw := true, bytes := true }
  | _ => none

def isQuote (c : Char) : Bool := c == '\x22' || c == '\x27'

/-- The digits in base sixteen that follow a backslash and a letter. -/
def escapeDigits? (q : Quoting) : Char → Option Nat
  | 'x' => some 2
  | 'u' => if q.bytes then none else some 4
  | 'U' => if q.bytes then none else some 8
  | _ => none

def highestCharacter : Nat := 0x10ffff

/-- What follows the name of a character in braces. -/
def afterName : List Char → Option (List Char)
  | '\x7b' :: cs =>
    match cs.dropWhile (· != '\x7d') with
    | _ :: rest => if Text.isCharacterName (cs.takeWhile (· != '\x7d')) then some rest else none
    | [] => none
  | _ => none

/-- What follows an escape whose backslash and letter are read; an escape may be malformed. -/
def afterEscape (q : Quoting) (c : Char) (cs : List Char) : Option (List Char) :=
  match escapeDigits? q c with
  | some n =>
    let code := cs.take n
    if code.length = n && code.all Text.isHexDigit && Text.hexValue code ≤ highestCharacter then
      some (cs.drop n)
    else none
  | none =>
    if c = 'N' && !q.bytes then afterName cs else some cs

/-- What follows a quoted text whose opening quotes are read. -/
def quotedRest (q : Quoting) (closing : List Char) : Nat → List Char → Option (List Char)
  | 0, _ => none
  | n + 1, cs =>
    if closing.isPrefixOf cs then some (cs.drop closing.length)
    else match cs with
      | [] => none
      | '\\' :: c :: cs =>
        if q.bytes && 0x80 ≤ c.toNat then none
        else if q.raw then quotedRest q closing n cs
        else (afterEscape q c cs).bind (quotedRest q closing n)
      | c :: cs =>
        if (q.bytes && 0x80 ≤ c.toNat) || (c = '\n' && closing.length = 1) then none
        else quotedRest q closing n cs

/-- A quoted text with the letters before it, and whether it holds bytes. -/
def quoted? (cs : List Char) : Option (Bool × List Char) :=
  match cs.dropWhile Char.isAlpha with
  | quote :: rest => do
    if !isQuote quote then none
    let q ← Quoting.ofLetters (cs.takeWhile Char.isAlpha)
    let body := match rest with
      | a :: b :: more => if a = quote && b = quote then some more else none
      | _ => none
    match body with
    | some more => return (q.bytes, ← quotedRest q [quote, quote, quote] (more.length + 1) more)
    | none => return (q.bytes, ← quotedRest q [quote] (rest.length + 1) rest)
  | [] => none

def startsQuoted (cs : List Char) : Bool := (cs.dropWhile Char.isAlpha).head?.any isQuote

/-- Texts one after another are one text; all hold bytes or none does. -/
def quotedTexts (gap : Gap) : Nat → List Char → Option (Bool × List Char)
  | 0, _ => none
  | n + 1, cs => do
    let (bytes, rest) ← quoted? cs
    let next := after gap rest
    if startsQuoted next then
      let (others, rest) ← quotedTexts gap n next
      if bytes == others then return (bytes, rest) else none
    else return (bytes, rest)

/-! ## Depth

At most 200 brackets are open at once. Besides, steps lead to an element of a literal, more or fewer by
where it stands in its brackets, and there are no more than 6000 of them. An element is looked for
after each opening bracket and after each comma, whether there is one or not. -/

/-- Where a literal stands. -/
structure Place where
  /-- The brackets that are open. -/
  brackets : Nat
  /-- The steps that lead here. -/
  steps : Nat

namespace Place

def mostBrackets : Nat := 200

def mostSteps : Nat := 6000

/-- The place of the first literal of a text. -/
def first : Place := ⟨0, 25⟩

/-- The place of the literals after a comma outside of all brackets. -/
def next : Place := ⟨0, 27⟩

/-- A place some steps further, if there are that many. -/
def further? (p : Place) (steps : Nat) : Option Place :=
  if p.steps + steps ≤ mostSteps then some { p with steps := p.steps + steps } else none

/-- A place behind one more bracket. -/
def opened? (p : Place) : Option Place :=
  if p.brackets < mostBrackets then some { p with brackets := p.brackets + 1 } else none

/-- The place of an element of a row by the number of elements before it. -/
def inRow? (p : Place) : Nat → Option Place
  | 0 => p.further? 28
  | 1 => p.further? 30
  | _ => p.further? 31

/-- The place of the first element in braces. -/
def inBraces? (p : Place) : Option Place := p.further? 29

/-- The place of a later element in braces. -/
def laterInBraces? (p : Place) : Option Place := p.further? 30

def signed? (p : Place) : Option Place := p.further? 1

def text? (p : Place) : Option Place := p.further? 2

/-- The place in the parentheses behind a word. -/
def called? (p : Place) : Option Place := do (← p.opened?).further? 24

def gap (p : Place) : Gap := if p.brackets = 0 then .line else .lines

end Place

/-! ## Literals -/

/-- The kind of a row by the kinds of its elements. -/
def rowKind (ks : List Kind) : Kind := if ks.all Kind.isKey then .fixed else .changing

def emptyParentheses? (gap : Gap) (cs : List Char) : Option (List Char) :=
  match after gap cs with
  | '(' :: cs =>
    match after .lines cs with
    | ')' :: cs => some cs
    | _ => none
  | _ => none

/-- The word for the empty set needs its parentheses. -/
def completed (place : Place) : Kind × List Char → Kind × List Char
  | (.setWord, cs) =>
    match place.called?, emptyParentheses? place.gap cs with
    | some _, some rest => (.changing, rest)
    | _, _ => (.setWord, cs)
  | found => found

/-! ### Words

A letter of the word for the empty set may have another form: long, raised, lowered, wide, or of one of
the alphabets of mathematics. The other words have their plain letters alone. -/

def formsOfS : List Nat :=
  [0x73, 0x17f, 0x2e2, 0x209b, 0xff53, 0x1d42c, 0x1d460, 0x1d494, 0x1d4c8, 0x1d4fc, 0x1d530,
    0x1d564, 0x1d598, 0x1d5cc, 0x1d600, 0x1d634, 0x1d668, 0x1d69c]

def formsOfE : List Nat :=
  [0x65, 0x1d49, 0x2091, 0x212f, 0x2147, 0xff45, 0x1d41e, 0x1d452, 0x1d486, 0x1d4ee, 0x1d522,
    0x1d556, 0x1d58a, 0x1d5be, 0x1d5f2, 0x1d626, 0x1d65a, 0x1d68e]

def formsOfT : List Nat :=
  [0x74, 0x1d57, 0x209c, 0xff54, 0x1d42d, 0x1d461, 0x1d495, 0x1d4c9, 0x1d4fd, 0x1d531, 0x1d565,
    0x1d599, 0x1d5cd, 0x1d601, 0x1d635, 0x1d669, 0x1d69d]

def isSetWord : List Char → Bool
  | [s, e, t] =>
    formsOfS.contains s.toNat && formsOfE.contains e.toNat && formsOfT.contains t.toNat
  | _ => false

def wordKind? (name : List Char) : Option Kind :=
  if ["True", "False", "None"].contains (String.ofList name) then some .fixed
  else if isSetWord name then some .setWord
  else none

def word? (cs : List Char) : Option (Kind × List Char) :=
  (wordKind? (cs.takeWhile isNameChar)).map (·, cs.dropWhile isNameChar)

def startsNumber : List Char → Bool
  | '.' :: c :: _ => c.isDigit
  | c :: _ => c.isDigit
  | [] => false

mutual

/-- A number, a sum of two, or another literal. The number bounds the steps. -/
def value : Nat → Place → List Char → Option (Kind × List Char)
  | 0, _, _ => none
  | n + 1, place, cs => do
    let (k, rest) ← factor n place cs
    match after place.gap rest with
    | '+' :: cs | '-' :: cs =>
      let (k', rest) ← factor n place (after place.gap cs)
      return (← k.sum? k', rest)
    | _ => return (k, rest)

/-- A literal without a sign between its parts. -/
def factor : Nat → Place → List Char → Option (Kind × List Char)
  | 0, _, _ => none
  | n + 1, place, cs =>
    match cs with
    | '+' :: cs | '-' :: cs => do
      let (k, rest) ← factor n (← place.signed?) (after place.gap cs)
      return (← k.signed?, rest)
    | '(' :: cs => do
      return completed place (← row n (← place.opened?) [] (after .lines cs))
    | '\x7b' :: cs => do braces n (← place.opened?) (after .lines cs)
    | '.' :: '.' :: '.' :: cs => some (.fixed, cs)
    | cs =>
      if startsNumber cs then number cs
      else if startsQuoted cs then do
        let _ ← place.text?
        let (_, rest) ← quotedTexts place.gap (cs.length + 1) cs
        return (.fixed, rest)
      else (word? cs).map (completed place)

/-- The rest of a row in parentheses; one literal without a comma is just itself. -/
def row : Nat → Place → List Kind → List Char → Option (Kind × List Char)
  | 0, _, _, _ => none
  | n + 1, place, ks, cs => do
    let element ← place.inRow? ks.length
    match cs with
    | ')' :: cs => return (rowKind ks, cs)
    | cs =>
      let (k, rest) ← value n element cs
      match after .lines rest with
      | ',' :: cs => if k.isValue then row n place (k :: ks) (after .lines cs) else none
      | ')' :: cs =>
        if ks.isEmpty then return (k, cs)
        else if k.isValue then return (rowKind (k :: ks), cs) else none
      | _ => none

/-- The rest of a set or a table. -/
def braces : Nat → Place → List Char → Option (Kind × List Char)
  | 0, _, _ => none
  | n + 1, place, cs => do
    let element ← place.inBraces?
    match cs with
    | '\x7d' :: cs => return (.changing, cs)
    | cs =>
      let (k, rest) ← value n element cs
      if !k.isKey then none
      match after .lines rest with
      | ':' :: cs => tableFrom n place element (after .lines cs)
      | rest => setFrom n place rest

/-- The rest of a set after an element. -/
def setFrom : Nat → Place → List Char → Option (Kind × List Char)
  | 0, _, _ => none
  | n + 1, place, cs =>
    match cs with
    | '\x7d' :: cs => some (.changing, cs)
    | ',' :: cs => do
      let element ← place.laterInBraces?
      match after .lines cs with
      | '\x7d' :: cs => return (.changing, cs)
      | cs =>
        let (k, rest) ← value n element cs
        if !k.isKey then none
        setFrom n place (after .lines rest)
    | _ => none

/-- The rest of a table after a key, which stands where its value does. -/
def tableFrom : Nat → Place → Place → List Char → Option (Kind × List Char)
  | 0, _, _, _ => none
  | n + 1, place, element, cs => do
    let (v, rest) ← value n element cs
    if !v.isValue then none
    match after .lines rest with
    | '\x7d' :: cs => return (.changing, cs)
    | ',' :: cs =>
      let element ← place.laterInBraces?
      match after .lines cs with
      | '\x7d' :: cs => return (.changing, cs)
      | cs =>
        let (k, rest) ← value n element cs
        if !k.isKey then none
        match after .lines rest with
        | ':' :: cs => tableFrom n place element (after .lines cs)
        | _ => none
    | _ => none

end

/-- Literals between commas at the end of a text, the last of which may be followed by one. -/
def bareRow : Nat → Place → List Char → Bool
  | 0, _, _ => false
  | n + 1, place, cs =>
    match value (4 * cs.length + 4) place cs with
    | none => false
    | some (k, rest) =>
      k.isValue &&
        match after .line rest with
        | [] => true
        | '\n' :: rest => (after .lines rest).isEmpty
        | ',' :: cs =>
          match after .line cs with
          | [] => true
          | '\n' :: rest => (after .lines rest).isEmpty
          | cs => bareRow n .next cs
        | _ => false

/-- All ends of lines in one form. -/
def sameLines : List Char → List Char
  | '\r' :: '\n' :: cs => '\n' :: sameLines cs
  | '\r' :: cs => '\n' :: sameLines cs
  | c :: cs => c :: sameLines cs
  | [] => []

/-- What follows the lines at the start that are empty or hold a comment; it must not be indented. A
hidden end of a line keeps the indentation before it. The number bounds the steps. -/
def firstLine : Nat → (kept indented : Bool) → List Char → Option (List Char)
  | 0, _, _, _ => none
  | n + 1, kept, indented, cs =>
    match cs with
    | ' ' :: cs | '\t' :: cs => firstLine n kept true cs
    | '\x0c' :: cs => firstLine n kept false cs
    | '\\' :: '\n' :: cs => firstLine n (kept || indented) indented cs
    | '\n' :: cs => firstLine n false false cs
    | '#' :: cs => firstLine n kept indented (skipComment cs)
    | cs => if kept || indented then none else some cs

/-- Whether a text is a literal, or a row of literals without parentheses. -/
def isLiteral (cs : List Char) : Bool :=
  let text := sameLines (cs.dropWhile fun c => c == ' ' || c == '\t')
  match firstLine (text.length + 1) false false text with
  | some line => !cs.contains '\x00' && bareRow (line.length + 1) .first line
  | none => false

end NetLookup.CommandLine.Literal
