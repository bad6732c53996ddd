import NetLookup.CommandLine.Style.Color
import NetLookup.Text.Lower

/-! # Styles

A style sets attributes, a colour, a background and a link. Styles with the same effect have the same
normal form. -/

namespace NetLookup.CommandLine

/-! ## Attributes -/

inductive Attribute where
  | bold
  | dim
  | italic
  | underline
  | blink
  | fastBlink
  | reverse
  | conceal
  | strike
  | doubleUnderline
  | frame
  | encircle
  | overline
  deriving DecidableEq

namespace Attribute

def name : Attribute → String
  | bold => "bold"
  | dim => "dim"
  | italic => "italic"
  | underline => "underline"
  | blink => "blink"
  | fastBlink => "blink2"
  | reverse => "reverse"
  | conceal => "conceal"
  | strike => "strike"
  | doubleUnderline => "underline2"
  | frame => "frame"
  | encircle => "encircle"
  | overline => "overline"

/-- A shorter name, if there is one. -/
def letter? : Attribute → Option String
  | bold => some "b"
  | dim => some "d"
  | italic => some "i"
  | underline => some "u"
  | reverse => some "r"
  | conceal => some "c"
  | strike => some "s"
  | doubleUnderline => some "uu"
  | overline => some "o"
  | _ => none

/-- All attributes, in the order in which a normal form has them. -/
def all : List Attribute :=
  [bold, dim, italic, underline, blink, fastBlink, reverse, conceal, strike, doubleUnderline, frame,
    encircle, overline]

def ofWord? (word : List Char) : Option Attribute :=
  all.find? fun a => a.name.toList == word || a.letter?.any (·.toList == word)

end Attribute

/-! ## Styles -/

structure Style where
  /-- Whether an attribute is switched on or off, if at all. -/
  attributes : Attribute → Option Bool := fun _ => none
  color : Option (List Char) := none
  background : Option (List Char) := none
  link : Option (List Char) := none

namespace Style

/-- Why a text is no style. -/
inductive Fault where
  | unknownWord
  | badNumber

def switch (s : Style) (a : Attribute) (on : Bool) : Style :=
  { s with attributes := fun b => if b = a then some on else s.attributes b }

def readColor (word : List Char) : Except Fault (List Char) :=
  match Color.read (Text.lower word) with
  | .color => .ok (Text.lower word)
  | .noColor => .error .unknownWord
  | .badNumber => .error .badNumber

/-- Reads words on top of a style. -/
def readWords (s : Style) : List (List Char) → Except Fault Style
  | [] => .ok s
  | word :: rest =>
    match String.ofList (Text.lower word), rest with
    | "on", color :: rest => do readWords { s with background := some (← readColor color) } rest
    | "not", name :: rest =>
      match Attribute.ofWord? name with
      | some a => readWords (s.switch a false) rest
      | none => .error .unknownWord
    | "link", target :: rest => readWords { s with link := some target } rest
    | "on", [] | "not", [] | "link", [] => .error .unknownWord
    | _, rest =>
      match Attribute.ofWord? (Text.lower word) with
      | some a => readWords (s.switch a true) rest
      | none => do readWords { s with color := some (← readColor word) } rest
termination_by words => words.length

def noStyle : List Char := "none".toList

/-- Reads a style; the word for no style at all stands alone. -/
def read (text : List Char) : Except Fault Style :=
  if Text.trim text = noStyle then .ok {} else readWords {} (Text.words text)

/-- The words of a style in a fixed order. -/
def toWords (s : Style) : List (List Char) :=
  (Attribute.all.flatMap fun a =>
      match s.attributes a with
      | some true => [a.name.toList]
      | some false => ["not".toList, a.name.toList]
      | none => [])
    ++ s.color.toList
    ++ s.background.elim [] (fun color => ["on".toList, color])
    ++ s.link.elim [] (fun target => ["link".toList, target])

def text (s : Style) : List Char :=
  match s.toWords with
  | [] => noStyle
  | words => [' '].intercalate words

/-- The normal form of a style; what is no style is taken in small letters. -/
def normal (text : List Char) : Except Fault (List Char) :=
  match read text with
  | .ok s => .ok s.text
  | .error .unknownWord => .ok (Text.lower (Text.trim text))
  | .error .badNumber => .error .badNumber

end Style

end NetLookup.CommandLine
