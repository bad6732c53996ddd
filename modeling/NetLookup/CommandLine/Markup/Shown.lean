import NetLookup.CommandLine.Markup
import NetLookup.CommandLine.Markup.Handler
import NetLookup.CommandLine.Style
import NetLookup.Text.Emoji
import NetLookup.Text.Width

/-! # What a markup text shows

Tags are followed from left to right. A tag stays open until a tag with a slash closes it, or to the
end of the text. -/

namespace NetLookup.CommandLine.Markup

/-! ## Texts -/

/-- Control characters that are not printed: bell, backspace, vertical tab, form feed, return. -/
def unprinted (c : Char) : Bool := [7, 8, 11, 12, 13].contains c.toNat

/-- A piece of text as it is printed. -/
def printed (cs : List Char) : List Char := (Text.expandEmoji cs).filter (!unprinted ·)

/-! ## Tags -/

/-- Why a text cannot be shown. -/
inductive Fault where
  | nothingToClose
  | badHandler
  | badNumber

/-- A name, and what follows the equals sign if there is one. -/
def parted (tag : List Char) : List Char × Option (List Char) :=
  (tag.takeWhile (· != '='),
    match tag.dropWhile (· != '=') with
    | _ :: parameters => some parameters
    | [] => none)

/-- The normal form of a tag's name. -/
def normalName (name : List Char) : Except Fault (List Char) :=
  match Style.normal name with
  | .ok name => .ok name
  | .error _ => .error .badNumber

/-- A tag that is open. -/
structure Opened where
  name : List Char
  parameters : Option (List Char)
  /-- How many characters are shown before it. -/
  start : Nat

/-- The style of the text behind the tag. -/
def Opened.style (o : Opened) : List Char :=
  o.name ++ o.parameters.elim [] (' ' :: ·)

/-- Only a tag for a handler has parameters that must be readable. -/
def Opened.isReadable (o : Opened) : Bool :=
  o.name.head? != some '@' || o.parameters.all fun text => text.isEmpty || isHandler text

/-- A part of the shown text with a style. -/
structure Span where
  style : List Char
  start : Nat
  stop : Nat

def Span.isBadNumber (s : Span) : Bool :=
  match Style.read s.style with
  | .error .badNumber => true
  | _ => false

/-- What is shown of a text, with the open tags, the last one first. -/
structure Progress where
  shown : List Char := []
  opened : List Opened := []
  spans : List Span := []

namespace Progress

def span (p : Progress) (o : Opened) : Span := ⟨o.style, o.start, p.shown.length⟩

/-- Closes the last of the open tags that fit. -/
def close (p : Progress) (fits : Opened → Bool) : Except Fault Progress :=
  match p.opened.find? fits with
  | none => .error .nothingToClose
  | some o =>
    if o.isReadable then
      .ok { p with opened := p.opened.eraseP fits, spans := p.span o :: p.spans }
    else .error .badHandler

/-- A slash without a name closes the last open tag. -/
def follow (p : Progress) (tag : List Char) : Except Fault Progress :=
  match parted tag with
  | ('/' :: name, _) =>
    let name := Text.trim name
    if name.isEmpty then p.close fun _ => true
    else do
      let name ← normalName name
      p.close (·.name == name)
  | (name, parameters) => do
    let name ← normalName name
    return { p with opened := ⟨name, parameters, p.shown.length⟩ :: p.opened }

def step (p : Progress) : Piece → Except Fault Progress
  | .text cs => .ok { p with shown := p.shown ++ printed cs }
  | .tag text => p.follow text

/-- Whether a style is used. A text is cut at ends of lines and at tabs, which loses the spans that
cover nothing else. -/
def uses (p : Progress) (s : Span) : Bool :=
  ((p.shown.take s.stop).drop s.start).any (· != '\n')
    || p.shown.all fun c => c != '\n' && c != '\t'

/-- The shown text, with blanks for its tabs. -/
def finish (p : Progress) : Except Fault (List Char) :=
  if ((p.opened.map p.span) ++ p.spans).any fun s => s.isBadNumber && p.uses s then .error .badNumber
  else .ok (Text.expandTabs p.shown)

end Progress

/-- The characters that a markup text shows. -/
def show? (cs : List Char) : Except Fault (List Char) := do
  (← (pieces cs).foldlM Progress.step {}).finish

theorem show?_of_no_bracket {cs : List Char} (h : '[' ∉ cs) :
    show? cs = .ok (Text.expandTabs (printed cs)) := by
  simp [show?, pieces_of_no_bracket h, Progress.step, Progress.finish, bind, Except.bind, pure,
    Except.pure]

end NetLookup.CommandLine.Markup
