import NetLookup.Text.Blank
import NetLookup.Text.Emoji.Names
import NetLookup.Text.Hex
import NetLookup.Text.Lower

/-! # Emoji codes

A name between two colons stands for an emoji. After the name `-text` or `-emoji` may ask for one of
its two forms. A code with an unknown name stands for itself. -/

namespace NetLookup.Text

/-! ## The table -/

def pairUp : List (List Char) → List (List Char × List Char)
  | a :: b :: rest => (a, b) :: pairUp rest
  | _ => []

def emojiNames : List (List Char × List Char) := emojiTables.flatMap fun t => pairUp (words t.toList)

/-- The characters whose numbers a text names. -/
def byNumbers (text : List Char) : List Char :=
  (words (text.map fun c => if c = '-' then ' ' else c)).map fun n => Char.ofNat (hexValue n)

def emoji? (name : List Char) : Option (List Char) := (emojiNames.lookup name).map byNumbers

/-! ## Codes -/

/-- The endings that ask for a form, and the marks of the forms. -/
def forms : List (List Char × Char) := [("-emoji".toList, '\ufe0f'), ("-text".toList, '\ufe0e')]

/-- What stands in the place of a name between colons. -/
def shownCode (name : List Char) : List Char :=
  let found := match forms.find? fun f => f.1.isSuffixOf name with
    | some (ending, mark) =>
      (emoji? (lower (name.take (name.length - ending.length)))).map (· ++ [mark])
    | none => emoji? (lower name)
  found.getD (':' :: name ++ [':'])

/-- A text with its emoji in the place of their codes. What follows a colon that may open a code is
held back, last character first. A blank ends it. -/
def expandEmojiFrom : Option (List Char) → List Char → List Char
  | none, [] => []
  | none, c :: cs => if c = ':' then expandEmojiFrom (some []) cs else c :: expandEmojiFrom none cs
  | some held, [] => ':' :: held.reverse
  | some held, c :: cs =>
    if c = ':' then shownCode held.reverse ++ expandEmojiFrom none cs
    else if isBlank c then ':' :: held.reverse ++ c :: expandEmojiFrom none cs
    else expandEmojiFrom (some (c :: held)) cs

def expandEmoji (cs : List Char) : List Char := expandEmojiFrom none cs

theorem expandEmoji_of_no_colon {cs : List Char} (h : ':' ∉ cs) : expandEmoji cs = cs := by
  unfold expandEmoji
  induction cs with
  | nil => rfl
  | cons c cs ih =>
    have hc : ¬ c = ':' := fun e => h (e ▸ List.mem_cons_self)
    simp [expandEmojiFrom, hc, ih (fun m => h (List.mem_cons_of_mem c m))]

end NetLookup.Text
