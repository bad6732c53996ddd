import NetLookup.Text.Width.Wide
import NetLookup.Text.Width.Zero

/-! # Columns

The width of a text on a screen, in columns. -/

namespace NetLookup.Text

/-- The columns of a character by itself. -/
def width (c : Char) : Nat :=
  if zeroWidth.holds c then 0 else if doubleWidth.holds c then 2 else 1

/-- The mark that asks for the picture of the character before it. -/
def pictureMark : Char := '\ufe0f'

/-- Joins the next character to what stands before it. -/
def joiner : Char := '\u200d'

/-- The columns that a picture mark adds to the last character with a width. -/
def markWidth (last : Option Char) : Nat := if last.any widenedByMark.holds then 1 else 0

def columnsAfter : Option Char → List Char → Nat
  | _, [] => 0
  | last, c :: cs =>
    if c = joiner then
      match cs with
      | [] => 0
      | _ :: cs => columnsAfter last cs
    else if c = pictureMark then markWidth last + columnsAfter none cs
    else if width c = 0 then columnsAfter last cs
    else width c + columnsAfter (some c) cs

/-- The columns of a text. -/
def columns (cs : List Char) : Nat := columnsAfter none cs

/-! ## Tabs -/

def tabStop : Nat := 8

/-- Tabs as blanks up to the next tab stop. The text since the last stop is held back, last character
first. -/
def expandTabsFrom : Nat → List Char → List Char → List Char
  | _, held, [] => held.reverse
  | column, held, c :: cs =>
    if c = '\n' then held.reverse ++ '\n' :: expandTabsFrom 0 [] cs
    else if c = '\t' then
      let cell := held.reverse ++ [' ']
      let stop := column + columns cell
      let fill := (tabStop - stop % tabStop) % tabStop
      cell ++ List.replicate fill ' ' ++ expandTabsFrom (stop + fill) [] cs
    else expandTabsFrom column (c :: held) cs

/-- A text with blanks in the place of its tabs. -/
def expandTabs (cs : List Char) : List Char := expandTabsFrom 0 [] cs

theorem expandTabsFrom_of_no_tab {cs : List Char} (h : '\t' ∉ cs) (column : Nat) (held : List Char) :
    expandTabsFrom column held cs = held.reverse ++ cs := by
  induction cs generalizing column held with
  | nil => simp [expandTabsFrom]
  | cons c cs ih =>
    have hc : ¬ c = '\t' := fun e => h (e ▸ List.mem_cons_self)
    have hcs : '\t' ∉ cs := fun m => h (List.mem_cons_of_mem c m)
    by_cases hn : c = '\n' <;> simp [expandTabsFrom, hc, hn, ih hcs]

theorem expandTabs_of_no_tab {cs : List Char} (h : '\t' ∉ cs) : expandTabs cs = cs := by
  simp [expandTabs, expandTabsFrom_of_no_tab h]

end NetLookup.Text
