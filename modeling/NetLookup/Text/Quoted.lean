import NetLookup.Text.Hex
import NetLookup.Text.Unprintable

/-! # Quoted texts

A text stands between two single quotes, or between double quotes if it holds a single quote and no
double one. What would end the text early, and what has no visible form, is escaped. -/

namespace NetLookup.Text

def singleQuote : Char := '\x27'

def doubleQuote : Char := '\x22'

/-- The quote that a text is put between. -/
def quoteFor (cs : List Char) : Char :=
  if cs.contains singleQuote && !cs.contains doubleQuote then doubleQuote else singleQuote

/-- A character without a visible form is written by its number, in two, four or eight digits. -/
def byNumber (c : Char) : List Char :=
  if c.toNat < 0x100 then '\\' :: 'x' :: hexDigits 2 c.toNat
  else if c.toNat < 0x10000 then '\\' :: 'u' :: hexDigits 4 c.toNat
  else '\\' :: 'U' :: hexDigits 8 c.toNat

def quotedChar (quote c : Char) : List Char :=
  if c = quote ∨ c = '\\' then ['\\', c]
  else if c = '\n' then ['\\', 'n']
  else if c = '\r' then ['\\', 'r']
  else if c = '\t' then ['\\', 't']
  else if printable c then [c]
  else byNumber c

def quoted (s : String) : String :=
  let quote := quoteFor s.toList
  String.ofList (quote :: s.toList.flatMap (quotedChar quote) ++ [quote])

end NetLookup.Text
