import NetLookup.Json
import NetLookup.Text.Hex

/-! # The JSON text of a value

A blank follows each comma and each colon. Two forms exist: one writes every character outside the
ASCII range from the blank to the tilde by its 16-bit units, the other only the control characters. -/

namespace NetLookup.Json

/-- How far characters are escaped. -/
inductive Escaping where
  /-- All that is not visible ASCII. -/
  | ascii
  /-- Control characters alone. -/
  | controls
  deriving DecidableEq

def unitEscape (n : Nat) : List Char := '\\' :: 'u' :: Text.hexDigits 4 n

/-- A character above U+FFFF takes two units. -/
def unitEscapes (c : Char) : List Char :=
  if c.toNat < 0x10000 then unitEscape c.toNat
  else
    unitEscape (0xd800 + (c.toNat - 0x10000) / 0x400)
      ++ unitEscape (0xdc00 + (c.toNat - 0x10000) % 0x400)

def encodedChar (escaping : Escaping) (c : Char) : List Char :=
  if c = '\x22' ∨ c = '\\' then ['\\', c]
  else if c = '\n' then ['\\', 'n']
  else if c = '\r' then ['\\', 'r']
  else if c = '\t' then ['\\', 't']
  else if c = '\x08' then ['\\', 'b']
  else if c = '\x0c' then ['\\', 'f']
  else if c.toNat < 0x20 ∨ (escaping = .ascii ∧ 0x7e < c.toNat) then unitEscapes c
  else [c]

def encodedText (escaping : Escaping) (s : String) : String :=
  String.ofList ('\x22' :: s.toList.flatMap (encodedChar escaping) ++ ['\x22'])

mutual

def encode (escaping : Escaping) : Json → String
  | null => "null"
  | bool true => "true"
  | bool false => "false"
  | num n => toString n
  | frac x => x.text
  | str s => encodedText escaping s
  | arr items => "[" ++ ", ".intercalate (encodeItems escaping items) ++ "]"
  | obj fields | resource _ fields =>
    "\x7b" ++ ", ".intercalate (encodeFields escaping fields) ++ "\x7d"

def encodeItems (escaping : Escaping) : List Json → List String
  | [] => []
  | v :: vs => encode escaping v :: encodeItems escaping vs

def encodeFields (escaping : Escaping) : List (String × Json) → List String
  | [] => []
  | (k, v) :: fs =>
    (encodedText escaping k ++ ": " ++ encode escaping v) :: encodeFields escaping fs

end

end NetLookup.Json
