import NetLookup.CommandLine.Literal
import NetLookup.Text.Blank
import NetLookup.Text.Word

/-! # Handlers

What follows the equals sign in a tag whose name starts with `@` names a handler and its arguments, or is
a literal. -/

namespace NetLookup.CommandLine.Markup

def isNamePart (c : Char) : Bool := Text.isWordChar c || c == '.'

/-- The arguments behind a name, in parentheses; no parentheses stand for no arguments. -/
def handlerArguments? (text : List Char) : Option (List Char) :=
  match text.dropWhile isNamePart with
  | [] => some ['(', ')']
  | '(' :: cs =>
    if cs.getLast? = some ')' && !cs.contains '\n' then some ('(' :: cs) else none
  | _ => none

/-- Whether a text can be read as a handler. -/
def isHandler (text : List Char) : Bool :=
  let text := Text.trim text
  Literal.isLiteral ((handlerArguments? text).getD text)

end NetLookup.CommandLine.Markup
