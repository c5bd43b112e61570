import ComponentCensus.Literal.Reader
import ComponentCensus.Text.Blank

/-!
# Handlers

A tag whose name begins with `@` asks for a handler, and its parameters tell which: a name, and
arguments between parentheses, or a literal alone.

* `argumentsText` — the literal among the parameters.
* `HandlerFault`, `handlerFault?` — what is wrong with it.
-/

set_option autoImplicit false

namespace ComponentCensus
namespace Console

/-- What is wrong with the parameters of a handler. -/
structure HandlerFault where
  /-- The parameters. -/
  parameters : String
  /-- The literal among them. -/
  literal : String
  /-- What is wrong with the literal. -/
  fault : Literal.Fault
deriving Repr, DecidableEq, Inhabited

/-- What is wrong, in words. -/
def HandlerFault.message (f : HandlerFault) : String :=
  "error parsing " ++
    (if f.fault.isSyntax then Text.quoted f.literal ++ " in " else "") ++
    Text.quoted f.parameters ++ "; " ++ f.fault.message

/-- The literal among some parameters without blanks at their ends: the arguments behind a name, no
arguments behind a name alone, or else everything. -/
def argumentsText (parameters : List Char) : List Char :=
  match parameters.dropWhile fun c => Text.isWord c || c = '.' with
  | [] => ['(', ')']
  | '(' :: s =>
    if s.getLast? = some ')' && !s.contains '\n' then '(' :: s else parameters
  | _ => parameters

/-- What is wrong with the parameters of a handler. -/
def handlerFault? (parameters : List Char) : Option HandlerFault :=
  if parameters.isEmpty then none
  else
    let literal := argumentsText (Text.trim parameters)
    (Literal.fault? literal).map fun fault =>
      { parameters := String.ofList parameters, literal := String.ofList literal, fault }

end Console
end ComponentCensus
