import ComponentCensus.Literal.Call
import ComponentCensus.Literal.Filling

/-!
# Reading literals

* `Rule.body` — how each form is read.
* `Start` — a whole text, or a value that is filled into a text.
* `read` — what a text is read as, or why it cannot be read.
* `fault?` — what is wrong with the text of a literal.

A text is read quietly first.  If that fails it is read once more, and now forms that may not stand
somewhere are looked for.  What keeps the text from being cut into tokens counts before everything
else, wherever it stands; and a bracket that is not closed counts before what is wrong on a later
line.
-/

set_option autoImplicit false

namespace ComponentCensus
namespace Literal

open Reading

/-! ## Forms -/

/-- How a form is read. -/
def Rule.body : Rule → Reading Node
  | .expression => Literal.expression
  | .starExpression => Literal.starExpression
  | .disjunction => Literal.disjunction
  | .conjunction => Literal.conjunction
  | .inversion => Literal.inversion
  | .bitOr => Literal.bitOr
  | .bitXor => Literal.bitXor
  | .bitAnd => Literal.bitAnd
  | .shift => Literal.shift
  | .sum => Literal.sum
  | .term => Literal.term
  | .factor => Literal.factor
  | .awaited => Literal.awaited
  | .primary => Literal.primary
  | .texts => Literal.texts
  | .arguments => Literal.arguments
  | .starTarget => Literal.starTarget
  | .target => Literal.target
  | .targetOwner => Literal.targetOwner
  | .misnamed => Literal.misnamed

/-- The reading of forms that refer to each other, so deep. -/
def parseForms (tokens : Array Placed) (fillingFault? : Bool → List Char → Option Fault) :
    (depth : Nat) → Rule → (explains : Bool) → State → Outcome Node
  | 0, _, _, s => (.nothing, s)
  | depth + 1, r, explains, s =>
    r.once r.body
      { tokens, explains, fillingFault?, parse := parseForms tokens fillingFault? depth } s

/-- How deep forms refer to each other at most, for each token. -/
def formDepth : Nat := 24

/-! ## Whole texts -/

/-- What a text is to be read as. -/
inductive Start where
  | whole
  /-- A value that is filled into a text. -/
  | filling
deriving Repr, DecidableEq

/-- What is read from the start. -/
def Start.reading : Start → Reading Node
  | whole => do
    let n ← valueOrTuple Rule.expression.read
    discard (many (token .lineEnd))
    let t ← next
    guard (t.token matches .finish _ _)
    pure n
  | filling => starExpressions

/-- How a text is cut into tokens: a value that is filled in is put between parentheses. -/
def Start.tokens : Start → List Char → List Placed
  | whole, s => placedTokens s
  | filling, s => placedTokens ('(' :: s ++ [')'])

/-- What counts before a fault: what keeps the text from being cut into tokens, or a bracket that is
not closed on an earlier line than that of the furthest token that was looked at.  A fault that says
more than that something is misplaced gives way to a bracket only where more may follow. -/
def overruled (tokens : Array Placed) (reached : Nat) (fault : Fault) : Fault :=
  match tokens.back?.map Placed.token with
  | some (.finish (some last) opened) =>
    if last.isPressing then last
    else
      match opened, tokens[reached]? with
      | some (bracket, line), some furthest =>
        let givesWay := fault = .misplaced || !furthest.meetsEnd
        if reached + 1 < tokens.size && line < furthest.line && givesWay then .notClosed bracket
        else fault
      | _, _ => fault
  | _ => fault

/-- What some tokens are read as, or why they cannot be read. -/
def readTokens (start : Start) (tokens : Array Placed)
    (fillingFault? : Bool → List Char → Option Fault) : Except Fault Node :=
  let parse := parseForms tokens fillingFault? (formDepth * (tokens.size + 1))
  let known := Array.replicate tokens.size []
  match start.reading { tokens, explains := false, fillingFault?, parse } { known } with
  | (.found n, _) => .ok n
  | (.fault fault, s) => .error (overruled tokens s.reached fault)
  | (.nothing, s) =>
    match start.reading { tokens, explains := true, fillingFault?, parse }
        { reached := s.reached, known } with
    | (.fault fault, s) => .error (overruled tokens s.reached fault)
    | (_, s') =>
      if tokens[s.reached]?.any (·.token = .indentation) then .error .indented
      else .error (overruled tokens s'.reached .misplaced)

/-- What a text is read as, or why it cannot be read.  Texts that are filled in are shorter than the
text that they stand in. -/
def readText : (depth : Nat) → Start → List Char → Except Fault Node
  | 0, _, _ => .error .misplaced
  | depth + 1, start, s =>
    let wrong? := fun (value : List Char) =>
      match readText depth .filling value with
      | .error fault => some fault
      | .ok _ => none
    let result := readTokens start (start.tokens s).toArray (fillingFault? wrong?)
    match start with
    | .whole => result
    | .filling => result.mapError Fault.within

/-- What a text is read as, or why it cannot be read.  Blanks at the front are no indentation. -/
def Node.ofText (s : List Char) : Except Fault Node :=
  if s.contains '\x00' then .error .noCharacter
  else readText (s.length + 1) .whole (s.dropWhile fun c => c = ' ' || c = '\t')

/-- What is wrong with the text of a literal. -/
def fault? (s : List Char) : Option Fault :=
  match Node.ofText s with
  | .error fault => some fault
  | .ok n => n.check

end Literal
end ComponentCensus
