import ComponentCensus.Literal.Node
import ComponentCensus.Literal.Token

/-!
# Readings

A reading takes a form off the front of some tokens.  It ends in one of three ways: with what was
read; with nothing, and then another form may be tried at the same place; or with a fault, and then
no other form is tried.

* `Rule` — the forms that refer to each other.  What was read for one of them at a place is kept, so
  that each is read at most once there.
* `Reading` — a reading, given the tokens and how the forms are read.
* `Reading.orElse`, `many`, `ahead` — ordered choice, repetition and looking ahead.
* `explaining`, `quietly` — whether forms that may not stand somewhere are looked for, to tell what
  is wrong with them.

That a form is read once at a place holds also where it is looked for quietly: what was found there
first counts.  What is wrong at the end of the tokens is told as soon as the end is looked at.
-/

set_option autoImplicit false

namespace ComponentCensus
namespace Literal

/-- The forms that refer to each other. -/
inductive Rule where
  | expression
  /-- An expression, perhaps with a star. -/
  | starExpression
  | disjunction
  | conjunction
  | inversion
  | bitOr
  | bitXor
  | bitAnd
  | shift
  | sum
  | term
  | factor
  | awaited
  | primary
  | texts
  | arguments
  /-- What takes values in turn, perhaps with a star. -/
  | starTarget
  | target
  /-- What stands in front of the last property of a target. -/
  | targetOwner
  /-- What is set to a value where it may not be. -/
  | misnamed
deriving Repr, DecidableEq, Inhabited

/-- How far some tokens have been read. -/
structure State where
  /-- The place of the next token. -/
  place : Nat := 0
  /-- The furthest place that has been looked at. -/
  reached : Nat := 0
  /-- What was read at each place, with the place behind it; nothing, if the form is not there. -/
  known : Array (List (Rule × Option (Node × Nat))) := #[]

/-- How a reading ends. -/
inductive Ending (α : Type) where
  | found (a : α)
  | nothing
  | fault (fault : Fault)

/-- How a reading ends, and how far the tokens have been read then. -/
abbrev Outcome (α : Type) := Ending α × State

/-- What a reading goes by. -/
structure Setting where
  tokens : Array Placed
  /-- Whether forms that may not stand somewhere are looked for. -/
  explains : Bool
  /-- What is wrong with a text in which values are filled in. -/
  fillingFault? : (isRaw : Bool) → (body : List Char) → Option Fault
  /-- How the forms are read. -/
  parse : Rule → (explains : Bool) → State → Outcome Node

/-- A reading. -/
def Reading (α : Type) : Type := Setting → State → Outcome α

namespace Reading

variable {α β : Type}

/-- Nothing is taken. -/
protected def pure (a : α) : Reading α := fun _ s => (.found a, s)

/-- One reading, and another one behind it. -/
protected def bind (x : Reading α) (f : α → Reading β) : Reading β := fun c s =>
  match x c s with
  | (.found a, s) => f a c s
  | (.nothing, s) => (.nothing, s)
  | (.fault fault, s) => (.fault fault, s)

/-- Nothing can be read here. -/
def fail : Reading α := fun _ s => (.nothing, s)

/-- Something is wrong here. -/
def raise (fault : Fault) : Reading α := fun _ s => (.fault fault, s)

/-- One reading, or if nothing can be read another one at the same place. -/
protected def orElse (x : Reading α) (y : Unit → Reading α) : Reading α := fun c s =>
  match x c s with
  | (.nothing, s') => y () c { s' with place := s.place }
  | outcome => outcome

end Reading

instance : Monad Reading where
  pure := Reading.pure
  bind := Reading.bind

instance : Alternative Reading where
  failure := Reading.fail
  orElse := Reading.orElse

namespace Reading

variable {α β : Type}

/-! ## Choice, repetition and looking ahead -/

/-- A reading at most so many times, as often as it can be read. -/
def manyUpTo : (limit : Nat) → Reading α → Reading (List α)
  | 0, _ => pure []
  | limit + 1, x =>
    (do
      let a ← x
      let more ← manyUpTo limit x
      pure (a :: more)) <|> pure []

/-- A reading as often as it can be read.  Each one takes a token. -/
def many (x : Reading α) : Reading (List α) := fun c s => manyUpTo c.tokens.size x c s

/-- A reading as often as it can be read, at least once. -/
def many1 (x : Reading α) : Reading (List α) := do
  let a ← x
  let more ← many x
  pure (a :: more)

/-- What was read is extended at most so many times, as often as that can be done. -/
def extendUpTo : (limit : Nat) → (α → Reading α) → α → Reading α
  | 0, _, a => pure a
  | limit + 1, extend, a =>
    (do
      let b ← extend a
      extendUpTo limit extend b) <|> pure a

/-- What was read is extended as often as that can be done.  Each extension takes a token. -/
def extended (x : Reading α) (extend : α → Reading α) : Reading α := do
  let a ← x
  fun c s => extendUpTo c.tokens.size extend a c s

/-- Whether something can be read here.  Nothing is taken. -/
def isAhead (x : Reading α) : Reading Bool := fun c s =>
  match x c s with
  | (.found _, s') => (.found true, { s' with place := s.place })
  | (.nothing, s') => (.found false, { s' with place := s.place })
  | (.fault fault, s) => (.fault fault, s)

/-- Goes on only if something can be read here, which is not taken. -/
def ahead (x : Reading α) : Reading Unit := do guard (← isAhead x)

/-- Goes on only if something cannot be read here. -/
def notAhead (x : Reading α) : Reading Unit := do guard (!(← isAhead x))

/-- A reading only where one looks for what is wrong. -/
def explaining (x : Reading α) : Reading α := fun c s =>
  if c.explains then x c s else fail c s

/-- A reading within which one does not look for what is wrong. -/
def quietly (x : Reading α) : Reading α := fun c s => x { c with explains := false } s

/-! ## Tokens -/

/-- The next token, which is not taken. -/
def next : Reading Placed := fun c s =>
  let s := { s with reached := max s.reached s.place }
  match c.tokens[s.place]? with
  | none => (.nothing, s)
  | some t =>
    match t.token with
    | .finish (some fault) _ => (.fault fault, s)
    | _ => (.found t, s)

/-- Takes the next token if it is as wanted. -/
def take (wanted : Token → Option α) : Reading α := do
  let t ← next
  match wanted t.token with
  | none => fail
  | some a => fun _ s => (.found a, { s with place := s.place + 1 })

/-- Takes a certain token. -/
def token (t : Token) : Reading Unit := take fun u => if u = t then some () else none

/-- Takes a sign. -/
def sign (s : String) : Reading Unit := token (.sign s)

/-- Takes one of some signs. -/
def oneSign (signs : List String) : Reading String := take fun
  | .sign s => if signs.contains s then some s else none
  | _ => none

/-- Takes a word that is no name. -/
def keyword (w : String) : Reading Unit := token (.name w)

/-- The words that are no names. -/
def keywords : List String :=
  ["False", "None", "True", "and", "as", "assert", "async", "await", "break", "class", "continue",
    "def", "del", "elif", "else", "except", "finally", "for", "from", "global", "if", "import",
    "in", "is", "lambda", "nonlocal", "not", "or", "pass", "raise", "return", "try", "while",
    "with", "yield"]

/-- Takes a name. -/
def name : Reading String := take fun
  | .name w => if keywords.contains w then none else some w
  | _ => none

/-- Takes a text. -/
def text : Reading Token := take fun t => if t.isText then some t else none

/-- Whether a bracket is open behind the last token that was taken. -/
def isInside : Reading Bool := fun c s =>
  (.found (c.tokens[s.place - 1]?.any Placed.isInside), s)

/-- Some readings with commas between them. -/
def separated (x : Reading α) : Reading (List α) := do
  let a ← x
  let more ← many (do sign ","; x)
  pure (a :: more)

/-- A value, or some values with commas between them and perhaps behind them, which are a tuple. -/
def valueOrTuple (x : Reading Node) : Reading Node := do
  let ns ← separated x
  let comma ← optional (sign ",")
  match ns, comma with
  | [n], none => pure n
  | ns, _ => pure (.tuple ns)

end Reading

/-! ## Forms -/

/-- The reading of a form. -/
def Rule.read (r : Rule) : Reading Node := fun c s => c.parse r c.explains s

/-- What is known of a form at the next place. -/
def State.recall (s : State) (r : Rule) : Option (Option (Node × Nat)) :=
  ((s.known[s.place]?.getD []).find? fun entry => entry.1 = r).map (·.2)

/-- Keeps what was read for a form at a place. -/
def State.keep (s : State) (r : Rule) (place : Nat) (result : Option Node) : State :=
  { s with known := s.known.modify place fun entries =>
      (r, result.map fun n => (n, s.place)) :: entries }

/-- What is known of a form here, or else its reading, which is kept. -/
def Rule.once (r : Rule) (x : Reading Node) : Reading Node := do
  let _ ← Reading.next
  fun c s =>
    match s.recall r with
    | some none => (.nothing, s)
    | some (some (n, place)) => (.found n, { s with place })
    | none =>
      match x c s with
      | (.found n, s') => (.found n, s'.keep r s.place (some n))
      | (.nothing, s') => (.nothing, s'.keep r s.place none)
      | (.fault fault, s) => (.fault fault, s)

end Literal
end ComponentCensus
