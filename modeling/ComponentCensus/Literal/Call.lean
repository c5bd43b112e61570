import ComponentCensus.Literal.Collection

/-!
# Calls, and values without operators

* `Argument` — an argument without a name, one with a name, or a table of arguments.
* `arguments` — the arguments of a call, or what is wrong with them.
* `atom` — a name, a number, a text, or something between brackets.
* `primary` — an atom with what belongs to it: properties and arguments.

Arguments without names come first; starred ones may also stand among those with names, and tables
come last.
-/

set_option autoImplicit false

namespace ComponentCensus
namespace Literal

open Reading

/-! ## Arguments -/

/-- An argument of a call. -/
inductive Argument where
  | unnamed
  | named
  | table
deriving Repr, DecidableEq

/-- What is wrong with an argument that has a name. -/
def argumentFault : Reading Argument :=
  let valueWord := fun w => do
    keyword w
    pure w
  (do
    let w ← valueWord "True" <|> valueWord "False" <|> valueWord "None"
    sign "="
    raise (.assignsTo w)) <|>
  (do
    let _ ← name
    sign "="
    let _ ← Rule.expression.read
    eachClauses
    raise .assignsName) <|>
  (do
    notAhead (do
      let _ ← name
      sign "=")
    let _ ← Rule.expression.read
    sign "="
    raise .assignsArgument)

/-- An argument with a name. -/
def namedArgument : Reading Argument := do
  let _ ← name
  sign "="
  let _ ← Rule.expression.read
  pure .named

/-- An argument with a name, or one with a star. -/
def namedOrStarred : Reading Argument :=
  explaining argumentFault <|> namedArgument <|>
  (do
    let _ ← starredExpression
    pure .unnamed)

/-- An argument with a name, or a table of arguments. -/
def namedOrTable : Reading Argument :=
  explaining argumentFault <|> namedArgument <|>
  (do
    sign "**"
    let _ ← Rule.expression.read
    pure .table)

/-- The arguments from the first one on that has a name or is a table. -/
def namedArguments : Reading (List Argument) :=
  (do
    let first ← separated namedOrStarred
    sign ","
    let last ← separated namedOrTable
    pure (first ++ last)) <|>
  separated namedOrStarred <|> separated namedOrTable

/-- An argument without a name. -/
def unnamedArgument : Reading Argument :=
  (do
    let _ ← starredExpression
    pure .unnamed) <|>
  (do
    let _ ← named <|> unnamed
    notAhead (sign "=")
    pure .unnamed)

/-- The arguments of a call, without a comma behind them. -/
def argumentList : Reading (List Argument) :=
  (do
    let first ← separated unnamedArgument
    let more ← optional (do sign ","; namedArguments)
    pure (first ++ more.getD [])) <|> namedArguments

/-- What is wrong with the arguments of a call. -/
def argumentsFault : Reading Node :=
  (do
    discard (do
      let _ ← separated unnamedArgument
      sign ","
      namedArguments) <|> discard namedArguments
    sign ","
    let _ ← separated (do
      let _ ← starredExpression
      notAhead (sign "="))
    raise .starredAfterTable) <|>
  (do
    let _ ← Rule.expression.read
    eachClauses
    sign ","
    let _ ← optional (discard argumentList <|> (do
      let _ ← Rule.expression.read
      eachClauses))
    raise .bareGenerator) <|>
  (do
    let _ ← name
    sign "="
    let _ ← Rule.expression.read
    eachClauses
    raise .assignsName) <|>
  (do
    let ps ← argumentList
    eachClauses
    guard (1 < (ps.filter (· = .unnamed)).length)
    raise .bareGenerator) <|>
  (do
    let _ ← argumentList
    sign ","
    let _ ← Rule.expression.read
    eachClauses
    raise .bareGenerator) <|>
  (do
    let ps ← argumentList
    sign ","
    let _ ← argumentList
    raise (if ps.contains .table then .unnamedAfterTable else .unnamedAfterNamed))

/-- The arguments of a call, in front of the closing parenthesis. -/
def arguments : Reading Node :=
  (do
    let _ ← argumentList
    let _ ← optional (sign ",")
    ahead (sign ")")
    pure .blank) <|> explaining argumentsFault

/-- The arguments of a call between parentheses; whether there are any. -/
def parenthesizedArguments : Reading Bool := do
  sign "("
  let ns ← optional Rule.arguments.read
  sign ")"
  pure ns.isSome

/-! ## Texts -/

/-- What texts side by side are put together to.  All of them are bytes or none is. -/
def together (fillingFault? : Bool → List Char → Option Fault) (areBytes : Option Bool)
    (areFilled : Bool) : List Token → Except Fault Node
  | .text isBytes fault :: ts =>
    match fault with
    | some f => .error f
    | none =>
      if areBytes.any (· ≠ isBytes) then .error .mixedTexts
      else together fillingFault? (some isBytes) areFilled ts
  | .filledText isRaw body :: ts =>
    if areBytes = some true then .error .mixedTexts
    else
      match fillingFault? isRaw body with
      | some f => .error f
      | none => together fillingFault? (some false) true ts
  | _ => .ok (if areFilled then .form .filledText else .text)

/-- Texts side by side. -/
def texts : Reading Node := do
  let ts ← many1 text
  fun c s =>
    match together c.fillingFault? none false ts with
    | .error fault => (.fault fault, s)
    | .ok n => (.found n, s)

/-! ## Values without operators -/

/-- One of the words that have a value. -/
def valueWord : Reading Node := take fun
  | .name w => if ["True", "False", "None"].contains w then some (.word w) else none
  | _ => none

/-- A number. -/
def number : Reading Node := take fun
  | .number isImaginary => some (.number isImaginary)
  | _ => none

/-- A value without operators, and without anything that belongs to it. -/
def atom : Reading Node :=
  (do
    let w ← name
    pure (.name w)) <|>
  valueWord <|>
  (do
    ahead text
    Rule.texts.read) <|>
  number <|>
  (do
    ahead (sign "(")
    tuple <|> group <|> generator) <|>
  (do
    ahead (sign "\x7b")
    table <|> set <|> eachTable <|> eachSet) <|>
  (do
    sign "..."
    pure .ellipsis)

/-- What belongs to a value: a property, or arguments.  A call with a name and without arguments
may make a set. -/
def extension (n : Node) : Reading Node :=
  (do
    sign "."
    let _ ← name
    pure (.form .property)) <|>
  (do
    let _ ← generator
    pure (.form .call)) <|>
  (do
    let hasArguments ← parenthesizedArguments
    match n with
    | .name "set" => pure (if hasArguments then .form .call else .set [])
    | _ => pure (.form .call))

/-- A value with what belongs to it. -/
def primary : Reading Node := extended atom extension

/-- A value with what belongs to it, as far as more of that follows. -/
def targetOwner : Reading Node :=
  let goesOn := fun (x : Reading Node) => do
    let n ← x
    ownerGoesOn
    pure n
  extended (goesOn atom) fun n =>
    goesOn (do sign "."; let _ ← name; pure (.form .property)) <|>
    goesOn (do let _ ← generator; pure (.form .call)) <|>
    goesOn (do let _ ← parenthesizedArguments; pure n)

end Literal
end ComponentCensus
