import ComponentCensus.Literal.Function

/-!
# Conditions and operations

* `expression` — a value, a condition between two values, or a function without a name.
* `disjunction`, `conjunction`, `inversion`, `comparison` — questions.
* `bitOr` and the forms below it — arithmetic, from the weakest operator to the strongest.
* `starExpressions` — expressions with commas between them, perhaps with stars.

Where one looks for what is wrong, an expression is first tried as one with a missing comma or a
missing alternative, then as a command whose arguments have no parentheses.
-/

set_option autoImplicit false

namespace ComponentCensus
namespace Literal

open Reading

/-! ## Arithmetic -/

/-- Operands with operators between them, taken together from the left. -/
def operations (signs : List String) (operand : Reading Node) : Reading Node :=
  extended operand fun _ => do
    let _ ← oneSign signs
    let _ ← operand
    pure (.form .operation)

/-- Values with a bar between them. -/
def bitOr : Reading Node := operations ["|"] Rule.bitXor.read

/-- Values with a circumflex between them. -/
def bitXor : Reading Node := operations ["^"] Rule.bitAnd.read

/-- Values with an ampersand between them. -/
def bitAnd : Reading Node := operations ["&"] Rule.shift.read

/-- Values that are shifted. -/
def shift : Reading Node := operations ["<<", ">>"] Rule.sum.read

/-- Sums and differences. -/
def sum : Reading Node :=
  extended Rule.term.read fun left => do
    let _ ← oneSign ["+", "-"]
    let right ← Rule.term.read
    pure (.sum left right)

/-- Products and quotients. -/
def term : Reading Node := operations ["*", "/", "//", "%", "@"] Rule.factor.read

/-- A power. -/
def power : Reading Node := do
  let base ← Rule.awaited.read
  let exponent ← optional (do sign "**"; Rule.factor.read)
  pure (if exponent.isSome then .form .operation else base)

/-- A value with signs in front of it. -/
def factor : Reading Node :=
  (do
    let s ← oneSign ["+", "-", "~"]
    let n ← Rule.factor.read
    pure (if s = "~" then .form .operation else .signed n)) <|> power

/-- A value that is waited for. -/
def awaited : Reading Node :=
  (do
    keyword "await"
    let _ ← Rule.primary.read
    pure (.form .awaiting)) <|> Rule.primary.read

/-! ## Questions -/

/-- The operator of a comparison; whether it asks for a member. -/
def comparisonOperator : Reading Bool :=
  (do
    let _ ← oneSign ["==", "!=", "<=", "<", ">=", ">"]
    pure false) <|>
  (do
    keyword "not"
    keyword "in"
    pure false) <|>
  (do
    keyword "in"
    pure true) <|>
  (do
    keyword "is"
    keyword "not"
    pure false) <|>
  (do
    keyword "is"
    pure false)

/-- The right side of a comparison. -/
def comparisonSide : Reading Bool :=
  let side := fun (operator : Reading Bool) => do
    let isMembership ← operator
    let _ ← Rule.bitOr.read
    pure isMembership
  side comparisonOperator <|> side (do keyword "is"; pure false)

/-- A comparison. -/
def comparison : Reading Node := do
  let left ← Rule.bitOr.read
  let sides ← many comparisonSide
  match sides with
  | [] => pure left
  | isMembership :: _ => pure (.comparison isMembership left)

/-- A question that may be turned round. -/
def inversion : Reading Node :=
  (do
    keyword "not"
    let _ ← Rule.inversion.read
    pure (.form .operation)) <|> comparison

/-- Questions with a word between them. -/
def joinedBy (word : String) (question : Reading Node) : Reading Node := do
  let first ← question
  let more ← many (do keyword word; question)
  pure (if more.isEmpty then first else .form .operation)

/-- Questions of which all are asked. -/
def conjunction : Reading Node := joinedBy "and" Rule.inversion.read

/-- Questions of which one is asked. -/
def disjunction : Reading Node := joinedBy "or" Rule.conjunction.read

/-! ## Expressions -/

/-- A value or another, as a condition decides. -/
def conditional : Reading Node := do
  let _ ← Rule.disjunction.read
  keyword "if"
  let _ ← Rule.disjunction.read
  keyword "else"
  let _ ← Rule.expression.read
  pure (.form .condition)

/-- Expressions with commas between them, perhaps with stars. -/
def starExpressions : Reading Node := valueOrTuple Rule.starExpression.read

/-- An expression, perhaps with a star. -/
def starExpression : Reading Node :=
  (do
    sign "*"
    let n ← Rule.bitOr.read
    pure (.starred n)) <|> Rule.expression.read

/-- Names of commands, which take what follows them between parentheses. -/
def commands : List String := ["print", "exec"]

/-- Whether a node is the name of a command. -/
def Node.isCommand : Node → Bool
  | .name w => commands.contains w
  | _ => false

/-- The names that are keywords in some places. -/
def softKeywords : List String := ["_", "case", "match"]

/-- A name in front of which nothing is said about a missing comma. -/
def exempt : Reading Unit :=
  (do
    let _ ← name
    let _ ← text
    pure ()) <|>
  (do
    let w ← name
    guard (softKeywords.contains w))

/-- Two values side by side within brackets. -/
def sideBySide : Reading Node := do
  notAhead exempt
  let left ← Rule.disjunction.read
  let _ ← quietly (conditional <|> Rule.disjunction.read <|> function)
  guard (!left.isCommand && (← isInside))
  raise .missingComma

/-- A condition without an alternative. -/
def withoutAlternative : Reading Node := do
  let _ ← Rule.disjunction.read
  keyword "if"
  let _ ← Rule.disjunction.read
  notAhead (keyword "else" <|> sign ":")
  raise .missingAlternative

/-- The name of a command, and values behind it without parentheses. -/
def commandWithout : Reading Node := do
  let w ← name
  notAhead (sign "(")
  let _ ← starExpressions
  guard (commands.contains w)
  raise (.command w)

/-- An expression. -/
def expression : Reading Node :=
  explaining (sideBySide <|> withoutAlternative) <|> explaining commandWithout <|>
    conditional <|> Rule.disjunction.read <|> function

/-! ## Names for values -/

/-- A name for a value, and the value. -/
def named : Reading Node := do
  let _ ← name
  sign ":="
  let _ ← Rule.expression.read
  pure (.form .naming)

/-- An expression that is not given to a name. -/
def unnamed : Reading Node := do
  let n ← Rule.expression.read
  notAhead (sign ":=")
  pure n

/-- An expression, perhaps with a name for it. -/
def namedExpression : Reading Node :=
  named <|> explaining Rule.misnamed.read <|> unnamed

end Literal
end ComponentCensus
