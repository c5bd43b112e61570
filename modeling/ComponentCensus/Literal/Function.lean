import ComponentCensus.Literal.Reading

/-!
# Functions without a name

* `function` — the parameters of a function, and its value.
* `parameters` — first the parameters that are given by place alone, up to a slash, then others,
  then the rest behind a star and the table behind two stars.
* `parameterFault` — what can be wrong with parameters.

Parameters without a default come before those with one.  Behind a parameter stands a comma, unless
the colon of the function follows.
-/

set_option autoImplicit false

namespace ComponentCensus
namespace Literal

open Reading

/-- A comma, or else the colon of the function, which is not taken. -/
def parameterEnd : Reading Unit := sign "," <|> ahead (sign ":")

/-- The default of a parameter. -/
def parameterDefault : Reading Unit :=
  (do
    sign "="
    let _ ← Rule.expression.read
    pure ()) <|>
  explaining (do
    sign "="
    ahead (oneSign [")", ","])
    raise (.parameters .noDefault))

/-- A parameter without a default. -/
def plainParameter : Reading Unit := do
  let _ ← name
  parameterEnd

/-- A parameter with a default. -/
def defaultParameter : Reading Unit := do
  let _ ← name
  parameterDefault
  parameterEnd

/-- A parameter, perhaps with a default. -/
def anyParameter : Reading Unit := do
  let _ ← name
  let _ ← optional parameterDefault
  parameterEnd

/-- Parameters without defaults, up to a slash. -/
def plainBeforeSlash : Reading Unit := do
  let _ ← many1 plainParameter
  sign "/"
  parameterEnd

/-- Parameters of which the last ones have defaults, up to a slash. -/
def defaultsBeforeSlash : Reading Unit := do
  let _ ← many plainParameter
  let _ ← many1 defaultParameter
  sign "/"
  parameterEnd

/-! ## What can be wrong -/

/-- Whether a slash stands where it may not stand, or something else is wrong with parameters. -/
def parameterFault : Reading Unit :=
  let beforeSlash := plainBeforeSlash <|> defaultsBeforeSlash
  (do
    let _ ← many plainParameter
    defaultsBeforeSlash <|> discard (many1 defaultParameter)
    plainParameter
    raise (.parameters .defaultFirst)) <|>
  (do
    let _ ← many plainParameter
    sign "("
    let _ ← separated name
    let _ ← optional (sign ",")
    sign ")"
    raise (.parameters .parenthesized)) <|>
  (do
    sign "/"
    sign ","
    raise (.parameters .slashFirst)) <|>
  (do
    beforeSlash
    let _ ← many anyParameter
    sign "/"
    raise (.parameters .slashTwice)) <|>
  (do
    let _ ← optional beforeSlash
    let _ ← many anyParameter
    sign "*"
    sign "," <|> plainParameter
    let _ ← many anyParameter
    sign "/"
    raise (.parameters .slashAfterStar)) <|>
  (do
    let _ ← many1 anyParameter
    sign "/"
    sign "*"
    raise (.parameters .starAtSlash))

/-- What can be wrong with the parameters from a star on. -/
def starFault : Reading Unit :=
  (do
    sign "*"
    sign ":" <|> (do sign ","; sign ":" <|> sign "**")
    raise (.parameters .loneStar)) <|>
  (do
    sign "*"
    let _ ← name
    sign "="
    raise (.parameters .starDefault)) <|>
  (do
    sign "*"
    plainParameter <|> sign ","
    let _ ← many anyParameter
    sign "*"
    plainParameter <|> sign ","
    raise (.parameters .starTwice))

/-- What can be wrong with the parameters from two stars on. -/
def doubleStarFault : Reading Unit :=
  (do
    sign "**"
    let _ ← name
    sign "="
    raise (.parameters .doubleStarDefault)) <|>
  (do
    sign "**"
    let _ ← name
    sign ","
    let _ ← name
    raise (.parameters .afterDoubleStar)) <|>
  (do
    sign "**"
    let _ ← name
    sign ","
    let _ ← oneSign ["*", "**", "/"]
    raise (.parameters .afterDoubleStar))

/-! ## Parameters -/

/-- The parameter behind two stars. -/
def doubleStarParameter : Reading Unit :=
  explaining doubleStarFault <|> (do sign "**"; plainParameter)

/-- The parameters from a star on. -/
def starParameters : Reading Unit :=
  explaining starFault <|>
  (do
    sign "*"
    plainParameter
    let _ ← many anyParameter
    discard (optional doubleStarParameter)) <|>
  (do
    sign "*"
    sign ","
    let _ ← many1 anyParameter
    discard (optional doubleStarParameter)) <|>
  doubleStarParameter

/-- The parameters of a function. -/
def parameters : Reading Unit :=
  (do
    plainBeforeSlash
    let _ ← many plainParameter
    let _ ← many defaultParameter
    discard (optional starParameters)) <|>
  (do
    defaultsBeforeSlash
    let _ ← many defaultParameter
    discard (optional starParameters)) <|>
  (do
    let _ ← many1 plainParameter
    let _ ← many defaultParameter
    discard (optional starParameters)) <|>
  (do
    let _ ← many1 defaultParameter
    discard (optional starParameters)) <|>
  starParameters

/-- A function without a name. -/
def function : Reading Node := do
  keyword "lambda"
  let _ ← optional (explaining parameterFault <|> parameters)
  sign ":"
  let _ ← Rule.expression.read
  pure (.form .function)

end Literal
end ComponentCensus
