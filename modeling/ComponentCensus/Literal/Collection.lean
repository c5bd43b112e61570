import ComponentCensus.Literal.Operation

/-!
# Tuples, sets and tables

* `eachClauses` — the members of something taken in turn, for each of which a value is made.
* `targets` — what takes the members.
* `tuple`, `group`, `generator` — what stands between parentheses.
* `table`, `set`, `eachTable`, `eachSet` — what stands between braces.
* `misnamed` — a value between brackets that is set to another one.
-/

set_option autoImplicit false

namespace ComponentCensus
namespace Literal

open Reading

/-! ## Members taken in turn -/

/-- Some targets with commas between them, which are no single one. -/
def targetTuple : Reading Unit :=
  (do
    let _ ← Rule.starTarget.read
    let _ ← many1 (do sign ","; Rule.starTarget.read)
    discard (optional (sign ","))) <|>
  (do
    let _ ← Rule.starTarget.read
    sign ",")

/-- A name, or targets between parentheses. -/
def plainTarget : Reading Node :=
  (do
    let w ← name
    pure (.name w)) <|>
  (do
    sign "("
    let n ← Rule.target.read
    sign ")"
    pure n) <|>
  (do
    sign "("
    let _ ← optional targetTuple
    sign ")"
    pure (.tuple []))

/-- What goes on with a value that has properties. -/
def ownerGoesOn : Reading Unit := ahead (oneSign ["(", "[", "."])

/-- What takes values in turn: a property, a name, or targets between parentheses. -/
def target : Reading Node :=
  (do
    let _ ← Rule.targetOwner.read
    sign "."
    let _ ← name
    notAhead ownerGoesOn
    pure (.form .property)) <|> plainTarget

/-- What takes values in turn, perhaps with a star. -/
def starTarget : Reading Node :=
  (do
    sign "*"
    notAhead (sign "*")
    let n ← Rule.starTarget.read
    pure (.starred n)) <|> Rule.target.read

/-- What takes the members of something. -/
def targets : Reading Unit := do
  let _ ← separated Rule.starTarget.read
  discard (optional (sign ","))

/-- What cannot take the members of something. -/
def targetFault : Reading Unit := do
  let _ ← optional (keyword "async")
  keyword "for"
  let n ← starExpressions
  match n.unassignable? with
  | some part => raise (.assignsTo part.description)
  | none => fail

/-- The members of something taken in turn, as far as some questions allow.  Once it is clear of
what the members are, nothing else can be meant. -/
def eachClause : Reading Unit := do
  let isClear ←
    (do
      let _ ← optional (keyword "async")
      keyword "for"
      targets
      keyword "in"
      pure true) <|> pure false
  if isClear then
    let _ ← Rule.disjunction.read
    discard (many (do keyword "if"; Rule.disjunction.read))
  else explaining targetFault

/-- The members of something taken in turn, and within that more. -/
def eachClauses : Reading Unit := discard (many1 eachClause)

/-! ## Members -/

/-- An expression behind a star, which may not stand alone. -/
def starredExpression : Reading Node :=
  (do
    sign "*"
    let n ← Rule.expression.read
    pure (.starred n)) <|>
  (do
    sign "*"
    raise .loneStar)

/-- A member, perhaps with a star. -/
def member : Reading Node :=
  (do
    sign "*"
    let n ← Rule.bitOr.read
    pure (.starred n)) <|> namedExpression

/-- Some members with commas between them and perhaps behind them. -/
def members : Reading (List Node) := do
  let ns ← separated member
  let _ ← optional (sign ",")
  pure ns

/-- What is wrong with values that are made for each member of something. -/
def eachFault : Reading Node :=
  (do
    let _ ← oneSign ["[", "(", "\x7b"]
    let _ ← starredExpression
    eachClauses
    raise .starredEach) <|>
  (do
    let _ ← oneSign ["[", "\x7b"]
    let _ ← member
    sign ","
    let _ ← members
    eachClauses
    raise .bareEach) <|>
  (do
    let _ ← oneSign ["[", "\x7b"]
    let _ ← member
    sign ","
    eachClauses
    raise .bareEach)

/-! ## Between parentheses -/

/-- A tuple. -/
def tuple : Reading Node := do
  sign "("
  let ns ← optional (do
    let n ← member
    sign ","
    let more ← optional members
    pure (n :: more.getD []))
  sign ")"
  pure (.tuple (ns.getD []))

/-- A function that stops for each of its values. -/
def yielding : Reading Node :=
  (do
    keyword "yield"
    keyword "from"
    let _ ← Rule.expression.read
    pure (.form .yielding)) <|>
  (do
    keyword "yield"
    let _ ← optional starExpressions
    pure (.form .yielding))

/-- A value with stars in front of it between parentheses. -/
def groupFault : Reading Node :=
  (do
    sign "("
    let _ ← starredExpression
    sign ")"
    raise .starred) <|>
  (do
    sign "("
    sign "**"
    let _ ← Rule.expression.read
    sign ")"
    raise .doubleStarred)

/-- A value between parentheses. -/
def group : Reading Node :=
  (do
    sign "("
    let n ← yielding <|> namedExpression
    sign ")"
    pure n) <|> explaining groupFault

/-- Values made for each member of something. -/
def generator : Reading Node :=
  (do
    sign "("
    let _ ← named <|> unnamed
    eachClauses
    sign ")"
    pure (.form .generator)) <|> explaining eachFault

/-- What is set to a value where it may not be.  Nothing is said about tuples. -/
def misnamed : Reading Node :=
  let goesOn := oneSign ["=", ":="]
  (do
    let n ← Rule.expression.read
    sign ":="
    let _ ← Rule.expression.read
    raise (.names n.description)) <|>
  (do
    let _ ← name
    sign "="
    let _ ← Rule.bitOr.read
    notAhead goesOn
    raise .assignsName) <|>
  (do
    notAhead (tuple <|> generator)
    notAhead (keyword "True" <|> keyword "None" <|> keyword "False")
    let n ← Rule.bitOr.read
    sign "="
    let _ ← Rule.bitOr.read
    notAhead goesOn
    raise (.assigns n.description))

/-! ## Between braces -/

/-- A key with its value. -/
def pair : Reading (Node × Node) := do
  let key ← Rule.expression.read
  sign ":"
  let value ← Rule.expression.read
  pure (key, value)

/-- A key with its value, or a table that is spread into this one. -/
def pairOrSpread : Reading (Node × Node) :=
  (do
    sign "**"
    let n ← Rule.bitOr.read
    pure (.blank, n)) <|> pair

/-- What is wrong with the value of a key. -/
def pairValueFault : Reading Unit :=
  (do
    let _ ← Rule.expression.read
    sign ":"
    sign "*"
    let _ ← Rule.bitOr.read
    raise .starredTableValue) <|>
  (do
    let _ ← Rule.expression.read
    sign ":"
    ahead (oneSign ["\x7d", ","])
    raise .keyWithoutValue)

/-- What is wrong with a key behind other keys. -/
def pairFault : Reading Unit :=
  (do
    let _ ← Rule.expression.read
    notAhead (sign ":")
    raise .keyWithoutColon) <|> pairValueFault

/-- A table, or what is wrong with its keys, which is always looked for. -/
def table : Reading Node :=
  (do
    sign "\x7b"
    let ps ← optional (do
      let ps ← separated pairOrSpread
      let _ ← optional (sign ",")
      pure ps)
    sign "\x7d"
    pure (.table (ps.getD []))) <|>
  (do
    sign "\x7b"
    (do
      let _ ← separated pairOrSpread
      sign ","
      pairFault) <|> pairValueFault
    fail)

/-- A set. -/
def set : Reading Node := do
  sign "\x7b"
  let ns ← members
  sign "\x7d"
  pure (.set ns)

/-- A table with a key and a value for each member of something. -/
def eachTable : Reading Node :=
  (do
    sign "\x7b"
    let _ ← pair
    eachClauses
    sign "\x7d"
    pure (.form .eachTable)) <|>
  explaining (do
    sign "\x7b"
    sign "**"
    let _ ← Rule.bitOr.read
    eachClauses
    sign "\x7d"
    raise .doubleStarredEach)

/-- A set with a member for each member of something. -/
def eachSet : Reading Node :=
  (do
    sign "\x7b"
    let _ ← namedExpression
    eachClauses
    sign "\x7d"
    pure (.form .eachSet)) <|> explaining eachFault

end Literal
end ComponentCensus
