import ComponentCensus.Literal.Fault

/-!
# What a text is read as

A literal is a number, a text, one of the words `True`, `False` and `None`, an ellipsis, or a tuple,
a set or a table of literals.  Names, calls, conditions and most arithmetic are read too, but have
no value: of arithmetic only a sign in front of a number has one, and the sum of a real and an
imaginary number.

* `Node` — what a text is read as.
* `Node.description` — how a node is named where it may not stand.
* `Node.unassignable?` — the first part of a node that cannot take values in turn.
* `Node.check` — whether a node has a value: members of sets and keys of tables are neither sets
  nor tables.
-/

set_option autoImplicit false

namespace ComponentCensus
namespace Literal

/-- The forms that have no value. -/
inductive Form where
  | property
  | call
  | operation
  | condition
  | function
  | naming
  | generator
  | eachSet
  | eachTable
  | yielding
  | awaiting
  | filledText
deriving Repr, DecidableEq, Inhabited

/-- How a form is named. -/
def Form.description : Form → String
  | property => "attribute"
  | call => "function call"
  | operation => "expression"
  | condition => "conditional expression"
  | function => "lambda"
  | naming => "named expression"
  | generator => "generator expression"
  | eachSet => "set comprehension"
  | eachTable => "dict comprehension"
  | yielding => "yield expression"
  | awaiting => "await expression"
  | filledText => "f-string expression"

/-- What a text is read as. -/
inductive Node where
  | name (word : String)
  | number (isImaginary : Bool)
  | text
  /-- One of the words `True`, `False` and `None`. -/
  | word (word : String)
  | ellipsis
  /-- A plus or a minus in front of something. -/
  | signed (of : Node)
  /-- A sum or a difference. -/
  | sum (left right : Node)
  /-- A comparison; whether its first question is for a member. -/
  | comparison (isMembership : Bool) (left : Node)
  | tuple (items : List Node)
  /-- A set.  One without members is written as a call. -/
  | set (items : List Node)
  | table (pairs : List (Node × Node))
  | starred (of : Node)
  | form (form : Form)
  /-- The missing key of a table that is spread into another one. -/
  | blank
deriving Repr, Inhabited

namespace Node

/-- How a node is named where it may not stand. -/
def description : Node → String
  | name _ => "name"
  | number _ => "literal"
  | text => "literal"
  | word w => w
  | ellipsis => "ellipsis"
  | signed _ => "expression"
  | sum _ _ => "expression"
  | comparison _ _ => "comparison"
  | tuple _ => "tuple"
  | set [] => "function call"
  | set _ => "set display"
  | table _ => "dict literal"
  | starred _ => "starred"
  | form f => f.description
  | blank => "None"

/-- The first part of a node that cannot take values in turn.  In front of the members that are
taken in turn only the left side of the question for a member counts. -/
def unassignable? : Node → Option Node
  | name _ => none
  | form .property => none
  | tuple items => firstUnassignable? items
  | starred n => n.unassignable?
  | comparison isMembership left => if isMembership then left.unassignable? else none
  | n => some n
where
  /-- The first part of some nodes that cannot take values in turn. -/
  firstUnassignable? : List Node → Option Node
    | [] => none
    | n :: ns => n.unassignable?.or (firstUnassignable? ns)

/-! ## Values -/

/-- Why a value can be no member of a set and no key of a table. -/
def unhashable? : Node → Option Fault
  | set _ => some (.unhashable "set")
  | table _ => some (.unhashable "dict")
  | tuple items => firstUnhashable? items
  | _ => none
where
  /-- Why the first of some values that can be no member is none. -/
  firstUnhashable? : List Node → Option Fault
    | [] => none
    | n :: ns => n.unhashable?.or (firstUnhashable? ns)

/-- Whether a node is a real number, with a sign or without. -/
def isReal : Node → Bool
  | number isImaginary => !isImaginary
  | signed (number isImaginary) => !isImaginary
  | _ => false

mutual

/-- The first thing for which a node has no value. -/
def check : Node → Option Fault
  | number _ => none
  | text => none
  | word _ => none
  | ellipsis => none
  | signed (number _) => none
  | sum left (number true) => if left.isReal then none else some .noLiteral
  | tuple items => checkItems false items
  | set items => checkItems true items
  | table pairs => checkPairs pairs
  | blank => some .spread
  | _ => some .noLiteral

/-- The first thing for which some items have no value, or may not be members. -/
def checkItems (areMembers : Bool) : List Node → Option Fault
  | [] => none
  | n :: ns =>
    (check n).or ((if areMembers then n.unhashable? else none).or (checkItems areMembers ns))

/-- The first thing for which some pairs have no value. -/
def checkPairs : List (Node × Node) → Option Fault
  | [] => none
  | (k, v) :: pairs => (check k).or ((check v).or (k.unhashable?.or (checkPairs pairs)))

end

end Node

end Literal
end ComponentCensus
