import ComponentCensus.Number.Decimal
import ComponentCensus.Scoring
import ComponentCensus.Settings.Moment
import ComponentCensus.Text.Quoted

/-!
# Setting values

A value as a configuration file, the environment or a caller hands it in, before it is known to
be of the right kind.

* `Value` — the kinds of value, tables with their keys in order.
* `Value.message` — a value as it reads in a message; `Value.shown` — as it reads inside a list or a
  table, where texts are quoted.
* `Value.isTrue` — whether a value counts as switched on.
* `Value.members?` — what a value yields when it is gone through: the members of a list, the
  characters of a text, the keys of a table.
-/

set_option autoImplicit false

namespace ComponentCensus
namespace Settings

open Number Text

/-- A setting value. -/
inductive Value where
  | nothing
  | bool (b : Bool)
  | int (n : Int)
  | real (x : Binary64)
  | text (s : String)
  | moment (m : Moment)
  | list (vs : List Value)
  | table (entries : List (String × Value))
  /-- A scoring that a caller has already checked. -/
  | scoring (s : Scoring)
deriving Repr, Inhabited

namespace Value

/-- The name of the kind of a value. -/
def kind : Value → String
  | nothing => "NoneType"
  | bool _ => "bool"
  | int _ => "int"
  | real _ => "float"
  | text _ => "str"
  | moment m => m.kind
  | list _ => "list"
  | table _ => "dict"
  | scoring _ => "ScoringConfig"

/-- The text of a scoring. -/
def scoringText (s : Scoring) : String :=
  "ScoringConfig(" ++
    String.intercalate ", " (s.fields.map fun f => f.1 ++ "=" ++ toString f.2) ++ ")"

mutual

/-- A value as it reads inside a list or a table. -/
def shown : Value → String
  | nothing => "None"
  | bool b => if b then "True" else "False"
  | int n => toString n
  | real x => x.text
  | text s => quoted s
  | moment m => m.shown
  | list vs => "[" ++ String.intercalate ", " (shownAll vs) ++ "]"
  | table entries => "\x7b" ++ String.intercalate ", " (shownEntries entries) ++ "\x7d"
  | scoring s => scoringText s

/-- The members of a list as they read there. -/
def shownAll : List Value → List String
  | [] => []
  | v :: vs => v.shown :: shownAll vs

/-- The entries of a table as they read there. -/
def shownEntries : List (String × Value) → List String
  | [] => []
  | (k, v) :: entries => (quoted k ++ ": " ++ v.shown) :: shownEntries entries

end

/-- A value as it reads in a message. -/
def message : Value → String
  | text s => s
  | moment m => m.text
  | v => v.shown

/-- Whether a value counts as switched on: it is not nothing, zero or empty. -/
def isTrue : Value → Bool
  | nothing => false
  | bool b => b
  | int n => n != 0
  | real x => !x.isZero
  | text s => !s.isEmpty
  | moment _ => true
  | list vs => !vs.isEmpty
  | table entries => !entries.isEmpty
  | scoring _ => true

/-- What a value yields when it is gone through; the other kinds of value cannot be. -/
def members? : Value → Option (List Value)
  | text s => some (s.toList.map fun c => .text (String.singleton c))
  | list vs => some vs
  | table entries => some (entries.map fun e => .text e.1)
  | _ => none

/-- Whether a value can be a member of a set. -/
def isHashable : Value → Bool
  | list _ => false
  | table _ => false
  | _ => true

end Value
end Settings
end ComponentCensus
