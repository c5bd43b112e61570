import ComponentCensus.Component.Assessment

/-!
# Summaries

The outcome of a census.  A census makes them by counting, but they can be made by hand as well,
so the numbers are arbitrary integers.

* `Section` — one tier of the complexity breakdown: how many components each module has, the
  modules in the order in which they were first seen, and the assessments in the order of the
  census.
* `Breakdown` — the three sections.
* `Summary` — the counts of all styles, an example without a style of its own, and the breakdown if
  components were scored.
* `Summary.agrees` — equality, except that the order of modules does not matter.
-/

set_option autoImplicit false

namespace ComponentCensus

/-- One tier of the complexity breakdown. -/
structure Section where
  /-- The number of components of each module. -/
  modules : List (String × Int) := []
  /-- The assessments of the components. -/
  details : List Assessment := []
deriving Repr, DecidableEq, Inhabited

namespace Section

/-- The number of components that the modules add up to. -/
def total (s : Section) : Int := s.modules.foldr (fun m n => m.2 + n) 0

/-- The count of a module raised by one; a module that is not yet listed is put at the end. -/
def countModule (name : String) : List (String × Int) → List (String × Int)
  | [] => [(name, 1)]
  | (n, k) :: rest => if n = name then (n, k + 1) :: rest else (n, k) :: countModule name rest

/-- The section with one more assessment. -/
def add (s : Section) (a : Assessment) : Section :=
  { modules := countModule a.moduleName s.modules, details := s.details ++ [a] }

/-- Whether two lists of counts are equal up to order; neither names a module twice. -/
def sameCounts (a b : List (String × Int)) : Bool :=
  a.length == b.length && a.all fun e => b.lookup e.1 == some e.2

/-- Equality of sections up to the order of modules. -/
def agrees (a b : Section) : Bool := sameCounts a.modules b.modules && a.details == b.details

end Section

/-- The complexity breakdown. -/
structure Breakdown where
  low : Section := {}
  medium : Section := {}
  high : Section := {}
deriving Repr, DecidableEq, Inhabited

namespace Breakdown

/-- The section of a tier. -/
def forTier (b : Breakdown) : Tier → Section
  | .low => b.low
  | .medium => b.medium
  | .high => b.high

/-- The breakdown with one more assessment in the section of its tier. -/
def add (b : Breakdown) (a : Assessment) : Breakdown :=
  match a.tier with
  | .low => { b with low := b.low.add a }
  | .medium => { b with medium := b.medium.add a }
  | .high => { b with high := b.high.add a }

/-- Equality of breakdowns up to the order of modules. -/
def agrees (a b : Breakdown) : Bool := Tier.all.all fun t => (a.forTier t).agrees (b.forTier t)

end Breakdown

/-- The outcome of a census. -/
structure Summary where
  /-- The number of components. -/
  total : Int := 0
  /-- How many have the options style. -/
  options : Int := 0
  /-- How many have the composition style. -/
  composition : Int := 0
  /-- How many are templates without a script. -/
  templateOnly : Int := 0
  /-- How many have a script in which nothing was recognised. -/
  unclassified : Int := 0
  /-- The path of one of the latter, empty if there is none. -/
  exampleUnclassified : String := ""
  /-- The breakdown, if components were scored. -/
  complexity : Option Breakdown := none
deriving Repr, DecidableEq, Inhabited

namespace Summary

/-- The number of components with a style. -/
def classified (s : Summary) : Int :=
  s.options + s.composition + s.templateOnly + s.unclassified

/-- The number of components without a style. -/
def dropped (s : Summary) : Int := s.total - s.classified

/-- Equality of summaries up to the order of modules. -/
def agrees (a b : Summary) : Bool :=
  { a with complexity := none } == { b with complexity := none } &&
    match a.complexity, b.complexity with
    | none, none => true
    | some x, some y => x.agrees y
    | _, _ => false

end Summary
end ComponentCensus
