import ComponentCensus.Census.Summary
import ComponentCensus.Component.Script
import ComponentCensus.Component.Style

/-!
# Running totals

A census takes components one after the other and keeps running totals.

* `Tally` — the totals so far; `Tally.new` — the totals before the first component.
* `Tally.add` — the totals with one more component; `Component.logRecords` — the records that the
  component leaves.
* `Tally.summary` — the totals as a summary.
* `census` — the summary of a list of components.
-/

set_option autoImplicit false

namespace ComponentCensus

/-- The running totals of a census. -/
structure Tally where
  /-- The scoring of options components, if they are scored. -/
  scoring : Option Scoring
  /-- The number of components so far. -/
  total : Nat := 0
  options : Nat := 0
  composition : Nat := 0
  templateOnly : Nat := 0
  unclassified : Nat := 0
  /-- The first path that is not empty among the unclassified components. -/
  exampleUnclassified : String := ""
  /-- The assessments so far. -/
  breakdown : Breakdown := {}
deriving Repr, DecidableEq

namespace Component

/-- The style of a component. -/
def style? (c : Component) : Option Style := styleOf? c.content.toList

/-- The script of a component. -/
def script (c : Component) : String := String.ofList (scriptText c.content.toList)

/-- The records that a component leaves when it is counted. -/
def logRecords (scoring : Option Scoring) (c : Component) : List Log.Record :=
  match c.style? with
  | none => [{ channel := .tally, level := .debug, text := "No category: " ++ c.path }]
  | some .options => (scoring.map fun s => (c.assess s).logRecord).toList
  | some .unclassified =>
    [{ channel := .diagnostics
       level := .warning
       text := "Unclassified SFC (" ++ c.path ++ "):\nScript content: " ++ c.script }]
  | some _ => []

end Component

namespace Tally

/-- The totals before the first component. -/
def new (scoring : Option Scoring) : Tally := { scoring }

/-- The totals with one more component. -/
def add (t : Tally) (c : Component) : Tally :=
  let t := { t with total := t.total + 1 }
  match c.style? with
  | none => t
  | some .templateOnly => { t with templateOnly := t.templateOnly + 1 }
  | some .composition => { t with composition := t.composition + 1 }
  | some .options =>
    let t := { t with options := t.options + 1 }
    match t.scoring with
    | none => t
    | some s => { t with breakdown := t.breakdown.add (c.assess s) }
  | some .unclassified =>
    { t with
      unclassified := t.unclassified + 1
      exampleUnclassified :=
        if t.exampleUnclassified.isEmpty then c.path else t.exampleUnclassified }

/-- The totals as a summary. -/
def summary (t : Tally) : Summary :=
  { total := t.total
    options := t.options
    composition := t.composition
    templateOnly := t.templateOnly
    unclassified := t.unclassified
    exampleUnclassified := t.exampleUnclassified
    complexity := t.scoring.map fun _ => t.breakdown }

end Tally

/-- The totals of a list of components. -/
def tallyOf (scoring : Option Scoring) (cs : List Component) : Tally :=
  cs.foldl Tally.add (Tally.new scoring)

/-- The summary of a list of components, which are scored if a scoring is given. -/
def census (scoring : Option Scoring) (cs : List Component) : Summary :=
  (tallyOf scoring cs).summary

end ComponentCensus
