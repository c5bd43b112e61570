import ComponentCensus.Census.Summary
import ComponentCensus.Console.Markup
import ComponentCensus.Number.Percentage

/-!
# The report for people

A summary as a list of marked-up lines: the counts with their shares, then, if components were
scored, the modules of each tier and the components of each module.  What comes from outside —
paths, file names, module names — is escaped, so it is shown as it is.

* `groupByModule` — assessments by module, the modules in the order in which they are first seen.
* `Summary.overview` — the lines, or `none` if a share is too large to be written.
-/

set_option autoImplicit false

namespace ComponentCensus

/-- A group of assessments with one more, which goes to the group of its module or opens a new one
at the end. -/
def addToGroups (a : Assessment) : List (String × List Assessment) →
    List (String × List Assessment)
  | [] => [(a.moduleName, [a])]
  | (name, group) :: groups =>
    if name = a.moduleName then (name, group ++ [a]) :: groups
    else (name, group) :: addToGroups a groups

/-- Assessments by module, the modules in the order in which they are first seen. -/
def groupByModule (records : List Assessment) : List (String × List Assessment) :=
  records.foldl (fun groups a => addToGroups a groups) []

/-- A text from outside as it is put into a line. -/
def embedded (s : String) : String := String.ofList (Console.escape s.toList)

/-- A line with a count and its share in a whole. -/
def shareLine (label : String) (count whole : Int) : Option String :=
  (Number.percentage count whole).map fun share =>
    label ++ ": " ++ toString count ++ " (" ++ share ++ ")"

/-- A title with the rule below it. -/
def titleLines (title rule : String) : List String :=
  ["[bold cyan]" ++ title ++ "[/bold cyan]", rule]

/-- The counts of the styles. -/
def Summary.countLines (s : Summary) : Option (List String) := do
  let options ← shareLine "Options API SFCs" s.options s.total
  let composition ← shareLine "Composition API SFCs" s.composition s.total
  let templateOnly ← shareLine "Template-only SFCs" s.templateOnly s.total
  let unclassified ← shareLine "Unclassified SFCs" s.unclassified s.total
  let exampleLine :=
    if 0 < s.unclassified then ["Example unclassified SFC: " ++ embedded s.exampleUnclassified]
    else []
  return [""] ++ titleLines "SFC Analysis" "============" ++ ["Total SFCs: " ++ toString s.total] ++
    [options, composition, templateOnly, unclassified] ++ exampleLine

/-- The colour in which a tier is shown. -/
def Tier.colour : Tier → String
  | low => "green"
  | medium => "yellow"
  | high => "red"

/-- The name of a tier as it begins a line. -/
def Tier.title : Tier → String
  | low => "Low"
  | medium => "Medium"
  | high => "High"

/-- The name of a tier as a heading. -/
def Tier.heading : Tier → String
  | low => "LOW"
  | medium => "MEDIUM"
  | high => "HIGH"

/-- The modules of a tier with their shares. -/
def Section.moduleLines (s : Section) (tier : Tier) (options : Int) : Option (List String) := do
  let title ← shareLine
    ("[" ++ tier.colour ++ "]" ++ tier.title ++ " Complexity[/" ++ tier.colour ++ "]")
    s.total options
  let modules ← s.modules.mapM fun m => shareLine ("    " ++ embedded m.1) m.2 s.total
  return ["", title] ++ modules

/-- What contributed to the score of a component. -/
def Assessment.factorLines (a : Assessment) : List String :=
  ["Complexity Factors:", " - Lifecycle Hooks: " ++ toString a.hooks,
    " - Computed Properties: " ++ toString a.computedEntries,
    " - Methods: " ++ toString a.methodEntries] ++
    (if a.hasMixins then [" - Uses mixins"] else []) ++
    (if a.hasFilters then [" - Uses filters"] else []) ++
    (if a.hasWatchers then [" - Has watchers"] else [])

/-- A component with its score. -/
def Assessment.lines (a : Assessment) (withFactors : Bool) : List String :=
  ["", "File: " ++ embedded a.fileName, "Path: " ++ embedded a.path,
    "Score: " ++ toString a.score] ++ if withFactors then a.factorLines else []

/-- The components of a tier by module.  Only for the high tier the factors are shown. -/
def Section.detailLines (s : Section) (tier : Tier) : List String :=
  ["", "[bold]" ++ tier.heading ++ " Complexity Components:[/bold]", "========================="] ++
    (groupByModule s.details).flatMap fun group =>
      ["", "Module: " ++ embedded group.1] ++
        group.2.flatMap fun a => a.lines (decide (tier = .high))

/-- The complexity part of the report. -/
def Breakdown.lines (b : Breakdown) (options : Int) : Option (List String) := do
  let tiers ← Tier.all.mapM fun t => (b.forTier t).moduleLines t options
  return [""] ++ titleLines "Complexity Analysis" "==================" ++ ["", "Breakdown:"] ++
    tiers.flatten ++ [""] ++ titleLines "Detailed Component List" "=====================" ++
    Tier.all.flatMap fun t => (b.forTier t).detailLines t

/-- The lines of the report. -/
def Summary.overview (s : Summary) : Option (List String) := do
  let counts ← s.countLines
  match s.complexity with
  | none => return counts
  | some b => return counts ++ (← b.lines s.options)

end ComponentCensus
