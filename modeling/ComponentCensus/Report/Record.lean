import ComponentCensus.Census.Summary
import ComponentCensus.Json.Value

/-!
# The report for machines

* `Summary.json` — a summary as a JSON value: the counts, then the breakdown or `null`, which
  lists the modules of each tier and then the assessments of each tier.
-/

set_option autoImplicit false

namespace ComponentCensus

/-- An assessment as a JSON value. -/
def Assessment.json (a : Assessment) : Json :=
  .object
    [("file_name", .text a.fileName), ("path", .text a.path), ("module_name", .text a.moduleName),
      ("score", .int a.score), ("tier", .text a.tier.name),
      ("lifecycle_hook_count", .int a.hooks), ("computed_count", .int a.computedEntries),
      ("methods_count", .int a.methodEntries), ("has_watchers", .bool a.hasWatchers),
      ("has_mixins", .bool a.hasMixins), ("has_filters", .bool a.hasFilters),
      ("has_props", .bool a.hasProps), ("has_data", .bool a.hasData)]

/-- A breakdown as a JSON value. -/
def Breakdown.json (b : Breakdown) : Json :=
  .object
    [("modules", .object (Tier.all.map fun t =>
        (t.name, .object ((b.forTier t).modules.map fun m => (m.1, .int m.2))))),
      ("details", .object (Tier.all.map fun t =>
        (t.name, .list ((b.forTier t).details.map Assessment.json))))]

/-- A summary as a JSON value. -/
def Summary.json (s : Summary) : Json :=
  .object
    [("total", .int s.total), ("options_count", .int s.options),
      ("composition_count", .int s.composition), ("template_only_count", .int s.templateOnly),
      ("unclassified_count", .int s.unclassified),
      ("unclassified_example", .text s.exampleUnclassified), ("dropped_count", .int s.dropped),
      ("complexity", (s.complexity.map Breakdown.json).getD .null)]

end ComponentCensus
