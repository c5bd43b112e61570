import ComponentCensus.Component.Features
import ComponentCensus.Component.Module
import ComponentCensus.Log

/-!
# Assessments

* `Component` — one component file: its path as given and its text.
* `Assessment` — the score of an options component and the signals that contributed to it.
  Assessments can be made by hand as well, so their numbers are arbitrary integers.
* `Component.assess` — the assessment of a component under a scoring; `Assessment.logRecord` is
  the record that it leaves.
-/

set_option autoImplicit false

namespace ComponentCensus

/-- A component file. -/
structure Component where
  /-- The path of the file. -/
  path : String
  /-- Its text. -/
  content : String
deriving Repr, DecidableEq, Inhabited

/-- The score of a component and what contributed to it. -/
structure Assessment where
  /-- The last component of the path. -/
  fileName : String
  /-- The path as it was given. -/
  path : String
  /-- The module that the path points to. -/
  moduleName : String
  /-- The score. -/
  score : Int
  /-- The tier of the score. -/
  tier : Tier
  /-- How often a lifecycle hook is defined or called. -/
  hooks : Int := 0
  /-- The estimated number of computed entries. -/
  computedEntries : Int := 0
  /-- The estimated number of methods. -/
  methodEntries : Int := 0
  /-- Whether there are blocks of watchers. -/
  hasWatchers : Bool := false
  /-- Whether there is a list of mixins. -/
  hasMixins : Bool := false
  /-- Whether there is a block of filters. -/
  hasFilters : Bool := false
  /-- Whether props are declared. -/
  hasProps : Bool := false
  /-- Whether data is declared. -/
  hasData : Bool := false
deriving Repr, DecidableEq, Inhabited

namespace Component

/-- The assessment of a component under a scoring. -/
def assess (c : Component) (scoring : Scoring) : Assessment :=
  let f := Features.ofText c.content.toList
  let score := scoring.score f
  { fileName := (Path.ofString c.path).name
    path := c.path
    moduleName := moduleOf c.path
    score := score
    tier := scoring.tierOf score
    hooks := f.hooks
    computedEntries := f.computedEntries
    methodEntries := f.methodEntries
    hasWatchers := decide (0 < f.watchBlocks)
    hasMixins := f.hasMixins
    hasFilters := f.hasFilters
    hasProps := f.hasProps
    hasData := f.hasData }

end Component

/-- The record that an assessment leaves in the log. -/
def Assessment.logRecord (a : Assessment) : Log.Record :=
  { channel := .scoring
    level := .debug
    text := "Scored " ++ a.path ++ ": " ++ toString a.score ++ " (" ++ a.tier.name ++ ")" }

end ComponentCensus
