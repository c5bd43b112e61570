import ComponentCensus.Component.Entries
import ComponentCensus.Component.Signal
import ComponentCensus.Scoring

/-!
# Features and scores

What the scoring of an options component looks at.  Features are read off the text alone; a
scoring turns them into a number.

* `Features.ofText` — the counts and flags of a text.  The counted names are matched as written,
  the flags without regard to case.
* `Scoring.score` — the sum of all features times their weights.
-/

set_option autoImplicit false

namespace ComponentCensus

/-- The names of the lifecycle hooks. -/
def lifecycleHooks : List String :=
  ["created", "mounted", "beforeMount", "beforeCreate", "updated", "beforeUpdate", "destroyed",
    "beforeDestroy"]

/-- A lifecycle hook that is defined or called. -/
def hookCall : Pattern :=
  { startsWord := true
    choices := lifecycleHooks.map fun name => asWritten name ++ gap ++ mark '(' }

/-- The pieces of a block of an options object, up to the first closing brace. -/
def blockPieces (name : String) : List Piece :=
  entryPieces (asWritten name) '{' ++ upToMark '}' ++ mark '}'

/-- A block of computed entries. -/
def computedBlock : Pattern := .of (blockPieces "computed")

/-- A block of methods. -/
def methodsBlock : Pattern := .of (blockPieces "methods")

/-- A block of watchers. -/
def watchBlock : Pattern := .of (blockPieces "watch")

/-- A block of watchers with the given option switched on, up to the first closing brace. -/
def watchOption (name : String) : Pattern :=
  .of (entryPieces (anyCase "watch") '{' ++ upToMark '}' ++ anyCase name ++ gap ++ mark ':' ++
    gap ++ anyCase "true")

/-- A list of mixins. -/
def mixinsOption : Pattern := entry "mixins" '['

/-- A block of filters. -/
def filtersOption : Pattern := entry "filters" '{'

/-- The ways of declaring props. -/
def propsOptions : List Pattern := [entry "props" '{', entry "props" '[']

/-- The ways of declaring data. -/
def dataOptions : List Pattern := [method "data", entry "data" '(', entry "data" '{']

/-- What the scoring looks at. -/
structure Features where
  /-- How often a lifecycle hook is defined or called. -/
  hooks : Nat
  /-- The estimated number of computed entries. -/
  computedEntries : Nat
  /-- The estimated number of methods. -/
  methodEntries : Nat
  /-- The number of blocks of watchers. -/
  watchBlocks : Nat
  /-- Whether a watcher runs at once. -/
  watchesImmediately : Bool
  /-- Whether a watcher looks into its value. -/
  watchesDeeply : Bool
  /-- Whether there is a list of mixins. -/
  hasMixins : Bool
  /-- Whether there is a block of filters. -/
  hasFilters : Bool
  /-- Whether props are declared. -/
  hasProps : Bool
  /-- Whether data is declared. -/
  hasData : Bool
deriving Repr, DecidableEq

namespace Features

/-- The features of a text. -/
def ofText (text : List Char) : Features :=
  { hooks := (hookCall.matchesIn text).length
    computedEntries := entryCountAll (computedBlock.matchesIn text)
    methodEntries := entryCount ((methodsBlock.firstIn? text).getD [])
    watchBlocks := (watchBlock.matchesIn text).length
    watchesImmediately := (watchOption "immediate").occursIn text
    watchesDeeply := (watchOption "deep").occursIn text
    hasMixins := mixinsOption.occursIn text
    hasFilters := filtersOption.occursIn text
    hasProps := propsOptions.any (·.occursIn text)
    hasData := dataOptions.any (·.occursIn text) }

end Features

namespace Scoring

/-- The score of some features: each counts with its weight, a flag once if it is set. -/
def score (s : Scoring) (f : Features) : Nat :=
  f.hasMixins.toNat * s.mixins + f.watchesImmediately.toNat * s.watchImmediate +
    f.watchesDeeply.toNat * s.watchDeep + f.hasFilters.toNat * s.filters +
    f.hooks * s.lifecycleHook + f.computedEntries * s.computedEntry +
    f.methodEntries * s.methodEntry + f.watchBlocks * s.simpleWatch

end Scoring
end ComponentCensus
