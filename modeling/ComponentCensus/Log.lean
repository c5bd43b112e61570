/-!
# Log records

What the library reports beside its results.  A record has a channel, a level and a text; whoever
runs a scan decides from which level on records are shown.

* `Log.Record` — one record.
* `Log.channelName` — the full name of a channel.
* `Log.Setup.ofFlags` — where records go and from which level on.
-/

set_option autoImplicit false

namespace ComponentCensus
namespace Log

/-- How important a record is. -/
inductive Level where
  | debug
  | info
  | warning
  | error
  | critical
deriving Repr, DecidableEq, Inhabited

namespace Level

/-- The levels from the least to the most important one. -/
def all : List Level := [debug, info, warning, error, critical]

/-- The position of a level among all levels. -/
def rank : Level → Nat
  | debug => 0
  | info => 1
  | warning => 2
  | error => 3
  | critical => 4

/-- The name of a level. -/
def name : Level → String
  | debug => "DEBUG"
  | info => "INFO"
  | warning => "WARNING"
  | error => "ERROR"
  | critical => "CRITICAL"

/-- Whether a record of level `l` is shown from level `threshold` on. -/
def passes (threshold l : Level) : Bool := threshold.rank ≤ l.rank

end Level

/-- The part of the program that a record comes from. -/
inductive Channel where
  /-- The scoring of components. -/
  | scoring
  /-- The running totals and the scan as a whole. -/
  | tally
  /-- Components that no rule classifies. -/
  | diagnostics
  /-- The search for components. -/
  | walk
deriving Repr, DecidableEq, Inhabited

/-- The name that all channels start with. -/
def rootName : String := "sfc_insight"

/-- The full name of a channel: the root name, put in front of names that do not start with it. -/
def channelName : Option String → String
  | none => rootName
  | some name =>
    if rootName.toList.isPrefixOf name.toList then name else rootName ++ "." ++ name

/-- The name of a channel. -/
def Channel.name : Channel → String
  | scoring => channelName "analysis.complexity"
  | tally => channelName "analysis.aggregator"
  | diagnostics => channelName "diagnostics"
  | walk => channelName "scanning.traversal"

/-- A log record. -/
structure Record where
  /-- Where the record comes from. -/
  channel : Channel
  /-- How important it is. -/
  level : Level
  /-- What it says. -/
  text : String
deriving Repr, DecidableEq, Inhabited

/-- The records that are shown from a level on. -/
def shownFrom (threshold : Level) (records : List Record) : List Record :=
  records.filter fun r => threshold.passes r.level

/-- Where records go. -/
inductive Sink where
  /-- A console, on the error stream or on the output stream. -/
  | console (onErrorStream : Bool)
deriving Repr, DecidableEq, Inhabited

/-- How records are shown. -/
structure Setup where
  /-- The level from which on records are shown. -/
  level : Level
  /-- Where they are shown. -/
  sinks : List Sink
deriving Repr, DecidableEq, Inhabited

/-- The level asked for by two flags; silence wins. -/
def levelOfFlags (verbose quiet : Bool) : Level :=
  if quiet then .error else if verbose then .debug else .warning

/-- The setup asked for by two flags.  Records go to the error stream, so that they never mix
with a report. -/
def Setup.ofFlags (verbose quiet : Bool) : Setup :=
  { level := levelOfFlags verbose quiet, sinks := [.console true] }

/-- The levels that are shown under a setup. -/
def Setup.enabled (s : Setup) : List Level := Level.all.filter s.level.passes

end Log
end ComponentCensus
