import ComponentCensus.Settings.Blacklist

/-!
# Scan settings

The settings of a scan and the checks that they pass.

* `scoringOf` — a scoring from a table of weights and boundaries.
* `ScanSettings` — the settings.  What stands for the scoring is not looked at by the checks, so
  it is a parameter.
* `ScanSettings.ofEntries` — the settings that some named values stand for.
-/

set_option autoImplicit false

namespace ComponentCensus
namespace Settings

/-- Named values. -/
abbrev Entries := List (String × Value)

/-! ## Scoring -/

/-- The weight that a value stands for: an integer that is not negative. -/
def weightOf (key : String) (v : Value) : Except Rejection Nat :=
  match v with
  | .int n => if 0 ≤ n then .ok n.toNat else .error (.value key v .isNotNegative)
  | _ => .error (.value key v .isInteger)

/-- The weight of a name, which may be left out. -/
def weightIn (entries : Entries) (key : String) (default : Nat) : Except Rejection Nat :=
  match entries.lookup key with
  | none => .ok default
  | some v => weightOf key v

/-- The scoring that a table stands for; what it leaves out is as usual. -/
def scoringOf (entries : Entries) : Except Rejection Scoring := do
  checkNames "ScoringConfig" Scoring.fieldNames (entries.map Prod.fst)
  let usual := Scoring.usual
  let mixins ← weightIn entries "mixins_weight" usual.mixins
  let watchImmediate ← weightIn entries "watch_immediate_weight" usual.watchImmediate
  let watchDeep ← weightIn entries "watch_deep_weight" usual.watchDeep
  let filters ← weightIn entries "filters_weight" usual.filters
  let lifecycleHook ← weightIn entries "lifecycle_hook_weight" usual.lifecycleHook
  let computedEntry ← weightIn entries "computed_entry_weight" usual.computedEntry
  let methodEntry ← weightIn entries "method_entry_weight" usual.methodEntry
  let simpleWatch ← weightIn entries "simple_watch_weight" usual.simpleWatch
  let highThreshold ← weightIn entries "high_threshold" usual.highThreshold
  let mediumThreshold ← weightIn entries "medium_threshold" usual.mediumThreshold
  if medium_le_high : mediumThreshold ≤ highThreshold then
    .ok
      { mixins, watchImmediate, watchDeep, filters, lifecycleHook, computedEntry, methodEntry,
        simpleWatch, highThreshold, mediumThreshold, medium_le_high }
  else
    .error (.value "medium_threshold" (.int mediumThreshold) (.isAtMostHigh highThreshold))

/-! ## Settings of a scan -/

/-- How much a scan reports beside its result. -/
inductive Verbosity where
  | quiet
  | normal
  | verbose
deriving Repr, DecidableEq, Inhabited

namespace Verbosity

/-- The name of a verbosity. -/
def name : Verbosity → String
  | quiet => "quiet"
  | normal => "normal"
  | verbose => "verbose"

/-- The verbosity of a name. -/
def ofName? : String → Option Verbosity
  | "quiet" => some quiet
  | "normal" => some normal
  | "verbose" => some verbose
  | _ => none

end Verbosity

/-- The settings of a scan. -/
structure ScanSettings (σ : Type) where
  /-- The root of the scan. -/
  folder : String
  /-- Further directories to skip. -/
  blacklist : List Value
  /-- Whether components are scored. -/
  complexity : Value
  /-- How the name of a component file ends. -/
  extension : String
  /-- How much is reported. -/
  verbosity : Verbosity
  /-- How components are scored. -/
  scoring : σ
deriving Repr

namespace ScanSettings

/-- The names of the settings, in the order in which they are looked at. -/
def fieldNames : List String :=
  ["folder", "blacklist", "complexity", "extension", "verbosity", "scoring"]

/-- The value of a name, which may be left out. -/
def valueIn (entries : Entries) (key : String) (default : Value) : Value :=
  (entries.lookup key).getD default

/-- The text of a name. -/
def textIn (entries : Entries) (key default : String) : Except Rejection String :=
  match valueIn entries key (.text default) with
  | .text s => .ok s
  | v => .error (.value key v .isText)

/-- The directories that a value lists; a text lists them between commas. -/
def blacklistOf (v : Value) : Except Rejection (List Value) :=
  match v with
  | .text s => .ok ((namesIn (some s)).map .text)
  | _ =>
    match v.members? with
    | some members => .ok members
    | none => .error (.shape (.notIterable v.kind))

/-- The settings that some named values stand for; what they leave out is as usual. -/
def ofEntries {σ : Type} (entries : Entries) (scoring : σ) :
    Except Rejection (ScanSettings σ) := do
  checkNames "ScanConfig" fieldNames (entries.map Prod.fst)
  let folder ← textIn entries "folder" "."
  let extension ← textIn entries "extension" ".vue"
  let verbosityName ← textIn entries "verbosity" "normal"
  if folder = "" then throw (.value "folder" (.text folder) .isNotEmpty)
  if extension.toList.head? ≠ some '.' then
    throw (.value "extension" (.text extension) .startsWithDot)
  let some verbosity := Verbosity.ofName? verbosityName
    | throw (.value "verbosity" (.text verbosityName) .isVerbosity)
  let blacklist ← blacklistOf (valueIn entries "blacklist" (.list []))
  return { folder, blacklist, complexity := valueIn entries "complexity" (.bool false), extension,
           verbosity, scoring }

end ScanSettings
end Settings
end ComponentCensus
