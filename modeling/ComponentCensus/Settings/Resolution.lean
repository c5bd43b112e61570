import ComponentCensus.Settings.ScanSettings
import ComponentCensus.Text.AnyCase

/-!
# Resolving settings

Settings come from four places: the configuration file of the project, a configuration file that
was asked for, the environment, and the caller.  For each setting the last of these that gives it
a value wins, and its value is taken whole.

* `overlay` — named values with those of a higher place laid over them.
* `environmentEntries` — what the environment sets.
* `callerEntries` — what a caller sets, with the two flags for the verbosity resolved.
* `resolve` — the settings.
-/

set_option autoImplicit false

namespace ComponentCensus
namespace Settings

/-! ## Laying values over others -/

/-- Named values with the value of one name set; a new name is put at the end. -/
def setEntry (entries : Entries) (key : String) (v : Value) : Entries :=
  if (entries.lookup key).isSome then
    entries.map fun e => if e.1 = key then (key, v) else e
  else entries ++ [(key, v)]

/-- Named values with those of `upper` laid over them. -/
def overlay (lower upper : Entries) : Entries :=
  upper.foldl (fun entries e => setEntry entries e.1 e.2) lower

/-- Named values without those of one name. -/
def dropEntry (entries : Entries) (key : String) : Entries := entries.filter fun e => e.1 ≠ key

/-! ## The environment -/

/-- The words for true. -/
def trueWords : List String := ["true", "1", "yes", "on"]

/-- The words for false. -/
def falseWords : List String := ["false", "0", "no", "off"]

/-- The truth value that a word stands for.  The words are ASCII, and no character beyond ASCII
has one of their letters as its small letter. -/
def booleanOf (s : String) : Except Requirement Bool :=
  let word := Text.lowerAscii s
  if trueWords.contains word then .ok true
  else if falseWords.contains word then .ok false
  else .error (.isBooleanWord s)

/-- The value that a text of the environment stands for, by the name of the setting; the scoring
cannot be set there. -/
def environmentValue (key text : String) : Except Requirement (Option Value) :=
  match key with
  | "blacklist" => .ok (some (.list ((namesIn (some text)).map .text)))
  | "complexity" => (booleanOf text).map fun b => some (.bool b)
  | "scoring" => .ok none
  | _ => .ok (some (.text text))

/-- The variable of a setting. -/
def variableName (key : String) : String :=
  "SFC_INSIGHT_" ++ String.ofList (key.toList.map Char.toUpper)

/-- What the environment sets, for the settings with the given names. -/
def environmentEntriesFor (environment : List (String × String)) :
    List String → Except Failure Entries
  | [] => .ok []
  | key :: keys =>
    match environment.lookup (variableName key) with
    | none => environmentEntriesFor environment keys
    | some text =>
      match environmentValue key text with
      | .error requirement => .error (.invalidSetting (variableName key) (.text text) requirement)
      | .ok none => environmentEntriesFor environment keys
      | .ok (some v) => (environmentEntriesFor environment keys).map ((key, v) :: ·)

/-- What the environment sets. -/
def environmentEntries (environment : List (String × String)) : Except Failure Entries :=
  environmentEntriesFor environment ScanSettings.fieldNames

/-! ## The caller -/

/-- Named values in which a flag that is switched on has set the verbosity. -/
def resolveFlag (entries : Entries) (flag : String) (verbosity : Verbosity) : Entries :=
  match entries.lookup flag with
  | none => entries
  | some v =>
    dropEntry (if v.isTrue then setEntry entries "verbosity" (.text verbosity.name) else entries)
      flag

/-- What a caller sets: silence wins over verbosity, and nothing sets nothing. -/
def callerEntries (overrides : Entries) : Entries :=
  (resolveFlag (resolveFlag overrides "verbose" .verbose) "quiet" .quiet).filter fun e =>
    match e.2 with
    | .nothing => false
    | _ => true

/-! ## All together -/

/-- The scoring among named values. -/
def scoringIn (entries : Entries) : Except Failure Scoring :=
  match entries.lookup "scoring" with
  | none => .ok .usual
  | some .nothing => .ok .usual
  | some (.scoring s) => .ok s
  | some (.table weights) =>
    match scoringOf weights with
    | .ok s => .ok s
    | .error rejection => .error (.ofScoringRejection rejection)
  | some v => .error (.invalidSetting "scoring" v .isTable)

/-- The settings that the four places add up to. -/
def resolve (project explicit : Entries) (environment : List (String × String))
    (overrides : Entries) : Except Failure (ScanSettings Scoring) := do
  let fromEnvironment ← environmentEntries environment
  let merged := overlay (overlay (overlay project explicit) fromEnvironment)
    (callerEntries overrides)
  let scoring ← scoringIn merged
  match ScanSettings.ofEntries merged scoring with
  | .ok settings => .ok settings
  | .error rejection => .error (.ofRejection rejection)

end Settings
end ComponentCensus
