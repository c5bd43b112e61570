import ComponentCensus.Files.FileSystem
import ComponentCensus.Settings.Resolution
import ComponentCensus.Toml.Reader

/-!
# Loading settings

* `projectFile` — the configuration file of the project, which is read if it is there.
* `load` — the settings of the configuration files, the environment and the caller.
-/

set_option autoImplicit false

namespace ComponentCensus
namespace Settings

/-- The name of the configuration file of the project. -/
def projectFileName : String := "sfc-insight.toml"

/-- The configuration file of the project. -/
def projectFile (fs : FileSystem) : Path := fs.workingDirectory.child projectFileName

/-- Why settings cannot be loaded. -/
inductive LoadFailure where
  /-- A failure that is reported to the user. -/
  | reported (failure : Failure)
  /-- A look at a path fails. -/
  | lookFailed (path : Path) (reason : Reason)
deriving Repr, Inhabited

/-- Whether there is something at a path. -/
def isThere (fs : FileSystem) (path : Path) : Except LoadFailure Bool :=
  match fs.visit path with
  | none => .ok false
  | some (.missing _) => .ok false
  | some (.blocked reason) => .error (.lookFailed path reason)
  | some _ => .ok true

/-- The table of the configuration file at a path. -/
def tableAt (fs : FileSystem) (path : Path) : Except Toml.Fault Toml.Table :=
  match fs.visit path with
  | none => .error (.unreadable .noEntry)
  | some s =>
    match s.bytes with
    | .error reason => .error (.unreadable reason)
    | .ok bytes => Toml.tableOfBytes bytes

/-- What the configuration file of the project sets. -/
def projectEntries (fs : FileSystem) : Except LoadFailure Entries := do
  let path := projectFile fs
  if ← isThere fs path then
    match tableAt fs path with
    | .ok table => return table
    | .error fault => throw (.reported (.projectUnusable path fault.message))
  return []

/-- What the configuration file that was asked for sets; it has to be there. -/
def explicitEntries (fs : FileSystem) : Option Path → Except LoadFailure Entries
  | none => .ok []
  | some path => do
    if ← isThere fs path then
      match tableAt fs path with
      | .ok table => return table
      | .error fault => throw (.reported (.configUnusable path fault.message))
    throw (.reported (.configMissing path))

/-- The settings of the configuration files, the environment and the caller. -/
def load (fs : FileSystem) (configFile : Option Path) (environment : List (String × String))
    (overrides : Entries) : Except LoadFailure (ScanSettings Scoring) := do
  let project ← projectEntries fs
  let explicit ← explicitEntries fs configFile
  match resolve project explicit environment overrides with
  | .ok settings => return settings
  | .error failure => throw (.reported failure)

end Settings
end ComponentCensus
