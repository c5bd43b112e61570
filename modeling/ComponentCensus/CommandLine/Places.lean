import ComponentCensus.CommandLine.Run

/-!
# Places

The places that a run looks at.  Whoever runs a command line on a disk has to look there first.

* `filesNamed` — the configuration files and the component file that a run reads.
* `treeOf?` — the tree that a run goes through, which may be named in a configuration file.
* `variableNames` — the variables of the environment that settings are read from.
-/

set_option autoImplicit false

namespace ComponentCensus
namespace CommandLine

open Settings

/-- The variables of the environment that settings are read from. -/
def variableNames : List String := ScanSettings.fieldNames.map variableName

/-- The configuration file that the options name. -/
def Options.configPath? (o : Options) : Option Path := o.config.map Path.ofString

/-- The files that a run reads, given its working directory. -/
def filesNamed (fs : FileSystem) (args : List String) : List Path :=
  projectFile fs ::
    match parse? args with
    | some (.scan o) => o.configPath?.toList
    | some (.explain o file) => o.configPath?.toList ++ [Path.ofString file]
    | some (.explainHelp o) => o.configPath?.toList
    | _ => []

/-- A tree that a run goes through. -/
structure Tree where
  /-- Its root. -/
  root : Path
  /-- How the names of the files that are read end. -/
  extension : String
deriving Repr, DecidableEq

/-- The tree that a run goes through, given its configuration files. -/
def treeOf? (fs : FileSystem) (environment : List (String × String)) (args : List String) :
    Option Tree :=
  match parse? args with
  | some (.scan o) =>
    match load fs o.configPath? environment (overridesOf o) with
    | .ok settings =>
      some { root := Path.ofString settings.folder, extension := settings.extension }
    | .error _ => none
  | _ => none

end CommandLine
end ComponentCensus
