import ComponentCensus.Census.Scan
import ComponentCensus.CommandLine.Arguments
import ComponentCensus.Report.Format
import ComponentCensus.Settings.Load

/-!
# Running a command

* `Outcome` — how a run ends: with a report, with a failure that is reported on the error stream,
  with arguments that make no sense, or with a fault that nobody handles.
* `Library` — what the run takes from the library of the command line.
* `isFileThere`, `isFolder` — what is asked of the paths among the arguments before a command runs.
* `explanation` — the lines that explain one component.
* `run` — the outcome of a command line on a file system.
-/

set_option autoImplicit false

namespace ComponentCensus
namespace CommandLine

open Settings Console

/-- A fault that nobody handles. -/
inductive Crash where
  /-- Settings that do not have the right shape. -/
  | shape (fault : FieldFault)
  /-- A report that cannot be written. -/
  | report (fault : ReportFault)
  /-- A path that is no path. -/
  | malformedPath
  /-- A look at a path fails. -/
  | lookFailed (path : Path) (reason : Reason)
deriving Repr, Inhabited

/-- A fault in words. -/
def Crash.message : Crash → String
  | shape fault => fault.message
  | report fault => fault.message
  | malformedPath => malformedPathMessage
  | lookFailed path reason => reason.report path

/-- How a run ends. -/
inductive Outcome where
  /-- With something on the standard output. -/
  | finished (output : String) (records : List Log.Record)
  /-- With a failure, which is reported on the error stream. -/
  | failed (failure : Failure) (report : String) (records : List Log.Record)
  /-- With arguments that make no sense. -/
  | misused
  /-- With a fault that nobody handles. -/
  | crashed (crash : Crash)
deriving Repr, Inhabited

namespace Outcome

/-- The exit status of a run. -/
def status : Outcome → Nat
  | finished _ _ => 0
  | misused => 2
  | _ => 1

end Outcome

/-- The version of the program. -/
def version : String := "0.1.0"

/-- What is printed when the version is asked for. -/
def versionLine : String :=
  "[bold cyan]SFC Insight[/bold cyan] version [green]" ++ version ++ "[/green]"

/-- What a run takes from the library of its command line, which knows the emoji of the console and
writes the help. -/
structure Library where
  /-- The emoji of the console. -/
  emoji : EmojiTable := .empty
  /-- What is printed when help is asked for. -/
  help : String := ""
  /-- What is printed when help on the explanation of a file is asked for. -/
  explainHelp : String := ""

/-- The line that reports a failure.  The text of the failure is taken as markup. -/
def failureLine (f : Failure) : String := "[red]Error:[/red] " ++ f.text

/-- The end of a run with a failure. -/
def failWith (f : Failure) (records : List Log.Record) (emoji : EmojiTable := .empty) : Outcome :=
  match printedMarkup emoji none (failureLine f) with
  | .ok line => .failed f (String.ofList line) records
  | .error fault => .crashed (.report (.markup fault))

/-- The end of a run with some marked-up lines, and lines after them that are no markup. -/
def finishWith (lines : List String) (verbatim : List (List Char)) (emoji : EmojiTable) :
    Outcome :=
  match printedAll emoji none lines with
  | .ok cs =>
    .finished (String.ofList (cs ++ (verbatim.map (printedVerbatim emoji none)).flatten)) []
  | .error fault => .crashed (.report (.markup fault))

/-- The end of a run whose settings cannot be loaded. -/
def endOfLoad (failure : LoadFailure) (emoji : EmojiTable) : Outcome :=
  match failure with
  | .reported failure => failWith failure [] emoji
  | .lookFailed path reason => .crashed (.lookFailed path reason)

/-! ## Paths among the arguments -/

/-- Whether a text names something that is there, is no directory and may be read.  The library
makes a path of the text before it looks there, so that neither a slash nor a point at its end asks
for a directory. -/
def isFileThere (fs : FileSystem) (text : String) : Bool :=
  match fs.visit (Path.ofString text) with
  | some (.file _) => fs.mayRead (Path.ofString text)
  | _ => false

/-- Whether a text names a path that can be looked for, and may be read if something is there. -/
def isFolder (fs : FileSystem) (text : String) : Bool :=
  match fs.visit (Path.ofString text) with
  | none => false
  | some (.missing _) => true
  | some (.blocked _) => true
  | some _ => fs.mayRead (Path.ofString text)

/-- Whether the options name a configuration file that is there, if they name one, and a folder
that can be looked for, if they name one. -/
def pathsHold (fs : FileSystem) (o : Options) : Bool :=
  o.config.all (isFileThere fs) && o.folder.all (isFolder fs)

/-! ## Scanning -/

/-- What the options set. -/
def overridesOf (o : Options) : Entries :=
  (o.folder.map fun f => ("folder", Value.text (Path.ofString f).text)).toList ++
    (o.blacklist.map fun b =>
      ("blacklist", Value.list ((namesIn (some b)).map .text))).toList ++
    (if o.complexity then [("complexity", .bool true)] else []) ++
    (if o.verbose then [("verbose", .bool true)] else []) ++
    (if o.quiet then [("quiet", .bool true)] else [])

/-- The level from which on records are shown under a verbosity. -/
def levelOf (v : Verbosity) : Log.Level :=
  (Log.Setup.ofFlags (decide (v = .verbose)) (decide (v = .quiet))).level

/-- The scan that some settings ask for. -/
def scanWith (fs : FileSystem) (settings : ScanSettings Scoring) : Except FieldFault Scan := do
  let skip ← skippedNames (.list settings.blacklist)
  return scan fs (Path.ofString settings.folder) skip settings.extension
    (if settings.complexity.isTrue then some settings.scoring else none)

/-- The end of a run with a scan. -/
def endOfScan (format : Format) (level : Log.Level) (s : Scan) (emoji : EmojiTable) : Outcome :=
  let shown := Log.shownFrom level s.records
  match s.result with
  | .error (.rootInaccessible path reason) =>
    failWith (.rootInaccessible path reason.text) shown emoji
  | .error .malformedRoot => .crashed .malformedPath
  | .error (.lookFailed path reason) => .crashed (.lookFailed path reason)
  | .ok summary =>
    match format.output summary emoji with
    | .ok output => .finished output shown
    | .error fault => .crashed (.report fault)

/-- The run of a scan. -/
def runScan (fs : FileSystem) (environment : List (String × String)) (o : Options)
    (emoji : EmojiTable) : Outcome :=
  match load fs (o.config.map Path.ofString) environment (overridesOf o) with
  | .error failure => endOfLoad failure emoji
  | .ok settings =>
    match scanWith fs settings with
    | .error fault => .crashed (.shape fault)
    | .ok s =>
      endOfScan (if o.json then .json else .text) (levelOf settings.verbosity) s emoji

/-! ## Explaining -/

/-- Yes or no. -/
def yesNo (b : Bool) : String := if b then "yes" else "no"

/-- Names between commas, or a hyphen. -/
def namesOrHyphen (names : List String) : String :=
  if names.isEmpty then "-" else String.intercalate ", " names

/-- The lines that tell how a component is classified. -/
def traceLines (path : String) (t : Trace) : List String :=
  ["[bold]" ++ embedded path ++ "[/bold]",
    "Classification: [cyan]" ++ (t.style.map Style.name).getD "none" ++ "[/cyan]",
    "Template region: " ++ yesNo t.hasTemplate, "Script region: " ++ yesNo t.hasScript,
    "Composition signals: " ++ namesOrHyphen t.composition,
    "Options signals: " ++ namesOrHyphen t.options]

/-- The lines that tell how a component is scored. -/
def assessmentLines (a : Assessment) : List String :=
  ["", "Module: " ++ embedded a.moduleName,
    "Score: " ++ toString a.score ++ " (" ++ a.tier.name ++ ")",
    " - Lifecycle Hooks: " ++ toString a.hooks,
    " - Computed Properties: " ++ toString a.computedEntries,
    " - Methods: " ++ toString a.methodEntries, " - Mixins: " ++ yesNo a.hasMixins,
    " - Filters: " ++ yesNo a.hasFilters, " - Watchers: " ++ yesNo a.hasWatchers,
    " - Props: " ++ yesNo a.hasProps, " - Data: " ++ yesNo a.hasData]

/-- The lines that explain a component: marked-up lines, and texts after them that are printed as
they are. -/
def explanation (scoring : Scoring) (c : Component) : List String × List (List Char) :=
  let t := traceOf c.content.toList
  let lines := traceLines c.path t
  match t.style with
  | some .options => (lines ++ assessmentLines (c.assess scoring), [])
  | some .unclassified => (lines ++ ["", "Script content:"], [scriptText c.content.toList])
  | _ => (lines, [])

/-- The run of an explanation. -/
def runExplain (fs : FileSystem) (environment : List (String × String)) (file : String)
    (emoji : EmojiTable) : Outcome :=
  match load fs none environment [] with
  | .error failure => endOfLoad failure emoji
  | .ok settings =>
    match readComponent fs (Path.ofString file) with
    | .error (.inaccessible path reason) => failWith (.fileAccess path reason.text) [] emoji
    | .error .malformedPath => .crashed .malformedPath
    | .ok c =>
      let (lines, verbatim) := explanation settings.scoring c
      finishWith lines verbatim emoji

/-! ## All commands -/

/-- The outcome of a command line on a file system.  Options are looked at before the command that
follows them, and help that is asked for among the options before anything else. -/
def run (fs : FileSystem) (environment : List (String × String)) (args : List String)
    (library : Library := {}) : Outcome :=
  match parse? args with
  | none => .misused
  | some .help => .finished library.help []
  | some (.scan o) =>
    if !pathsHold fs o then .misused
    else if o.version then finishWith [versionLine] [] library.emoji
    else runScan fs environment o library.emoji
  | some (.explainHelp o) =>
    if pathsHold fs o then .finished library.explainHelp [] else .misused
  | some (.explain o file) =>
    if pathsHold fs o && isFileThere fs file then runExplain fs environment file library.emoji
    else .misused

end CommandLine
end ComponentCensus
