import ComponentCensus.CommandLine.Places
import ComponentCensus.Files.Snapshot

/-!
# The command line

Takes a snapshot of the places that a run looks at, runs the command line on it, and prints what
comes of it.  The console has no emoji, and there is no help.
-/

set_option autoImplicit false

namespace ComponentCensus
namespace CommandLine

/-! ## Looking at the disk -/

/-- The system code of an error, if it has one that matters here. -/
def systemCode : IO.Error → UInt32
  | .noFileOrDirectory _ code _ => code
  | .noSuchThing _ code _ => code
  | .permissionDenied _ code _ => code
  | .inappropriateType _ code _ => code
  | .invalidArgument _ code _ => code
  | .resourceExhausted _ code _ => code
  | .unsatisfiedConstraints code _ => code
  | .illegalOperation code _ => code
  | .otherError code _ => code
  | _ => 0

/-- The number of a system code, which may be given with its sign changed. -/
def numberOfCode (code : UInt32) : Nat := min code.toNat (-code).toNat

/-- The cause that an error stands for. -/
def reasonOf (e : IO.Error) : Reason :=
  (Reason.ofNumber? (numberOfCode (systemCode e))).getD (.other (toString e))

/-- The result of an action, or why it fails. -/
def attempt {α : Type} (action : IO α) : IO (Except Reason α) := do
  try
    return .ok (← action)
  catch e =>
    return .error (reasonOf e)

/-- Whether a path leads to a directory. -/
def leadsToDirectory (path : String) : IO Bool := do
  return (← ((← IO.currentDir) / path).metadata).type == .dir

/-- The names of the entries of a directory, in the order of their characters. -/
def namesAt (path : String) : IO (List String) := do
  let entries ← ((← IO.currentDir) / path).readDir
  return (entries.map (·.fileName)).toList.mergeSort fun a b => decide (a ≤ b)

/-- The path of a directory without links. -/
def realPathAt (path : String) : IO String := do
  return toString (← IO.FS.realPath path)

/-- The bytes of a file. -/
def bytesAt (path : String) : IO Bytes := do
  return (← IO.FS.readBinFile path).toList

/-- Why there is no result, if there is none. -/
def refusalOf {α : Type} : Except Reason α → Option Reason
  | .ok _ => none
  | .error reason => some reason

/-- What has been seen so far: the snapshot, and the numbers of the directories by their real
paths. -/
structure Survey where
  snapshot : Snapshot
  numbers : List (String × Nat) := []

/-- The number of a directory, and whether it is new. -/
def numberOf (survey : Survey) (realPath : String) : Survey × Nat × Bool :=
  match survey.numbers.lookup realPath with
  | some n => (survey, n, false)
  | none =>
    let (snapshot, n) := survey.snapshot.reserve
    ({ snapshot, numbers := (realPath, n) :: survey.numbers }, n, true)

/-- What is at a path that leads to no directory; a file that nobody wants to read is taken for an
empty one. -/
def fileAt (path : Path) (isWanted : Bool) : IO (Sighting Nat) := do
  if isWanted then
    return .file (← attempt (bytesAt path.text))
  return .file (.ok [])

/-- Whether a look shows something that may not be read. -/
def isForbidden : Sighting Nat → Bool
  | .file (.error .noPermission) => true
  | .directory _ (some .noPermission) => true
  | _ => false

/-- The snapshot with one more look at a path, and with what it tells of permissions. -/
def recordLook (snapshot : Snapshot) (path : Path) (seen : Sighting Nat) : Snapshot :=
  let recorded := snapshot.record path seen
  if isForbidden seen then { recorded with unreadable := path :: recorded.unreadable } else recorded

/-- What is at a path that is looked at once and not gone through. -/
def glance (path : Path) : IO (Sighting Nat) := do
  match ← attempt (leadsToDirectory path.text) with
  | .error reason => return if reason.isAbsence then .missing reason else .blocked reason
  | .ok true => return .directory (.error .noEntry) none
  | .ok false => fileAt path true

/-- What is at a path, with everything below it.  Files whose names do not end as asked for are not
read, and directories that are always skipped are not gone through. -/
partial def explore (tree : Tree) (survey : Survey) (path : Path) :
    IO (Survey × Sighting Nat) := do
  match ← attempt (leadsToDirectory path.text) with
  | .error reason =>
    return (survey, if reason.isAbsence then .missing reason else .blocked reason)
  | .ok false => return (survey, ← fileAt path (hasExtension tree.extension path.name))
  | .ok true =>
    if path.name == Settings.alwaysSkipped then
      return (survey, .directory (.error .noEntry) none)
    let listing ← attempt (namesAt path.text)
    match ← attempt (realPathAt path.text) with
    | .error reason => return (survey, .directory (.error reason) (refusalOf listing))
    | .ok realPath =>
      let (survey, n, isNew) := numberOf survey realPath
      if isNew then
        let mut survey := survey
        let mut entries := []
        for name in listing.toOption.getD [] do
          let (next, seen) ← explore tree survey (path.child name)
          survey := next
          entries := (name, seen) :: entries
        survey := { survey with snapshot := survey.snapshot.fill n entries.reverse }
        return (survey, .directory (.ok n) (refusalOf listing))
      return (survey, .directory (.ok n) (refusalOf listing))

/-- A snapshot of all places that a run looks at. -/
def takeSnapshot (environment : List (String × String)) (args : List String) : IO Snapshot := do
  let mut snapshot : Snapshot :=
    { workingDirectory := Path.ofString (toString (← IO.currentDir)) }
  for path in filesNamed snapshot.fileSystem args do
    snapshot := recordLook snapshot path (← glance path)
  match treeOf? snapshot.fileSystem environment args with
  | none => return snapshot
  | some tree =>
    let (survey, seen) ← explore tree { snapshot } tree.root
    return recordLook survey.snapshot tree.root seen

/-! ## Running -/

/-- The settings in the environment. -/
def readEnvironment : IO (List (String × String)) :=
  variableNames.filterMapM fun name => do
    return (← IO.getEnv name).map fun value => (name, value)

/-- A record as it is shown on the error stream. -/
def recordLine (r : Log.Record) : String := r.level.name ++ " " ++ r.channel.name ++ ": " ++ r.text

/-- Prints what comes of a run. -/
def printOutcome (outcome : Outcome) : IO Unit := do
  match outcome with
  | .finished output records =>
    records.forM fun r => IO.eprintln (recordLine r)
    IO.print output
  | .failed _ report records =>
    records.forM fun r => IO.eprintln (recordLine r)
    IO.eprint report
  | .misused => return ()
  | .crashed crash => IO.eprintln crash.message

end CommandLine
end ComponentCensus

/-- Runs the command line. -/
def main (args : List String) : IO UInt32 := do
  let environment ← ComponentCensus.CommandLine.readEnvironment
  let snapshot ← ComponentCensus.CommandLine.takeSnapshot environment args
  let outcome := ComponentCensus.CommandLine.run snapshot.fileSystem environment args
  ComponentCensus.CommandLine.printOutcome outcome
  return outcome.status.toUInt32
