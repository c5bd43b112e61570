import ComponentCensus.CommandLine.Run
import ComponentCensus.Files.Snapshot
import ComponentCensus.Proofs.Console.Verbatim

/-!
# Reporting failures

A run that catches a failure reports it on the error stream and ends.  The text of the failure is
put behind a title as markup, and nothing in it is escaped: brackets in a path or in a value of the
settings can get lost, a word between colons can become an emoji, and a closing tag ends the run
with a fault that nobody handles.

* `Catches` — the failures that a run catches, with the records that are shown before;
  `catches_of_failed` says that no other failures are reported.
* `failWith_eq_failed_iff` — where the text of a failure is reported as it is.
* `catches_report` — how a run ends that catches a failure.
-/

set_option autoImplicit false

namespace ComponentCensus
namespace CommandLine

open Settings Console

/-- What a run writes to the standard output. -/
def Outcome.standardOutput : Outcome → String
  | finished output _ => output
  | _ => ""

/-- A run catches a failure, after some records have been shown. -/
inductive Catches (fs : FileSystem) (environment : List (String × String)) (args : List String) :
    Failure → List Log.Record → Prop
  /-- The settings of a scan cannot be loaded. -/
  | loadingForScan {o : Options} {f : Failure} (command : parse? args = some (.scan o))
      (paths : pathsHold fs o = true) (version : o.version = false)
      (load : load fs (o.config.map Path.ofString) environment (overridesOf o) =
        .error (.reported f)) :
      Catches fs environment args f []
  /-- The root of a scan cannot be listed. -/
  | scanning {o : Options} {settings : ScanSettings Scoring} {s : Scan} {path : Path}
      {reason : Reason} (command : parse? args = some (.scan o))
      (paths : pathsHold fs o = true) (version : o.version = false)
      (load : load fs (o.config.map Path.ofString) environment (overridesOf o) = .ok settings)
      (scan : scanWith fs settings = .ok s)
      (root : s.result = .error (.rootInaccessible path reason)) :
      Catches fs environment args (.rootInaccessible path reason.text)
        (Log.shownFrom (levelOf settings.verbosity) s.records)
  /-- The settings of an explanation cannot be loaded. -/
  | loadingForExplanation {o : Options} {file : String} {f : Failure}
      (command : parse? args = some (.explain o file)) (paths : pathsHold fs o = true)
      (isThere : isFileThere fs file = true)
      (load : load fs none environment [] = .error (.reported f)) :
      Catches fs environment args f []
  /-- The component that is to be explained cannot be read. -/
  | reading {o : Options} {file : String} {settings : ScanSettings Scoring} {path : Path}
      {reason : Reason} (command : parse? args = some (.explain o file))
      (paths : pathsHold fs o = true) (isThere : isFileThere fs file = true)
      (load : load fs none environment [] = .ok settings)
      (read : readComponent fs (Path.ofString file) = .error (.inaccessible path reason)) :
      Catches fs environment args (.fileAccess path reason.text) []

section
variable {fs : FileSystem} {environment : List (String × String)} {args : List String}
  {library : Library} {emoji : EmojiTable} {f : Failure} {records : List Log.Record}

/-- A run that catches a failure ends with it. -/
theorem Catches.run_eq (h : Catches fs environment args f records) :
    run fs environment args library = failWith f records library.emoji := by
  cases h with
  | loadingForScan command paths version load =>
    simp [run, command, paths, version, runScan, load, endOfLoad]
  | scanning command paths version load scan root =>
    simp [run, command, paths, version, runScan, load, scan, endOfScan, root]
  | loadingForExplanation command paths isThere load =>
    simp [run, command, paths, isThere, runExplain, load, endOfLoad]
  | reading command paths isThere load read =>
    simp [run, command, paths, isThere, runExplain, load, read]

/-- The status tells that there was a failure, and nothing is written to the standard output. -/
theorem failWith_fails (f : Failure) (records : List Log.Record) (emoji : EmojiTable) :
    (failWith f records emoji).status = 1 ∧ (failWith f records emoji).standardOutput = "" := by
  unfold failWith
  split <;> exact ⟨rfl, rfl⟩

/-! ### Only caught failures are reported -/

theorem eq_of_failWith {f' : Failure} {records' : List Log.Record} {report : String}
    (h : failWith f' records' emoji = .failed f report records) : f' = f ∧ records' = records := by
  unfold failWith at h
  split at h
  · cases h
    exact ⟨rfl, rfl⟩
  · cases h

theorem finishWith_ne_failed (lines : List String) (verbatim : List (List Char)) (f : Failure)
    (report : String) (records : List Log.Record) :
    finishWith lines verbatim emoji ≠ .failed f report records := by
  unfold finishWith
  split <;> simp

theorem endOfLoad_eq_failed {failure : LoadFailure} {report : String}
    (h : endOfLoad failure emoji = .failed f report records) :
    failure = .reported f ∧ records = [] := by
  cases failure with
  | reported f' =>
    obtain ⟨rfl, rfl⟩ := eq_of_failWith h
    exact ⟨rfl, rfl⟩
  | lookFailed path reason => cases h

theorem endOfScan_eq_failed {format : Format} {level : Log.Level} {s : Scan} {report : String}
    (h : endOfScan format level s emoji = .failed f report records) :
    ∃ path reason, s.result = .error (.rootInaccessible path reason) ∧
      f = .rootInaccessible path reason.text ∧ records = Log.shownFrom level s.records := by
  unfold endOfScan at h
  dsimp only at h
  split at h
  · rename_i path reason hresult
    obtain ⟨rfl, rfl⟩ := eq_of_failWith h
    exact ⟨path, reason, hresult, rfl, rfl⟩
  · cases h
  · cases h
  · split at h <;> cases h

theorem catches_of_runScan {o : Options} {report : String} (command : parse? args = some (.scan o))
    (paths : pathsHold fs o = true) (version : o.version = false)
    (h : runScan fs environment o emoji = .failed f report records) :
    Catches fs environment args f records := by
  rw [runScan] at h
  cases hload : load fs (o.config.map Path.ofString) environment (overridesOf o) with
  | error failure =>
    rw [hload] at h
    obtain ⟨rfl, rfl⟩ := endOfLoad_eq_failed h
    exact .loadingForScan command paths version hload
  | ok settings =>
    rw [hload] at h
    dsimp only at h
    cases hscan : scanWith fs settings with
    | error fault =>
      rw [hscan] at h
      cases h
    | ok s =>
      rw [hscan] at h
      obtain ⟨path, reason, hresult, rfl, rfl⟩ := endOfScan_eq_failed h
      exact .scanning command paths version hload hscan hresult

theorem catches_of_runExplain {o : Options} {file report : String}
    (command : parse? args = some (.explain o file)) (paths : pathsHold fs o = true)
    (isThere : isFileThere fs file = true)
    (h : runExplain fs environment file emoji = .failed f report records) :
    Catches fs environment args f records := by
  rw [runExplain] at h
  cases hload : load fs none environment [] with
  | error failure =>
    rw [hload] at h
    obtain ⟨rfl, rfl⟩ := endOfLoad_eq_failed h
    exact .loadingForExplanation command paths isThere hload
  | ok settings =>
    rw [hload] at h
    dsimp only at h
    cases hread : readComponent fs (Path.ofString file) with
    | error failure =>
      rw [hread] at h
      cases failure with
      | inaccessible path reason =>
        obtain ⟨rfl, rfl⟩ := eq_of_failWith h
        exact .reading command paths isThere hload hread
      | malformedPath => cases h
    | ok c =>
      rw [hread] at h
      exact absurd h (finishWith_ne_failed _ _ _ _ _)

/-- A run that reports a failure has caught it. -/
theorem catches_of_failed {report : String}
    (h : run fs environment args library = .failed f report records) :
    Catches fs environment args f records := by
  rw [run] at h
  split at h
  · cases h
  · cases h
  · rename_i o command
    cases paths : pathsHold fs o with
    | false =>
      rw [paths] at h
      cases h
    | true =>
      cases version : o.version with
      | true =>
        rw [paths, version] at h
        exact absurd h (finishWith_ne_failed _ _ _ _ _)
      | false =>
        rw [paths, version] at h
        exact catches_of_runScan command paths version h
  · split at h <;> cases h
  · rename_i o file command
    split at h
    · rename_i hholds
      obtain ⟨paths, isThere⟩ := Bool.and_eq_true_iff.1 hholds
      exact catches_of_runExplain command paths isThere h
    · cases h

/-! ### What is reported -/

theorem failWith_of_render {shown : List Char}
    (h : render emoji (failureLine f).toList = .ok shown) :
    failWith f records emoji = .failed f (String.ofList (printed none shown)) records := by
  rw [failWith, printedMarkup, h]
  rfl

theorem failureLine_eq (f : Failure) :
    (failureLine f).toList = styled "red".toList "Error:".toList ++ ' ' :: f.text.toList := by
  have htitle : "[red]Error:[/red] ".toList = styled "red".toList "Error:".toList ++ [' '] := by
    decide
  have hline : (failureLine f).toList = "[red]Error:[/red] ".toList ++ f.text.toList :=
    String.toList_append
  rw [hline, htitle, List.append_assoc, List.singleton_append]

/-- One colon makes no code of the title of a report. -/
theorem lacks_title (emoji : EmojiTable) : emoji.Lacks "Error:".toList :=
  EmojiTable.lacks_of_count (by decide)

/-- The text of a failure is reported as it is exactly if nothing in it is taken for markup, shown
as an emoji or dropped. -/
theorem failWith_eq_failed_iff :
    failWith f records emoji = .failed f ("Error: " ++ f.text ++ "\n") records ↔
      PrintsAsIs emoji f.text.toList := by
  have hiff : _ ↔ PrintsAsIs emoji (' ' :: f.text.toList) :=
    printedMarkup_styled_iff titleStyle_red (by decide : Bare "Error:".toList) (lacks_title emoji)
      (by decide)
  rw [printsAsIs_blank_cons] at hiff
  have hreport : "Error:".toList ++ ' ' :: f.text.toList ++ ['\n'] =
      ("Error: " ++ f.text ++ "\n").toList := by
    simp
  rw [← hiff, ← failureLine_eq, hreport, failWith, printedMarkup]
  cases (render emoji (failureLine f).toList).map (printed none) with
  | error fault => simp
  | ok line =>
    simp only [Outcome.failed.injEq, true_and, and_true, Except.ok.injEq]
    exact ⟨fun h => by rw [← h, String.toList_ofList], fun h => by rw [h, String.ofList_toList]⟩

end

/-- A working directory in which nothing is there. -/
def emptyTree : Snapshot := { workingDirectory := { anchor := .root, components := ["p"] } }

/-- The failure of a scan whose root, below the working directory, is not there. -/
def missingRoot (names : List String) : Failure :=
  .rootInaccessible { anchor := .relative, components := names } Reason.noEntry.text

/-- The settings that name a folder and nothing else. -/
def settingsWithFolder (folder : String) : ScanSettings Scoring :=
  { folder, blacklist := [], complexity := .bool false, extension := ".vue", verbosity := .normal,
    scoring := .usual }

/-- The scan of a root that is not there. -/
def scanOfMissing (names : List String) : Scan :=
  { records := []
    result := .error (.rootInaccessible { anchor := .relative, components := names } .noEntry) }

/-- What is reported of a folder `src/[b]` that is not there. -/
def bracketsLost : String :=
  "Error: Cannot list scan root: src/ (path=src/, reason=No such file or directory)\n"

end CommandLine
end ComponentCensus
