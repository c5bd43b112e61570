import ComponentCensus.CommandLine.Run
import ComponentCensus.Proofs.Census.Scan
import ComponentCensus.Proofs.Settings.Load

/-!
# Scanning with settings that were loaded

Whether a scan with settings that passed all checks ends as it should: with a summary, or with a
root that cannot be listed, which is reported.  The checks do not look at the members of the
blacklist, so a scan can still stumble over one that cannot be in a set.

* `Scan.EndsWell`, `scan_endsWell_iff` — where a scan ends as it should.
* `NestsBlacklist` — the blacklist that wins has a list or a table among its members.
* `scan_with_loaded_settings` — a scan with settings that were loaded ends as it should exactly if
  the blacklist does not nest, and the file system answers all looks.
-/

set_option autoImplicit false

namespace ComponentCensus

open Settings Console

/-! ## Scans -/

/-- A scan ends with a summary, or with a root that cannot be listed. -/
def Scan.EndsWell (s : Scan) : Prop :=
  (∃ summary, s.result = .ok summary) ∨
    ∃ path reason, s.result = .error (.rootInaccessible path reason)

/-- The name of the root is to be skipped, or the root is a path, and if it can be listed, no look
below it fails. -/
def FileSystem.Answers (fs : FileSystem) (skip : List String) (root : Path) : Prop :=
  root.name ∈ skip ∨
    ∃ seen, fs.visit root = some seen ∧ ∀ start, seen.listed = .ok start → fs.Looks skip start

section
variable {fs : FileSystem} {skip : List String} {extension : String}

/-- Below its root, a walk fails only at a look. -/
theorem Explores.failure_eq_lookFailed {entered : List fs.Directory}
    {pending : List (Pending fs.Directory)} {w : Walk fs.Directory}
    (h : Explores fs skip extension entered pending w) {f : WalkFailure}
    (hf : w.failure = some f) : ∃ path reason, f = .lookFailed path reason := by
  induction h with
  | done => cases hf
  | fail =>
    cases hf
    exact ⟨_, _, rfl⟩
  | pass _ _ _ _ hfailure _ _ ih => exact ih (hfailure ▸ hf)
  | find _ _ _ _ ih => exact ih hf
  | enter _ _ _ ih => exact ih hf

theorem scan_endsWell_iff {root : Path} {scoring : Option Scoring} :
    (scan fs root skip extension scoring).EndsWell ↔ fs.Answers skip root := by
  rw [Scan.EndsWell, scan_result_eq]
  by_cases hskip : root.name ∈ skip
  · rw [walk_of_mem_skip hskip]
    exact iff_of_true (.inl ⟨_, rfl⟩) (.inl hskip)
  · simp only [FileSystem.Answers, hskip, false_or]
    cases hvisit : fs.visit root with
    | none => simp [walk, hskip, hvisit]
    | some seen =>
      cases hlisted : seen.listed with
      | error reason => simp [walk, hskip, hvisit, hlisted]
      | ok start =>
        have hroot : fs.Lists root start := ⟨seen, hvisit, hlisted⟩
        have hlooks : (∃ seen', some seen = some seen' ∧
            ∀ start, seen'.listed = .ok start → fs.Looks skip start) ↔ fs.Looks skip start := by
          simp [hlisted]
        rw [hlooks, ← failure_walk_eq_none_iff extension hskip hroot]
        cases hfailure : (walk fs root skip extension).failure with
        | none => simp
        | some f =>
          rw [walk_eq hskip hroot] at hfailure
          obtain ⟨path, reason, rfl⟩ :=
            (explores_walkFrom [start] (fs.pendingIn root start)).failure_eq_lookFailed hfailure
          simp

end

/-! ## Settings -/

namespace Settings

/-- The blacklist that wins is a list with a list or a table among its members. -/
def NestsBlacklist (fs : FileSystem) (configFile : Option Path)
    (environment : List (String × String)) (overrides : Entries) : Prop :=
  ∃ project explicit, ProjectSets fs project ∧ ExplicitSets fs configFile explicit ∧
    ∃ members, Sources.value { project, explicit, environment, overrides } "blacklist" =
      some (.list members) ∧ ∃ v ∈ members, v.isHashable = false

section
variable {fs : FileSystem} {configFile : Option Path} {environment : List (String × String)}
  {overrides : Entries} {settings : ScanSettings Scoring}

/-- Only a list can have members that are no texts. -/
theorem Sources.Settle.nests_iff {s : Sources} (h : s.Settle settings) :
    (∃ v ∈ settings.blacklist, v.isHashable = false) ↔
      ∃ members, s.value "blacklist" = some (.list members) ∧
        ∃ v ∈ members, v.isHashable = false := by
  have hblacklist := h.blacklist
  -- the members of anything but a list are texts
  have htexts : ∀ {α : Type} {f : α → String} {l : List α},
      some (l.map fun a => Value.text (f a)) = some settings.blacklist →
        ¬∃ v ∈ settings.blacklist, v.isHashable = false := by
    rintro α f l hl ⟨v, hv, hnot⟩
    rw [← Option.some.inj hl] at hv
    obtain ⟨a, -, rfl⟩ := List.mem_map.1 hv
    cases hnot
  cases hvalue : s.value "blacklist" with
  | none =>
    rw [hvalue] at hblacklist
    exact iff_of_false (htexts (l := ([] : List String)) (f := id) hblacklist) (by simp)
  | some v =>
    rw [hvalue, Option.getD_some] at hblacklist
    cases v with
    | list members =>
      have hmembers : members = settings.blacklist := Option.some.inj hblacklist
      simp [hmembers]
    | text _ => exact iff_of_false (htexts hblacklist) (by simp)
    | table _ => exact iff_of_false (htexts hblacklist) (by simp)
    | _ => cases hblacklist

theorem nestsBlacklist_iff (h : NamesOnce overrides)
    (hload : load fs configFile environment overrides = .ok settings) :
    NestsBlacklist fs configFile environment overrides ↔
      ∃ v ∈ settings.blacklist, v.isHashable = false := by
  obtain ⟨project, explicit, hproject, hexplicit, -, hsettle⟩ := (load_eq_ok_iff h).1 hload
  rw [hsettle.nests_iff]
  constructor
  · rintro ⟨project', explicit', hproject', hexplicit', hnests⟩
    have hp := (projectEntries_eq_ok_iff.2 hproject').symm.trans
      (projectEntries_eq_ok_iff.2 hproject)
    have he := (explicitEntries_eq_ok_iff.2 hexplicit').symm.trans
      (explicitEntries_eq_ok_iff.2 hexplicit)
    cases hp
    cases he
    exact hnests
  · exact fun hnests => ⟨project, explicit, hproject, hexplicit, hnests⟩

/-- The names that a scan with some settings skips. -/
def ScanSettings.skipped (settings : ScanSettings Scoring) : List String :=
  alwaysSkipped :: settings.blacklist.filterMap Value.text?

theorem skippedNames_eq_ok_iff {members : List Value} {skip : List String} :
    skippedNames (.list members) = .ok skip ↔
      (¬∃ v ∈ members, v.isHashable = false) ∧
        skip = alwaysSkipped :: members.filterMap Value.text? := by
  simp only [skippedNames, Value.members?]
  split
  · rename_i v hfind
    have hmem := List.mem_of_find?_eq_some hfind
    have hnot := List.find?_some hfind
    simp only [reduceCtorEq, false_iff, not_and]
    exact fun h => absurd ⟨v, hmem, by simpa using hnot⟩ h
  · rename_i hfind
    have hall : ¬∃ v ∈ members, v.isHashable = false := by simpa using hfind
    rw [Except.ok.injEq, eq_comm]
    exact (and_iff_right hall).symm

end

end Settings

/-! ## Scans with settings -/

namespace CommandLine

variable {tree : FileSystem} {settings : ScanSettings Scoring}

theorem scanWith_eq_ok_iff {s : Scan} :
    scanWith tree settings = .ok s ↔
      (¬∃ v ∈ settings.blacklist, v.isHashable = false) ∧
        s = scan tree (Path.ofString settings.folder) settings.skipped settings.extension
          (if settings.complexity.isTrue then some settings.scoring else none) := by
  simp only [scanWith, bind_eq_ok_iff, skippedNames_eq_ok_iff]
  constructor
  · rintro ⟨skip, ⟨hnests, rfl⟩, h⟩
    cases h
    exact ⟨hnests, rfl⟩
  · rintro ⟨hnests, rfl⟩
    exact ⟨_, ⟨hnests, rfl⟩, rfl⟩

theorem namesOnce_overridesOf (o : Options) : NamesOnce (overridesOf o) := by
  have hoption : ∀ {α : Type} (x : Option α) (name : String) (f : α → Value),
      ((x.map fun a => (name, f a)).toList.map Prod.fst).Sublist [name] := by
    intro α x name f
    cases x <;> simp
  have hflag : ∀ (b : Bool) (name : String),
      ((if b then [(name, Value.bool true)] else []).map Prod.fst).Sublist [name] := by
    intro b name
    cases b <;> simp
  have hsublist : ((overridesOf o).map Prod.fst).Sublist
      ["folder", "blacklist", "complexity", "verbose", "quiet"] := by
    simp only [overridesOf, List.map_append]
    exact ((((hoption ..).append (hoption ..)).append (hflag ..)).append (hflag ..)).append
      (hflag ..)
  exact List.Nodup.sublist hsublist (by decide)

/-! ### Where a run ends with a fault in the settings -/

theorem failWith_ne_shape (f : Failure) (records : List Log.Record) (emoji : EmojiTable)
    (fault : FieldFault) : failWith f records emoji ≠ .crashed (.shape fault) := by
  unfold failWith
  split <;> simp

theorem endOfLoad_ne_shape (f : LoadFailure) (emoji : EmojiTable) (fault : FieldFault) :
    endOfLoad f emoji ≠ .crashed (.shape fault) := by
  cases f with
  | reported failure => exact failWith_ne_shape failure [] emoji fault
  | lookFailed path reason => simp [endOfLoad]

theorem endOfScan_ne_shape (format : Format) (level : Log.Level) (s : Scan) (emoji : EmojiTable)
    (fault : FieldFault) : endOfScan format level s emoji ≠ .crashed (.shape fault) := by
  unfold endOfScan
  dsimp only
  split
  · exact failWith_ne_shape _ _ _ fault
  · simp
  · simp
  · split <;> simp

theorem runScan_crashed_shape_iff {environment : List (String × String)} {o : Options}
    {emoji : EmojiTable} :
    (∃ fault, runScan tree environment o emoji = .crashed (.shape fault)) ↔
      ∃ settings,
        load tree (o.config.map Path.ofString) environment (overridesOf o) = .ok settings ∧
          ∃ v ∈ settings.blacklist, v.isHashable = false := by
  unfold runScan
  cases load tree (o.config.map Path.ofString) environment (overridesOf o) with
  | error f => simp [endOfLoad_ne_shape]
  | ok settings =>
    simp only [Except.ok.injEq, exists_eq_left']
    cases hscan : scanWith tree settings with
    | error fault =>
      refine iff_of_true ⟨fault, rfl⟩ (not_not.1 fun hnests => ?_)
      exact nomatch hscan.symm.trans (scanWith_eq_ok_iff.2 ⟨hnests, rfl⟩)
    | ok s => simpa [endOfScan_ne_shape] using (scanWith_eq_ok_iff.1 hscan).1

/-- **A scan with settings that were loaded ends with a summary or a failure that is reported
exactly if its blacklist does not nest and the file system answers all looks.**  A blacklist that
nests ends the command with a fault that nobody handles. -/
theorem scan_with_loaded_settings (fs : FileSystem) (configFile : Option Path)
    (environment : List (String × String)) (overrides : Entries) (settings : ScanSettings Scoring)
    (hnames : NamesOnce overrides)
    (hload : load fs configFile environment overrides = .ok settings) (tree : FileSystem) :
    ((∃ s, scanWith tree settings = .ok s ∧ s.EndsWell) ↔
      ¬NestsBlacklist fs configFile environment overrides ∧
        tree.Answers settings.skipped (Path.ofString settings.folder)) ∧
    ∀ o emoji, (∃ fault, runScan tree environment o emoji = .crashed (.shape fault)) ↔
      (∃ settings,
        load tree (o.config.map Path.ofString) environment (overridesOf o) = .ok settings) ∧
      NestsBlacklist tree (o.config.map Path.ofString) environment (overridesOf o) := by
  refine ⟨?_, fun o emoji => ?_⟩
  · simp only [scanWith_eq_ok_iff, nestsBlacklist_iff hnames hload]
    constructor
    · rintro ⟨s, ⟨hnests, rfl⟩, hends⟩
      exact ⟨hnests, scan_endsWell_iff.1 hends⟩
    · rintro ⟨hnests, hanswers⟩
      exact ⟨_, ⟨hnests, rfl⟩, scan_endsWell_iff.2 hanswers⟩
  · rw [runScan_crashed_shape_iff]
    constructor
    · rintro ⟨settings, hload, hnests⟩
      exact ⟨⟨settings, hload⟩, (nestsBlacklist_iff (namesOnce_overridesOf o) hload).2 hnests⟩
    · rintro ⟨⟨settings, hload⟩, hnests⟩
      exact ⟨settings, hload, (nestsBlacklist_iff (namesOnce_overridesOf o) hload).1 hnests⟩

/-- The usual settings, and a tree with a link back to its root. -/
theorem scan_with_usual_settings :
    NamesOnce [] ∧
      (∃ settings, load loopedTree.fileSystem none [] [] = .ok settings ∧
        settings.blacklist = [] ∧
          ∃ s, scanWith loopedTree.fileSystem settings = .ok s ∧ s.EndsWell) ∧
      loopedTree.fileSystem.Answers ["node_modules"] workingRoot := by
  have hnames : NamesOnce [] := by decide
  have hload : load loopedTree.fileSystem none [] [] =
      .ok { folder := ".", blacklist := [], complexity := .bool false, extension := ".vue",
            verbosity := .normal, scoring := .usual } := by rfl
  have hanswers : loopedTree.fileSystem.Answers ["node_modules"] workingRoot := by
    have hall : ∀ d : loopedTree.fileSystem.Directory, ∀ name ∈ loopedTree.fileSystem.names d,
        (loopedTree.fileSystem.entry d name).isBlocked = false := by decide
    exact .inr ⟨_, rfl, fun _ _ d _ => hall d⟩
  have hnests : ¬NestsBlacklist loopedTree.fileSystem none [] [] := by
    rw [nestsBlacklist_iff hnames hload]
    simp
  exact ⟨hnames, ⟨_, hload, rfl, ((scan_with_loaded_settings _ none [] [] _ hnames hload
    loopedTree.fileSystem).1).2 ⟨hnests, hanswers⟩⟩, hanswers⟩

/-- A project whose blacklist has a list among its members. -/
def nestedProject : Snapshot :=
  { workingDirectory := { anchor := .root, components := ["p"] }
    looks := [(configuredPath, .file (.ok (asciiBytes "blacklist = [[5]]\n"))),
      (workingRoot, .directory (.ok 0) none)]
    directories := #[[]] }

theorem exists_of_nests {x : Except LoadFailure (ScanSettings Scoring)}
    (h : (match x with
      | .ok settings => settings.blacklist.any fun v => !v.isHashable
      | .error _ => false) = true) :
    ∃ settings, x = .ok settings ∧ ∃ v ∈ settings.blacklist, v.isHashable = false := by
  split at h
  · rename_i settings
    exact ⟨settings, rfl, by simpa using h⟩
  · cases h

/-- A blacklist with a list among its members passes all checks, but no scan accepts it. -/
theorem scanWith_nestedProject :
    (∃ settings, load nestedProject.fileSystem none [] [] = .ok settings ∧
      ∀ tree s, scanWith tree settings ≠ .ok s) ∧
    ∃ fault, runScan nestedProject.fileSystem [] {} .empty = .crashed (.shape fault) := by
  have hnests : ∃ settings, load nestedProject.fileSystem none [] [] = .ok settings ∧
      ∃ v ∈ settings.blacklist, v.isHashable = false := exists_of_nests (by decide +kernel)
  refine ⟨?_, runScan_crashed_shape_iff.2 hnests⟩
  obtain ⟨settings, hload, hnests⟩ := hnests
  exact ⟨settings, hload, fun tree s h => (scanWith_eq_ok_iff.1 h).1 hnests⟩

end CommandLine
end ComponentCensus
