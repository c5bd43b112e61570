import ComponentCensus.Proofs.Census.Accounts
import ComponentCensus.Proofs.CommandLine.Scan
import ComponentCensus.Proofs.Files.Remarks

/-!
# Which faults end a scan

Directories that cannot be told apart or listed, and files that cannot be read, leave a record and
nothing else.  A root that cannot be listed ends a scan at once.  The only other faults are those
of looks: at an entry of a directory that is gone through, or at a root that is no path.

* `FileSystem.RootFault` — the fault of a root that cannot be listed.
* `Walk.PassesFaults` — what a walk does about faults below its root, and what it does nonetheless.
* `FileSystem.OnlyRootIsFatal` — only a fault of the root ends walks and scans.
* `onlyRootIsFatal_iff` — that is so exactly if the file system answers all looks.
-/

set_option autoImplicit false

namespace ComponentCensus

variable {fs : FileSystem} {root : Path} {skip : List String} {extension : String}
  {start : fs.Directory}

/-- The fault of a root whose name is not to be skipped, and which cannot be listed. -/
def FileSystem.RootFault (fs : FileSystem) (skip : List String) (root : Path) (f : WalkFailure) :
    Prop :=
  root.name ∉ skip ∧ ∃ seen reason, fs.visit root = some seen ∧ seen.listed = .error reason ∧
    f = .rootInaccessible root reason

/-- The walk goes through all that can be reached, and every directory that it cannot go through
leaves a record with the cause. -/
structure Walk.PassesFaults (fs : FileSystem) (skip : List String) (extension : String)
    (start : fs.Directory) (w : Walk fs.Directory) : Prop where
  covers : w.Covers fs skip extension start
  /-- Nobody can tell which directory it is. -/
  unidentified : ∀ p ∈ w.seen fs, p.name ∉ skip → ∀ reason refusal,
    fs.entry p.directory p.name = .directory (.error reason) refusal →
      .unlistable p.path reason ∈ w.events
  /-- It cannot be listed under this name, though perhaps under another one. -/
  refused : ∀ p ∈ w.seen fs, p.name ∉ skip → ∀ d reason,
    fs.entry p.directory p.name = .directory (.ok d) (some reason) →
      .unlistable p.path reason ∈ w.events ∨ .revisited p.path ∈ w.events ∧ d ∈ w.directories

/-- Walks and scans end with a failure only if the root cannot be listed, before anything else
happens.  All other faults are passed: the scan counts the files that it can read, and its records
have those of the walk and of the files that it cannot read. -/
structure FileSystem.OnlyRootIsFatal (fs : FileSystem) (skip : List String) (extension : String)
    (root : Path) : Prop where
  failure : ∀ f, (walk fs root skip extension).failure = some f ↔ fs.RootFault skip root f
  silent : (walk fs root skip extension).failure ≠ none → (walk fs root skip extension).events = []
  result : ∀ scoring f, (scan fs root skip extension scoring).result = .error f ↔
    fs.RootFault skip root f
  below : root.name ∉ skip → ∀ start, fs.Lists root start →
    (walk fs root skip extension).PassesFaults fs skip extension start
  counted : (walk fs root skip extension).failure = none → ∀ scoring, ∃ s,
    Scan.Accounts scoring (walk fs root skip extension) (scan fs root skip extension scoring) s
  logged : (walk fs root skip extension).failure = none → ∀ scoring,
    (walk fs root skip extension).logRecords ⊆ (scan fs root skip extension scoring).records

/-! ## Faults below the root -/

theorem ToldIn.unidentified {before : List fs.Directory} {es : List (Event fs.Directory)}
    {p : Pending fs.Directory} {reason : Reason} {refusal : Option Reason}
    (h : ToldIn fs skip extension before es p) (hkept : p.name ∉ skip)
    (hentry : fs.entry p.directory p.name = .directory (.error reason) refusal) :
    .unlistable p.path reason ∈ es := by
  obtain ⟨earlier, e, later, rfl, htells⟩ := h
  have hmem : e ∈ earlier ++ e :: later := List.mem_append_right _ (List.mem_cons_self ..)
  cases htells with
  | pruned _ hskip => exact absurd hskip hkept
  | unidentified hentry' _ =>
    obtain ⟨hreason, -⟩ := Sighting.directory.inj (hentry.symm.trans hentry')
    rwa [Except.error.inj hreason]
  | revisited hentry' => cases hentry.symm.trans hentry'
  | refused hentry' => cases hentry.symm.trans hentry'
  | entered hentry' => cases hentry.symm.trans hentry'
  | found _ hfile _ => simp [FileSystem.isDirectoryAt, hentry, Sighting.isDirectory] at hfile

theorem ToldIn.refused {before : List fs.Directory} {es : List (Event fs.Directory)}
    {p : Pending fs.Directory} {d : fs.Directory} {reason : Reason}
    (h : ToldIn fs skip extension before es p) (hkept : p.name ∉ skip)
    (hentry : fs.entry p.directory p.name = .directory (.ok d) (some reason)) :
    .unlistable p.path reason ∈ es ∨
      .revisited p.path ∈ es ∧ d ∈ before ++ es.filterMap Event.directory? := by
  obtain ⟨earlier, e, later, rfl, htells⟩ := h
  have hmem : e ∈ earlier ++ e :: later := List.mem_append_right _ (List.mem_cons_self ..)
  cases htells with
  | pruned _ hskip => exact absurd hskip hkept
  | unidentified hentry' => cases hentry.symm.trans hentry'
  | revisited hentry' _ hd =>
    obtain ⟨hidentity, -⟩ := Sighting.directory.inj (hentry.symm.trans hentry')
    rw [← Except.ok.inj hidentity] at hd
    refine .inr ⟨hmem, ?_⟩
    rw [List.filterMap_append, ← List.append_assoc]
    exact List.mem_append_left _ hd
  | refused hentry' _ _ =>
    obtain ⟨-, hreason⟩ := Sighting.directory.inj (hentry.symm.trans hentry')
    rw [Option.some.inj hreason]
    exact .inl hmem
  | entered hentry' => cases hentry.symm.trans hentry'
  | found _ hfile _ => simp [FileSystem.isDirectoryAt, hentry, Sighting.isDirectory] at hfile

/-- A walk that does not fail passes all faults below its root. -/
theorem passesFaults_walk (hskip : root.name ∉ skip) (hroot : fs.Lists root start)
    (hw : (walk fs root skip extension).failure = none) :
    (walk fs root skip extension).PassesFaults fs skip extension start where
  covers := covers_of_failure_eq_none hskip hroot hw
  unidentified p hp hkept _ _ hentry := (told_walk hskip hroot hw p hp).unidentified hkept hentry
  refused p hp hkept _ _ hentry := (told_walk hskip hroot hw p hp).refused hkept hentry

/-! ## Faults of the root -/

/-- If the file system answers all looks, only a fault of the root ends the walk. -/
theorem failure_walk_eq_some_iff (extension : String) (h : fs.Answers skip root)
    (f : WalkFailure) :
    (walk fs root skip extension).failure = some f ↔ fs.RootFault skip root f := by
  by_cases hskip : root.name ∈ skip
  · rw [walk_of_mem_skip hskip]
    exact iff_of_false nofun fun hfault => hfault.1 hskip
  · obtain ⟨seen, hvisit, hlooks⟩ := h.resolve_left hskip
    simp only [FileSystem.RootFault, hskip, not_false_eq_true, true_and, hvisit,
      Option.some.injEq, exists_and_left, exists_eq_left']
    cases hlisted : seen.listed with
    | error reason => simp [walk, hskip, hvisit, hlisted, eq_comm]
    | ok start =>
      rw [(failure_walk_eq_none_iff extension hskip ⟨seen, hvisit, hlisted⟩).2
        (hlooks start hlisted)]
      simp

/-- A fault of the root ends the walk before anything happens. -/
theorem events_of_rootFault {f : WalkFailure} (h : fs.RootFault skip root f) :
    (walk fs root skip extension).events = [] := by
  obtain ⟨hskip, seen, reason, hvisit, hlisted, -⟩ := h
  simp [walk, hskip, hvisit, hlisted]

/-- A scan fails as its walk does. -/
theorem scan_result_eq_error_iff (scoring : Option Scoring) (f : WalkFailure) :
    (scan fs root skip extension scoring).result = .error f ↔
      (walk fs root skip extension).failure = some f := by
  rw [scan_result_eq]
  cases (walk fs root skip extension).failure <;> simp

/-- The records of a scan have those of its walk. -/
theorem logRecords_subset_records (scoring : Option Scoring)
    (hw : (walk fs root skip extension).failure = none) :
    (walk fs root skip extension).logRecords ⊆ (scan fs root skip extension scoring).records := by
  intro r hr
  obtain ⟨e, he, hrecord⟩ := List.mem_filterMap.1 hr
  rw [scan_records_eq scoring hw]
  refine List.mem_append_left _ (List.mem_flatMap.2 ⟨e, he, ?_⟩)
  cases e with
  | found => cases hrecord
  | _ => exact Option.mem_toList.2 hrecord

/-- **Only a root that cannot be listed ends walks and scans with a failure, exactly if the file
system answers all looks.** -/
theorem onlyRootIsFatal_iff (fs : FileSystem) (skip : List String) (extension : String)
    (root : Path) : fs.OnlyRootIsFatal skip extension root ↔ fs.Answers skip root := by
  constructor
  · intro h
    by_cases hskip : root.name ∈ skip
    · exact .inl hskip
    · cases hvisit : fs.visit root with
      | none =>
        have hw : (walk fs root skip extension).failure = some .malformedRoot := by
          simp [walk, hskip, hvisit]
        obtain ⟨-, _, _, hseen, -⟩ := (h.failure _).1 hw
        cases hvisit.symm.trans hseen
      | some seen =>
        refine .inr ⟨seen, hvisit, fun start hlisted => ?_⟩
        have hroot : fs.Lists root start := ⟨seen, hvisit, hlisted⟩
        exact (failure_walk_eq_none_iff extension hskip hroot).1
          (h.below hskip start hroot).covers.failure
  · intro h
    have hfailure := failure_walk_eq_some_iff extension h
    refine ⟨hfailure, fun hne => ?_, fun scoring f => ?_, fun hskip start hroot => ?_,
      fun hw scoring => ?_, fun hw scoring => logRecords_subset_records scoring hw⟩
    · obtain ⟨f, hf⟩ := Option.ne_none_iff_exists'.1 hne
      exact events_of_rootFault ((hfailure f).1 hf)
    · rw [scan_result_eq_error_iff, hfailure]
    · obtain ⟨seen, hvisit, hlisted⟩ := hroot
      obtain ⟨seen', hvisit', hlooks⟩ := h.resolve_left hskip
      obtain rfl : seen = seen' := Option.some.inj (hvisit.symm.trans hvisit')
      have hroot : fs.Lists root start := ⟨seen, hvisit, hlisted⟩
      exact passesFaults_walk hskip hroot
        ((failure_walk_eq_none_iff extension hskip hroot).2 (hlooks start hlisted))
    · obtain ⟨s, haccounts, -⟩ := scan_accounts fs root skip extension scoring hw
      exact ⟨s, haccounts⟩

/-- One look that fails below a root that can be listed ends the scan. -/
theorem scan_knottedTree :
    knottedTree.fileSystem.Lists workingRoot (0 : Fin 2) ∧
      (∀ scoring, (scan knottedTree.fileSystem workingRoot ["node_modules"] ".vue" scoring).result =
        .error (.lookFailed (workingRoot.child "a") .nameTooLong)) ∧
      ¬ knottedTree.fileSystem.OnlyRootIsFatal ["node_modules"] ".vue" workingRoot := by
  have hskip : workingRoot.name ∉ ["node_modules"] := by decide
  have hroot : knottedTree.fileSystem.Lists workingRoot (0 : Fin 2) := ⟨_, rfl, rfl⟩
  have hpending : knottedTree.fileSystem.pendingIn workingRoot (0 : Fin 2) =
      [{ parent := workingRoot, directory := (0 : Fin 2), name := "a" },
        { parent := workingRoot, directory := (0 : Fin 2), name := "b" }] := rfl
  have hw : (walk knottedTree.fileSystem workingRoot ["node_modules"] ".vue").failure =
      some (.lookFailed (workingRoot.child "a") .nameTooLong) := by
    rw [walk_eq hskip hroot, hpending, walkFrom]
    rfl
  refine ⟨hroot, fun scoring => (scan_result_eq_error_iff scoring _).2 hw, fun h => ?_⟩
  obtain ⟨-, _, _, -, -, hfault⟩ := (h.failure _).1 hw
  cases hfault

end ComponentCensus
