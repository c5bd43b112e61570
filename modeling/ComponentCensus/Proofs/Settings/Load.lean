import ComponentCensus.Files.Snapshot
import ComponentCensus.Proofs.Settings.Resolution
import ComponentCensus.Proofs.Toml.Names
import ComponentCensus.Settings.Load

/-!
# Loading settings

When settings can be loaded, which settings they are, and what happens otherwise.

* `ProjectSets`, `ExplicitSets` — what the configuration files set.
* `LookFails` — the look at a configuration file fails.  Only the reading of a file is guarded, not
  the look before it, so this is the one way in which loading ends without a report.
* `load_eq_ok_iff`, `load_reports_iff` — when settings are loaded, and when a failure is reported.
-/

set_option autoImplicit false

namespace ComponentCensus
namespace Settings

variable {fs : FileSystem} {path : Path} {configFile : Option Path}

/-! ## Configuration files -/

/-- The look at a path fails. -/
def IsBlocked (fs : FileSystem) (path : Path) : Prop :=
  ∃ reason, fs.visit path = some (.blocked reason)

/-- There is nothing at a path. -/
def IsMissing (fs : FileSystem) (path : Path) : Prop := isThere fs path = .ok false

/-- There is something at a path, but it does not make a table. -/
def IsUnusable (fs : FileSystem) (path : Path) : Prop :=
  isThere fs path = .ok true ∧ ∃ fault, tableAt fs path = .error fault

/-- A configuration file sets the values of its table. -/
def FileSets (fs : FileSystem) (path : Path) (entries : Entries) : Prop :=
  isThere fs path = .ok true ∧ tableAt fs path = .ok entries

/-- What the configuration file of the project sets; it may be missing. -/
def ProjectSets (fs : FileSystem) (entries : Entries) : Prop :=
  FileSets fs (projectFile fs) entries ∨ IsMissing fs (projectFile fs) ∧ entries = []

/-- What the configuration file that was asked for sets; it may not be missing. -/
def ExplicitSets (fs : FileSystem) (configFile : Option Path) (entries : Entries) : Prop :=
  match configFile with
  | none => entries = []
  | some path => FileSets fs path entries

/-- The look at the configuration file of the project fails, or, if it is reached, that at the file
that was asked for. -/
def LookFails (fs : FileSystem) (configFile : Option Path) : Prop :=
  IsBlocked fs (projectFile fs) ∨
    ∃ project, ProjectSets fs project ∧ ∃ path ∈ configFile, IsBlocked fs path

theorem isThere_eq_error_iff {f : LoadFailure} :
    isThere fs path = .error f ↔
      ∃ reason, fs.visit path = some (.blocked reason) ∧ f = .lookFailed path reason := by
  unfold isThere
  split
  case h_3 reason hvisit => simp [hvisit, eq_comm]
  all_goals simp_all

/-- What a configuration file sets, given what it means that it is missing and which failure it is
that it cannot be used. -/
def entriesAt (fs : FileSystem) (path : Path) (unusable : Toml.Fault → Failure)
    (missing : Except LoadFailure Entries) : Except LoadFailure Entries := do
  if ← isThere fs path then
    match tableAt fs path with
    | .ok table => return table
    | .error fault => throw (.reported (unusable fault))
  missing

theorem projectEntries_eq (fs : FileSystem) :
    projectEntries fs = entriesAt fs (projectFile fs)
      (fun fault => .projectUnusable (projectFile fs) fault.message) (.ok []) := rfl

theorem explicitEntries_some (fs : FileSystem) (path : Path) :
    explicitEntries fs (some path) = entriesAt fs path
      (fun fault => .configUnusable path fault.message)
      (.error (.reported (.configMissing path))) := rfl

section
variable {unusable : Toml.Fault → Failure} {missing : Except LoadFailure Entries}

/-- The four ways in which a configuration file can be met. -/
theorem entriesAt_cases (fs : FileSystem) (path : Path) (unusable : Toml.Fault → Failure)
    (missing : Except LoadFailure Entries) :
    (∃ reason, fs.visit path = some (.blocked reason) ∧
      isThere fs path = .error (.lookFailed path reason) ∧
      entriesAt fs path unusable missing = .error (.lookFailed path reason)) ∨
    (isThere fs path = .ok false ∧ entriesAt fs path unusable missing = missing) ∨
    (∃ table, isThere fs path = .ok true ∧ tableAt fs path = .ok table ∧
      entriesAt fs path unusable missing = .ok table) ∨
    ∃ fault, isThere fs path = .ok true ∧ tableAt fs path = .error fault ∧
      entriesAt fs path unusable missing = .error (.reported (unusable fault)) := by
  unfold entriesAt
  cases hthere : isThere fs path with
  | error f =>
    obtain ⟨reason, hvisit, rfl⟩ := isThere_eq_error_iff.1 hthere
    exact .inl ⟨reason, hvisit, rfl, rfl⟩
  | ok there =>
    cases there with
    | false => exact .inr (.inl ⟨rfl, rfl⟩)
    | true =>
      cases htable : tableAt fs path with
      | ok table => exact .inr (.inr (.inl ⟨table, rfl, rfl, rfl⟩))
      | error fault => exact .inr (.inr (.inr ⟨fault, rfl, rfl, rfl⟩))

theorem not_blocked_of_isThere {there : Bool} (h : isThere fs path = .ok there) :
    ¬IsBlocked fs path := fun ⟨reason, hvisit⟩ =>
  nomatch h.symm.trans (isThere_eq_error_iff.2 ⟨reason, hvisit, rfl⟩)

theorem entriesAt_eq_ok_iff {entries : Entries} :
    entriesAt fs path unusable missing = .ok entries ↔
      FileSets fs path entries ∨ IsMissing fs path ∧ missing = .ok entries := by
  obtain ⟨reason, -, hthere, h⟩ | ⟨hthere, h⟩ | ⟨table, hthere, htable, h⟩ |
    ⟨fault, hthere, htable, h⟩ := entriesAt_cases fs path unusable missing
  · simp [FileSets, IsMissing, h, hthere]
  · simp [FileSets, IsMissing, h, hthere]
  · simp [FileSets, IsMissing, h, hthere, htable]
  · simp [FileSets, IsMissing, h, hthere, htable]

theorem entriesAt_reports_iff :
    (∃ failure, entriesAt fs path unusable missing = .error (.reported failure)) ↔
      IsUnusable fs path ∨
        IsMissing fs path ∧ ∃ failure, missing = .error (.reported failure) := by
  obtain ⟨reason, -, hthere, h⟩ | ⟨hthere, h⟩ | ⟨table, hthere, htable, h⟩ |
    ⟨fault, hthere, htable, h⟩ := entriesAt_cases fs path unusable missing
  · simp [IsUnusable, IsMissing, h, hthere]
  · simp [IsUnusable, IsMissing, h, hthere]
  · simp [IsUnusable, IsMissing, h, hthere, htable]
  · simp [IsUnusable, IsMissing, h, hthere, htable]

theorem entriesAt_lookFails_iff (hmissing : ∀ p reason, missing ≠ .error (.lookFailed p reason)) :
    (∃ p reason, entriesAt fs path unusable missing = .error (.lookFailed p reason)) ↔
      IsBlocked fs path := by
  obtain ⟨reason, hvisit, -, h⟩ | ⟨hthere, h⟩ | ⟨table, hthere, -, h⟩ | ⟨fault, hthere, -, h⟩ :=
    entriesAt_cases fs path unusable missing
  · exact iff_of_true ⟨path, reason, h⟩ ⟨reason, hvisit⟩
  · simp [h, hmissing, not_blocked_of_isThere hthere]
  · simp [h, not_blocked_of_isThere hthere]
  · simp [h, not_blocked_of_isThere hthere]

end

/-! ### The file of the project -/

theorem projectEntries_eq_ok_iff {entries : Entries} :
    projectEntries fs = .ok entries ↔ ProjectSets fs entries := by
  rw [projectEntries_eq, entriesAt_eq_ok_iff, ProjectSets, Except.ok.injEq, eq_comm (a := [])]

theorem projectEntries_reports_iff :
    (∃ failure, projectEntries fs = .error (.reported failure)) ↔
      IsUnusable fs (projectFile fs) := by
  simp [projectEntries_eq, entriesAt_reports_iff]

theorem projectEntries_lookFails_iff :
    (∃ p reason, projectEntries fs = .error (.lookFailed p reason)) ↔
      IsBlocked fs (projectFile fs) := by
  simp [projectEntries_eq, entriesAt_lookFails_iff]

/-! ### The file that was asked for -/

theorem explicitEntries_eq_ok_iff {entries : Entries} :
    explicitEntries fs configFile = .ok entries ↔ ExplicitSets fs configFile entries := by
  cases configFile with
  | none => simp [explicitEntries, ExplicitSets, eq_comm]
  | some path => simp [explicitEntries_some, entriesAt_eq_ok_iff, ExplicitSets]

theorem explicitEntries_reports_iff :
    (∃ failure, explicitEntries fs configFile = .error (.reported failure)) ↔
      ∃ path ∈ configFile, IsMissing fs path ∨ IsUnusable fs path := by
  cases configFile with
  | none => simp [explicitEntries]
  | some path => simp [explicitEntries_some, entriesAt_reports_iff, or_comm]

theorem explicitEntries_lookFails_iff :
    (∃ p reason, explicitEntries fs configFile = .error (.lookFailed p reason)) ↔
      ∃ path ∈ configFile, IsBlocked fs path := by
  cases configFile with
  | none => simp [explicitEntries]
  | some path => simp [explicitEntries_some, entriesAt_lookFails_iff]

theorem namesOnce_of_fileSets {entries : Entries} (h : FileSets fs path entries) :
    NamesOnce entries := by
  obtain ⟨-, htable⟩ := h
  unfold tableAt at htable
  split at htable
  · cases htable
  · split at htable
    · cases htable
    · exact Toml.namesOnce_of_tableOfBytes htable

theorem namesOnce_of_explicitSets {entries : Entries} (h : ExplicitSets fs configFile entries) :
    NamesOnce entries := by
  cases configFile with
  | none => exact h ▸ List.nodup_nil
  | some path => exact namesOnce_of_fileSets h

/-! ## Loading -/

section
variable {environment : List (String × String)} {overrides : Entries}

/-- What is left to do when the configuration files have been read. -/
theorem load_eq (fs : FileSystem) (configFile : Option Path)
    (environment : List (String × String)) (overrides : Entries) :
    load fs configFile environment overrides = (do
      let project ← projectEntries fs
      let explicit ← explicitEntries fs configFile
      (resolve project explicit environment overrides).mapError .reported) := by
  unfold load
  refine congrArg _ (funext fun project => congrArg _ (funext fun explicit => ?_))
  cases resolve project explicit environment overrides <;> rfl

theorem mapError_eq_ok_iff {ε ε' α : Type} {f : ε → ε'} {x : Except ε α} {a : α} :
    x.mapError f = .ok a ↔ x = .ok a := by
  cases x <;> simp [Except.mapError]

theorem mapError_eq_error_iff {ε ε' α : Type} {f : ε → ε'} {x : Except ε α} {e : ε'} :
    x.mapError f = .error e ↔ ∃ e', x = .error e' ∧ f e' = e := by
  cases x <;> simp [Except.mapError]

/-- The settings are those that the places add up to. -/
theorem load_eq_ok_iff (h : NamesOnce overrides) {settings : ScanSettings Scoring} :
    load fs configFile environment overrides = .ok settings ↔
      ∃ project explicit, ProjectSets fs project ∧ ExplicitSets fs configFile explicit ∧
        Sources.Acceptable { project, explicit, environment, overrides } ∧
        Sources.Settle { project, explicit, environment, overrides } settings := by
  simp only [load_eq, bind_eq_ok_iff, projectEntries_eq_ok_iff, explicitEntries_eq_ok_iff,
    mapError_eq_ok_iff]
  constructor
  · rintro ⟨project, hproject, explicit, hexplicit, hresolve⟩
    have hnames := namesOnce_of_explicitSets hexplicit
    exact ⟨project, explicit, hproject, hexplicit,
      (Sources.resolve_eq_ok_iff (s := ⟨project, explicit, environment, overrides⟩) hnames h).1
        hresolve⟩
  · rintro ⟨project, explicit, hproject, hexplicit, hsettle⟩
    have hnames := namesOnce_of_explicitSets hexplicit
    exact ⟨project, hproject, explicit, hexplicit,
      (Sources.resolve_eq_ok_iff (s := ⟨project, explicit, environment, overrides⟩) hnames h).2
        hsettle⟩

/-- Loading ends without a report exactly if a look fails. -/
theorem load_lookFails_iff :
    (∃ p reason, load fs configFile environment overrides = .error (.lookFailed p reason)) ↔
      LookFails fs configFile := by
  have hresolve : ∀ (x : Except Failure (ScanSettings Scoring)) p reason,
      x.mapError .reported ≠ .error (LoadFailure.lookFailed p reason) := by
    rintro (_ | _) p reason <;> simp [Except.mapError]
  simp only [load_eq, bind_eq_error_iff, projectEntries_eq_ok_iff, explicitEntries_eq_ok_iff,
    hresolve, and_false, exists_false, or_false, exists_or, projectEntries_lookFails_iff, LookFails,
    ← explicitEntries_lookFails_iff]
  refine or_congr Iff.rfl ⟨?_, ?_⟩
  · rintro ⟨p, reason, project, hproject, hexplicit⟩
    exact ⟨project, hproject, p, reason, hexplicit⟩
  · rintro ⟨project, hproject, p, reason, hexplicit⟩
    exact ⟨p, reason, project, hproject, hexplicit⟩

/-- A failure is reported if a file cannot be used, or if what the places say cannot be used. -/
theorem load_reports_iff (h : NamesOnce overrides) :
    (∃ failure, load fs configFile environment overrides = .error (.reported failure)) ↔
      IsUnusable fs (projectFile fs) ∨
        ∃ project, ProjectSets fs project ∧
          ((∃ path ∈ configFile, IsMissing fs path ∨ IsUnusable fs path) ∨
            ∃ explicit, ExplicitSets fs configFile explicit ∧
              ¬Sources.Acceptable { project, explicit, environment, overrides }) := by
  have hresolve : ∀ project explicit, ExplicitSets fs configFile explicit →
      ((∃ failure, resolve project explicit environment overrides = .error failure) ↔
        ¬Sources.Acceptable { project, explicit, environment, overrides }) := by
    intro project explicit hexplicit
    have hnames := namesOnce_of_explicitSets hexplicit
    rw [← Sources.exists_resolve_eq_ok_iff (s := ⟨project, explicit, environment, overrides⟩)
      hnames h]
    cases resolve project explicit environment overrides <;> simp
  simp only [load_eq, bind_eq_error_iff, projectEntries_eq_ok_iff, explicitEntries_eq_ok_iff,
    mapError_eq_error_iff, LoadFailure.reported.injEq, exists_eq_right, exists_or,
    projectEntries_reports_iff, ← explicitEntries_reports_iff]
  refine or_congr Iff.rfl ⟨?_, ?_⟩
  · rintro ⟨failure, project, hproject, hexplicit | ⟨explicit, hexplicit, hfailure⟩⟩
    · exact ⟨project, hproject, .inl ⟨failure, hexplicit⟩⟩
    · exact ⟨project, hproject, .inr ⟨explicit, hexplicit,
        (hresolve project explicit hexplicit).1 ⟨failure, hfailure⟩⟩⟩
  · rintro ⟨project, hproject, ⟨failure, hexplicit⟩ | ⟨explicit, hexplicit, hnot⟩⟩
    · exact ⟨failure, project, hproject, .inl hexplicit⟩
    · obtain ⟨failure, hfailure⟩ := (hresolve project explicit hexplicit).2 hnot
      exact ⟨failure, project, hproject, .inr ⟨explicit, hexplicit, hfailure⟩⟩

/-- **Loading yields settings or reports a failure exactly if no look at a configuration file
fails.**  The settings are those that the four places add up to, and the failure is reported
exactly if a configuration file or what the places say cannot be used. -/
theorem load_settles_or_reports (fs : FileSystem) (configFile : Option Path)
    (environment : List (String × String)) (overrides : Entries) (h : NamesOnce overrides) :
    (∀ settings, load fs configFile environment overrides = .ok settings ↔
      ∃ project explicit, ProjectSets fs project ∧ ExplicitSets fs configFile explicit ∧
        Sources.Acceptable { project, explicit, environment, overrides } ∧
        Sources.Settle { project, explicit, environment, overrides } settings) ∧
    ((∃ failure, load fs configFile environment overrides = .error (.reported failure)) ↔
      IsUnusable fs (projectFile fs) ∨
        ∃ project, ProjectSets fs project ∧
          ((∃ path ∈ configFile, IsMissing fs path ∨ IsUnusable fs path) ∨
            ∃ explicit, ExplicitSets fs configFile explicit ∧
              ¬Sources.Acceptable { project, explicit, environment, overrides })) ∧
    ((∃ settings, load fs configFile environment overrides = .ok settings) ∨
      (∃ failure, load fs configFile environment overrides = .error (.reported failure)) ↔
        ¬LookFails fs configFile) := by
  refine ⟨fun _ => load_eq_ok_iff h, load_reports_iff h, ?_⟩
  rw [← @load_lookFails_iff fs configFile environment overrides]
  cases load fs configFile environment overrides with
  | ok settings => simp
  | error f => cases f <;> simp

end

/-- The path of the configuration file of the project `/p`. -/
def configuredPath : Path := { anchor := .root, components := ["p", "sfc-insight.toml"] }

/-- The bytes of an ASCII text. -/
def asciiBytes (text : String) : Bytes := text.toList.map fun c => UInt8.ofNat c.toNat

/-- A project with a configuration file. -/
def configuredProject : Snapshot :=
  { workingDirectory := { anchor := .root, components := ["p"] }
    looks := [(configuredPath,
      .file (.ok (asciiBytes "extension = '.sfc'\n[scoring]\nmixins_weight = 5\n")))] }

theorem eq_of_isConfiguredTable {x : Except Toml.Fault Toml.Table}
    (h : (match x with
      | .ok [("extension", .text ".sfc"), ("scoring", .table [("mixins_weight", .int 5)])] => true
      | _ => false) = true) :
    x = .ok [("extension", .text ".sfc"), ("scoring", .table [("mixins_weight", .int 5)])] := by
  split at h
  · rfl
  · cases h

theorem projectSets_configuredProject :
    ProjectSets configuredProject.fileSystem
      [("extension", .text ".sfc"), ("scoring", .table [("mixins_weight", .int 5)])] := by
  refine .inl ⟨?_, eq_of_isConfiguredTable ?_⟩
  · rfl
  · decide +kernel

/-- Every setting comes from its own place. -/
theorem load_configuredProject :
    NamesOnce [("verbosity", .text "verbose"), ("verbose", .bool true), ("quiet", .bool true)] ∧
      load configuredProject.fileSystem none [("SFC_INSIGHT_FOLDER", "src")]
        [("verbosity", .text "verbose"), ("verbose", .bool true), ("quiet", .bool true)] =
          .ok { folder := "src", blacklist := [], complexity := .bool false, extension := ".sfc",
                verbosity := .quiet, scoring := { mixins := 5 } } := by
  have hnames : NamesOnce [("verbosity", .text "verbose"), ("verbose", .bool true),
      ("quiet", .bool true)] := by decide
  have hword : HasBooleanWord [("SFC_INSIGHT_FOLDER", "src")] := by
    intro text h
    cases h
  have hsettle : Sources.Settle
      { project := [("extension", .text ".sfc"), ("scoring", .table [("mixins_weight", .int 5)])]
        explicit := []
        environment := [("SFC_INSIGHT_FOLDER", "src")]
        overrides :=
          [("verbosity", .text "verbose"), ("verbose", .bool true), ("quiet", .bool true)] }
      { folder := "src", blacklist := [], complexity := .bool false, extension := ".sfc",
        verbosity := .quiet, scoring := { mixins := 5 } } :=
    { folder := rfl
      folder_ne_empty := by decide
      blacklist := rfl
      complexity := rfl
      extension := rfl
      extension_dot := by decide
      verbosity := rfl
      scoring := by
        refine ⟨by decide, ?_⟩
        simp only [Scoring.fields, List.forall₂_cons, List.Forall₂.nil, and_true]
        trivial }
  exact ⟨hnames, ((load_settles_or_reports _ none _ _ hnames).1 _).2
    ⟨_, [], projectSets_configuredProject, rfl, Sources.acceptable_iff.2
      ⟨hword, by decide, _, hsettle⟩, hsettle⟩⟩

/-- A name with 256 characters, one more than the name of a file can have. -/
def longName : String := String.ofList (List.replicate 256 'x')

theorem toList_longName : longName.toList = List.replicate 256 'x' := String.toList_ofList

/-- An empty project, in which the look at a file of such a name fails. -/
def emptyProject : Snapshot :=
  { workingDirectory := { anchor := .root, components := ["p"] }
    looks := [({ anchor := .relative, components := [longName] }, .blocked .nameTooLong)] }

theorem text_of_relative {name : String} (h : name ≠ "") :
    Path.text { anchor := .relative, components := [name] } = name := by
  simp [Path.text, Anchor.text, h]

/-- The name of the file that was asked for is too long: there are no settings, and no failure is
reported, not even that the file is missing. -/
theorem load_longName :
    (∀ settings, load emptyProject.fileSystem
      (some { anchor := .relative, components := [longName] }) [] [] ≠ .ok settings) ∧
    ∀ failure, load emptyProject.fileSystem
      (some { anchor := .relative, components := [longName] }) [] [] ≠
        .error (.reported failure) := by
  have hlong : longName ≠ "" := by
    intro h
    have hnil := toList_longName.symm.trans (congrArg String.toList h)
    cases hnil
  have hvisit : emptyProject.fileSystem.visit { anchor := .relative, components := [longName] } =
      some (.blocked .nameTooLong) := by
    have htext : '\x00' ∉ longName.toList := fun h =>
      absurd (List.eq_of_mem_replicate (toList_longName ▸ h)) (by decide)
    simp [emptyProject, Snapshot.fileSystem, text_of_relative hlong, htext, Snapshot.lookAt,
      Sighting.within]
  have hproject : ProjectSets emptyProject.fileSystem [] := .inr ⟨by rfl, rfl⟩
  obtain ⟨p, reason, hload⟩ := (@load_lookFails_iff _ _ [] []).2
    (.inr ⟨[], hproject, _, rfl, .nameTooLong, hvisit⟩)
  rw [hload]
  refine ⟨fun settings h => ?_, fun failure h => ?_⟩
  · cases h
  · cases h

end Settings
end ComponentCensus
