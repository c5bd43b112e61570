import ComponentCensus.Proofs.CommandLine.Verbosity
import ComponentCensus.Proofs.Settings.Blacklist

/-!
# Directories to skip, from any place

A text that names directories to skip may be given as an option, as a variable, or in a
configuration file.  An option and a variable are split into names before they are laid over what
is below them, a text of a file only when the settings are checked; it comes to the same.

* `Arrives` — a text is what the highest place that says anything about the directories says.
* `Options.skipping` — the options with a text for the directories to skip.
* `load_skipping` — the settings with such an option differ from those without in the directories.
* `blacklist_of_text` — which directories a text names, wherever it comes from.
-/

set_option autoImplicit false

namespace ComponentCensus
namespace CommandLine

open Settings

/-- The directories that a text names, as settings. -/
def listedIn (text : String) : List Value := (namesIn (some text)).map .text

/-- A text for the directories to skip is given by an option; or by a variable, without an option;
or by the file that was asked for, without the variable; or by the file of the project, where the
other file says nothing about them. -/
inductive Arrives (fs : FileSystem) (configFile : Option Path)
    (environment : List (String × String)) : Option String → String → Prop where
  | asOption (text : String) : Arrives fs configFile environment (some text) text
  | asVariable {text : String} (hset : environment.lookup "SFC_INSIGHT_BLACKLIST" = some text) :
      Arrives fs configFile environment none text
  | inFile {text : String} {entries : Entries}
      (hunset : environment.lookup "SFC_INSIGHT_BLACKLIST" = none)
      (hexplicit : ExplicitSets fs configFile entries)
      (hset : entries.lookup "blacklist" = some (.text text)) :
      Arrives fs configFile environment none text
  | inProject {text : String} {entries above : Entries}
      (hunset : environment.lookup "SFC_INSIGHT_BLACKLIST" = none)
      (hexplicit : ExplicitSets fs configFile above) (hsilent : above.lookup "blacklist" = none)
      (hproject : ProjectSets fs entries)
      (hset : entries.lookup "blacklist" = some (.text text)) :
      Arrives fs configFile environment none text

/-- The options with a text for the directories to skip. -/
def Options.skipping (text : Option String) (o : Options) : Options := { o with blacklist := text }

variable {fs : FileSystem} {configFile : Option Path} {environment : List (String × String)}
  {o : Options} {project explicit : Entries} {settings : ScanSettings Scoring}

/-! ## The command line -/

/-- The option is found among the arguments, whatever its text looks like. -/
theorem parse?_blacklist (text : String) :
    parse? ["--blacklist", text] = some (.scan (Options.skipping (some text) {})) := rfl

theorem lookup_toList_map {α : Type} (value : α → Value) (name key : String) (given : Option α) :
    (given.map fun a => (name, value a)).toList.lookup key =
      if key = name then given.map value else none := by
  cases given with
  | none => simp
  | some a =>
    by_cases hkey : key = name
    · simp [hkey]
    · have hne : (key == name) = false := by simpa using hkey
      simp [List.lookup_cons, hkey, hne]

theorem lookup_blacklist_plainOverrides (o : Options) :
    (plainOverrides o).lookup "blacklist" = o.blacklist.map fun text => .list (listedIn text) := by
  have hcomplexity : (if o.complexity then [("complexity", Value.bool true)] else []).lookup
      "blacklist" = none := by
    rw [lookup_flag, if_neg (by simp)]
  rw [plainOverrides, List.lookup_append, List.lookup_append, hcomplexity, lookup_toList_map,
    lookup_toList_map, if_neg (by decide), if_pos rfl, Option.none_or, Option.or_none]
  rfl

theorem lookup_plainOverrides_skipping {key : String} (hkey : key ≠ "blacklist")
    (text : Option String) (o : Options) :
    (plainOverrides (o.skipping text)).lookup key = (plainOverrides o).lookup key := by
  simp only [plainOverrides, Options.skipping, List.lookup_append, lookup_toList_map, if_neg hkey]
  rfl

/-! ## The places -/

theorem value_skipping_of_ne {key : String} (hkey : key ≠ "blacklist") (text : Option String)
    (o : Options) (project explicit : Entries) (environment : List (String × String)) :
    Sources.value ⟨project, explicit, environment, overridesOf (o.skipping text)⟩ key =
      Sources.value ⟨project, explicit, environment, overridesOf o⟩ key := by
  simp only [Sources.value, callerValue_overridesOf, lookup_plainOverrides_skipping hkey]
  rfl

/-- What the places say about the directories to skip. -/
theorem value_blacklist (o : Options) (project explicit : Entries)
    (environment : List (String × String)) :
    Sources.value ⟨project, explicit, environment, overridesOf o⟩ "blacklist" =
      (o.blacklist.map fun text => .list (listedIn text)).or
        (((environment.lookup "SFC_INSIGHT_BLACKLIST").map fun text => .list (listedIn text)).or
          ((explicit.lookup "blacklist").or (project.lookup "blacklist"))) := by
  have hcaller : callerValue (overridesOf o) "blacklist" =
      o.blacklist.map fun text => .list (listedIn text) := by
    rw [callerValue_overridesOf, if_neg (by simp), if_neg (by simp),
      lookup_blacklist_plainOverrides]
    cases o.blacklist <;> rfl
  rw [Sources.value, hcaller]
  rfl

/-- What arrives is what counts: the other places may say anything. -/
theorem Arrives.listed?_value {text : String}
    (h : Arrives fs configFile environment o.blacklist text)
    (hproject : ProjectSets fs project) (hexplicit : ExplicitSets fs configFile explicit) :
    ((Sources.value ⟨project, explicit, environment, overridesOf o⟩ "blacklist").getD
      (.list [])).listed? = some (listedIn text) := by
  rw [value_blacklist]
  generalize o.blacklist = blacklist at h
  cases h with
  | asOption => rfl
  | asVariable hset =>
    rw [hset]
    rfl
  | inFile hunset hexplicit' hset =>
    have hsame := (explicitEntries_eq_ok_iff.2 hexplicit).symm.trans
      (explicitEntries_eq_ok_iff.2 hexplicit')
    rw [hunset, Except.ok.inj hsame, hset]
    rfl
  | inProject hunset hexplicit' hsilent hproject' hset =>
    have hsame := (explicitEntries_eq_ok_iff.2 hexplicit).symm.trans
      (explicitEntries_eq_ok_iff.2 hexplicit')
    have hsame' := (projectEntries_eq_ok_iff.2 hproject).symm.trans
      (projectEntries_eq_ok_iff.2 hproject')
    rw [hunset, Except.ok.inj hsame, hsilent, Except.ok.inj hsame', hset]
    rfl

/-! ## Settings -/

/-- **Another text for the directories to skip changes nothing else.**  It can be any text: what
lower places say about the directories need not even be usable. -/
theorem load_skipping {blacklist : Option String} {text : String}
    (harrives : Arrives fs (o.config.map Path.ofString) environment blacklist text)
    (hload : load fs (o.config.map Path.ofString) environment (overridesOf o) = .ok settings) :
    load fs (o.config.map Path.ofString) environment (overridesOf (o.skipping blacklist)) =
      .ok { settings with blacklist := listedIn text } := by
  refine load_of_settle hload fun project explicit hproject hexplicit hsettle => ?_
  have hother : ∀ key, key ≠ "blacklist" →
      Sources.value ⟨project, explicit, environment, overridesOf (o.skipping blacklist)⟩ key =
        Sources.value ⟨project, explicit, environment, overridesOf o⟩ key := fun key hkey =>
    value_skipping_of_ne hkey blacklist o project explicit environment
  exact
    { folder := by rw [hother _ (by decide)]; exact hsettle.folder
      folder_ne_empty := hsettle.folder_ne_empty
      blacklist := Arrives.listed?_value (o := o.skipping blacklist) harrives hproject hexplicit
      complexity := by rw [hother _ (by decide)]; exact hsettle.complexity
      extension := by rw [hother _ (by decide)]; exact hsettle.extension
      extension_dot := hsettle.extension_dot
      verbosity := by rw [hother _ (by decide)]; exact hsettle.verbosity
      scoring := by rw [hother _ (by decide)]; exact hsettle.scoring }

/-- The directories to skip are those that the text that arrives names. -/
theorem blacklist_of_arrives {text : String}
    (harrives : Arrives fs (o.config.map Path.ofString) environment o.blacklist text)
    (hload : load fs (o.config.map Path.ofString) environment (overridesOf o) = .ok settings) :
    settings.blacklist = listedIn text := by
  have hsame : load fs (o.config.map Path.ofString) environment (overridesOf o) =
      .ok { settings with blacklist := listedIn text } := load_skipping harrives hload
  have heq := Except.ok.inj (hload.symm.trans hsame)
  exact congrArg ScanSettings.blacklist heq

/-- **Directories to skip, as one text.**  The names in a text are the pieces between its commas,
without the blanks around them; reading them from a text in which they stand between commas finds
them again.  The text names the same directories wherever it arrives, and whether there are settings
does not depend on that either; lower places have no say, not even if the text names nothing. -/
theorem blacklist_of_text (text : String) :
    (NamesBetween text (namesIn (some text)) ∧
      (∀ name ∈ namesIn (some text), IsListed name) ∧
      (∀ names, (∀ name ∈ names, IsListed name) →
        namesIn (some (String.intercalate "," names)) = names) ∧
      namesIn (some (String.intercalate "," (namesIn (some text)))) = namesIn (some text)) ∧
    parse? ["--blacklist", text] = some (.scan (Options.skipping (some text) {})) ∧
    ∀ (fs : FileSystem) (environment : List (String × String)) (o : Options),
      (∀ settings,
        load fs (o.config.map Path.ofString) environment (overridesOf o) = .ok settings →
        load fs (o.config.map Path.ofString) environment (overridesOf (o.skipping (some text))) =
          .ok { settings with blacklist := (namesIn (some text)).map .text }) ∧
      (Arrives fs (o.config.map Path.ofString) environment o.blacklist text →
        ∀ settings,
          (load fs (o.config.map Path.ofString) environment (overridesOf o) = .ok settings ↔
            load fs (o.config.map Path.ofString) environment
              (overridesOf (o.skipping (some text))) = .ok settings) ∧
          (load fs (o.config.map Path.ofString) environment (overridesOf o) = .ok settings →
            settings.blacklist = (namesIn (some text)).map .text ∧
              (text = "" → settings.blacklist = []))) := by
  have hlisted : ∀ name ∈ namesIn (some text), IsListed name := fun _ => isListed_of_mem_namesIn
  refine ⟨⟨namesIn_eq_iff.1 rfl, hlisted, fun _ => namesIn_intercalate,
    namesIn_intercalate hlisted⟩, parse?_blacklist text, fun fs environment o => ?_⟩
  have hoption : Arrives fs (o.config.map Path.ofString) environment (some text) text :=
    .asOption text
  refine ⟨fun settings => load_skipping hoption, fun harrives settings => ⟨⟨fun hload => ?_,
    fun hload => ?_⟩, fun hload => ?_⟩⟩
  · rw [load_skipping hoption hload, ← blacklist_of_arrives harrives hload]
  · have hback := load_skipping (o := o.skipping (some text)) harrives hload
    rwa [← blacklist_of_arrives (o := o.skipping (some text)) hoption hload] at hback
  · have hblacklist := blacklist_of_arrives harrives hload
    refine ⟨hblacklist, ?_⟩
    rintro rfl
    exact hblacklist

/-- A project whose configuration file names a directory to skip. -/
def skippingProject : Snapshot :=
  { workingDirectory := { anchor := .root, components := ["p"] }
    looks := [(configuredPath, .file (.ok (asciiBytes "blacklist = 'dist'\n")))] }

theorem eq_of_isSkippingTable {x : Except Toml.Fault Toml.Table}
    (h : (match x with
      | .ok [("blacklist", .text "dist")] => true
      | _ => false) = true) :
    x = .ok [("blacklist", .text "dist")] := by
  split at h
  · rfl
  · cases h

theorem projectSets_skippingProject :
    ProjectSets skippingProject.fileSystem [("blacklist", .text "dist")] := by
  refine .inl ⟨?_, eq_of_isSkippingTable ?_⟩
  · rfl
  · decide +kernel

/-- The directory that the file names is not skipped: an empty variable lies over the file. -/
theorem blacklist_of_text_skippingProject :
    Arrives skippingProject.fileSystem none [("SFC_INSIGHT_BLACKLIST", "")] none "" ∧
      ∃ settings, settings.blacklist = [] ∧
        load skippingProject.fileSystem none [("SFC_INSIGHT_BLACKLIST", "")] (overridesOf {}) =
          .ok settings ∧
        load skippingProject.fileSystem none [("SFC_INSIGHT_BLACKLIST", "")]
          (overridesOf (Options.skipping (some "") {})) = .ok settings := by
  have hset : [("SFC_INSIGHT_BLACKLIST", "")].lookup "SFC_INSIGHT_BLACKLIST" = some "" := rfl
  have harrives : Arrives skippingProject.fileSystem none [("SFC_INSIGHT_BLACKLIST", "")] none "" :=
    .asVariable hset
  have hword : HasBooleanWord [("SFC_INSIGHT_BLACKLIST", "")] := by
    intro text h
    cases h
  have hsettle : Sources.Settle
      { project := [("blacklist", .text "dist")]
        explicit := []
        environment := [("SFC_INSIGHT_BLACKLIST", "")]
        overrides := overridesOf {} }
      { folder := ".", blacklist := [], complexity := .bool false, extension := ".vue",
        verbosity := .normal, scoring := .usual } :=
    { folder := rfl
      folder_ne_empty := by decide
      blacklist := rfl
      complexity := rfl
      extension := rfl
      extension_dot := by decide
      verbosity := rfl
      scoring := rfl }
  have hexplicit : ExplicitSets skippingProject.fileSystem none [] := rfl
  have hload := (load_eq_ok_iff (namesOnce_overridesOf {})).2
    ⟨_, [], projectSets_skippingProject, hexplicit, Sources.acceptable_iff.2
      ⟨hword, ⟨by decide, fun e he _ => names_overridesOf _ e he⟩, _, hsettle⟩, hsettle⟩
  obtain ⟨hsame, hblacklist⟩ :=
    ((blacklist_of_text "").2.2 skippingProject.fileSystem [("SFC_INSIGHT_BLACKLIST", "")] {}).2
      harrives _
  exact ⟨harrives, _, (hblacklist hload).2 rfl, hload, hsame.1 hload⟩

end CommandLine
end ComponentCensus
