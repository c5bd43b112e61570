import ComponentCensus.Proofs.CommandLine.Scan

/-!
# Verbosity

The flags for verbosity decide which records of a scan are shown, and on nothing else.

* `Options.withFlags`, `parse?_append` — the options with the flags, and flags in front of other
  arguments.
* `load_withFlags` — the settings with the flags differ from those without in the verbosity.
* `Outcome.shownFrom` — an outcome with the records from a level on.
* `shownRecords`, `records_of_run` — the records of the scan that a run does, which are those that
  its outcome comes with.
* `run_withFlags` — a run with the flags ends as a run that shows everything, but for the records
  below its level.
-/

set_option autoImplicit false

namespace ComponentCensus
namespace CommandLine

open Settings Console

/-! ## Flags among the arguments -/

/-- The options with flags for verbosity added. -/
def Options.withFlags (verbose quiet : Bool) (o : Options) : Options :=
  { o with verbose := o.verbose || verbose, quiet := o.quiet || quiet }

theorem Options.withFlags_false (o : Options) : o.withFlags false false = o := by
  simp [withFlags]

/-- The arguments that ask for everything to be logged. -/
def verboseFlags : List String := ["-v", "--verbose"]

/-- The arguments that ask for errors only to be logged. -/
def quietFlags : List String := ["-q", "--quiet"]

/-- What an option does, it does as well after the flags. -/
def OptionKind.Commutes (verbose quiet : Bool) : OptionKind → Prop
  | flag set => ∀ o, set (o.withFlags verbose quiet) = (set o).withFlags verbose quiet
  | valued set => ∀ v o, set v (o.withFlags verbose quiet) = (set v o).withFlags verbose quiet

theorem of_lookup {α β : Type} [BEq α] {P : β → Prop} {entries : List (α × β)} {key : α} {b : β}
    (hall : ∀ e ∈ entries, P e.2) (h : entries.lookup key = some b) : P b := by
  induction entries with
  | nil => cases h
  | cons e entries ih =>
    obtain ⟨he, hentries⟩ := List.forall_mem_cons.1 hall
    rw [List.lookup_cons] at h
    split at h
    · cases h
      exact he
    · exact ih hentries h

section
variable (verbose quiet : Bool)

theorem commutes_longOptions : ∀ e ∈ longOptions, e.2.Commutes verbose quiet := by
  simp [longOptions, OptionKind.Commutes, Options.withFlags]

theorem commutes_shortOptions : ∀ e ∈ shortOptions, e.2.Commutes verbose quiet := by
  simp [shortOptions, OptionKind.Commutes, Options.withFlags]

/-- The options with the flags, in front of what is left. -/
def withFlagsFirst (r : Options × List String) : Options × List String :=
  (r.1.withFlags verbose quiet, r.2)

theorem readShort_withFlags (o : Options) (rest : List String) (cs : List Char) :
    readShort (o.withFlags verbose quiet) rest cs =
      (readShort o rest cs).map (withFlagsFirst verbose quiet) := by
  induction cs generalizing o with
  | nil => rfl
  | cons c cs ih =>
    rw [readShort, readShort]
    cases hlookup : shortOptions.lookup c with
    | none => rfl
    | some kind =>
      have hcommutes := of_lookup (commutes_shortOptions verbose quiet) hlookup
      cases kind with
      | flag set =>
        dsimp only
        rw [hcommutes o, ih]
      | valued set =>
        dsimp only
        split
        · rfl
        · rw [hcommutes]
          rfl
        · rw [hcommutes]
          rfl

theorem readOption_withFlags (o : Options) (arg : String) (rest : List String) :
    readOption (o.withFlags verbose quiet) arg rest =
      (readOption o arg rest).map (withFlagsFirst verbose quiet) := by
  rw [readOption, readOption]
  dsimp only
  cases hlookup : longOptions.lookup (splitValue arg).1 with
  | none =>
    dsimp only
    split
    · rfl
    · exact readShort_withFlags verbose quiet o rest _
  | some kind =>
    have hcommutes := of_lookup (commutes_longOptions verbose quiet) hlookup
    cases kind with
    | flag set =>
      dsimp only
      split
      · rfl
      · rw [hcommutes]
        rfl
    | valued set =>
      dsimp only
      split
      · rw [hcommutes]
        rfl
      · rw [hcommutes]
        rfl
      · rfl

theorem readOptions_withFlags (fuel : Nat) (o : Options) (args : List String) :
    readOptions fuel (o.withFlags verbose quiet) args =
      (readOptions fuel o args).map (withFlagsFirst verbose quiet) := by
  induction fuel generalizing o args with
  | zero => rfl
  | succ fuel ih =>
    cases args with
    | nil => rfl
    | cons arg rest =>
      rw [readOptions, readOptions, readOption_withFlags]
      split
      · rfl
      · split
        · cases readOption o arg rest with
          | none => rfl
          | some r => exact ih r.1 r.2
        · rfl

end

/-- The flags switch on what they stand for. -/
theorem readOption_flag (o : Options) {flag : String} (hflag : flag ∈ verboseFlags ++ quietFlags)
    (args : List String) :
    readOption o flag args =
      some (o.withFlags (decide (flag ∈ verboseFlags)) (decide (flag ∈ quietFlags)), args) := by
  have hverbose : o.withFlags true false = { o with verbose := true } := by
    simp [Options.withFlags]
  have hquiet : o.withFlags false true = { o with quiet := true } := by
    simp [Options.withFlags]
  simp only [verboseFlags, quietFlags, List.cons_append, List.nil_append, List.mem_cons,
    List.not_mem_nil, or_false] at hflag
  rcases hflag with rfl | rfl | rfl | rfl
  · exact congrArg (fun o => some (o, args)) hverbose.symm
  · exact congrArg (fun o => some (o, args)) hverbose.symm
  · exact congrArg (fun o => some (o, args)) hquiet.symm
  · exact congrArg (fun o => some (o, args)) hquiet.symm

theorem isOption_flag {flag : String} (hflag : flag ∈ verboseFlags ++ quietFlags) :
    flag ≠ "--" ∧ isOption flag = true := by
  revert flag
  decide

/-- Whether one of some flags asks for everything to be logged. -/
def anyVerbose (flags : List String) : Bool := flags.any fun flag => decide (flag ∈ verboseFlags)

/-- Whether one of some flags asks for errors only to be logged. -/
def anyQuiet (flags : List String) : Bool := flags.any fun flag => decide (flag ∈ quietFlags)

theorem readOptions_append {flags : List String}
    (hflags : ∀ flag ∈ flags, flag ∈ verboseFlags ++ quietFlags) (fuel : Nat) (o : Options)
    (args : List String) :
    readOptions (flags.length + fuel) o (flags ++ args) =
      (readOptions fuel o args).map (withFlagsFirst (anyVerbose flags) (anyQuiet flags)) := by
  rw [← readOptions_withFlags]
  induction flags generalizing o with
  | nil =>
    rw [anyVerbose, anyQuiet, List.any_nil, List.any_nil, Options.withFlags_false, List.nil_append,
      List.length_nil, Nat.zero_add]
  | cons flag flags ih =>
    obtain ⟨hflag, hflags⟩ := List.forall_mem_cons.1 hflags
    obtain ⟨hne, hoption⟩ := isOption_flag hflag
    have hlength : (flag :: flags).length + fuel = flags.length + fuel + 1 := by
      rw [List.length_cons]
      omega
    rw [hlength, List.cons_append, readOptions, if_neg hne, if_pos hoption,
      readOption_flag o hflag]
    dsimp only
    rw [ih hflags]
    simp only [Options.withFlags, anyVerbose, anyQuiet, List.any_cons, Bool.or_assoc]

/-- Flags in front of the arguments of a scan are added to its options. -/
theorem parse?_append {flags args : List String} {o : Options}
    (hflags : ∀ flag ∈ flags, flag ∈ verboseFlags ++ quietFlags)
    (hparse : parse? args = some (.scan o)) :
    parse? (flags ++ args) = some (.scan (o.withFlags (anyVerbose flags) (anyQuiet flags))) := by
  have hlength : (flags ++ args).length + 1 = flags.length + (args.length + 1) := by
    rw [List.length_append]
    omega
  unfold parse? at hparse ⊢
  rw [hlength, readOptions_append hflags]
  cases hread : readOptions (args.length + 1) {} args with
  | none =>
    rw [hread] at hparse
    cases hparse
  | some r =>
    obtain ⟨options, rest⟩ := r
    rw [hread] at hparse
    dsimp only at hparse
    split at hparse
    · cases hparse
    · rename_i hhelp
      cases rest with
      | nil =>
        cases hparse
        have hhelp' : (o.withFlags (anyVerbose flags) (anyQuiet flags)).help ≠ true := hhelp
        simp only [Option.map_some, withFlagsFirst, if_neg hhelp']
      | cons command rest =>
        dsimp only at hparse
        split at hparse
        · split at hparse <;> cases hparse
        · cases hparse

/-! ## Settings -/

/-- The verbosity that flags decide on, over one that is set elsewhere; silence wins. -/
def verbosityWith (verbose quiet : Bool) (v : Verbosity) : Verbosity :=
  if quiet then .quiet else if verbose then .verbose else v

/-- The level from which on records are shown with flags for verbosity. -/
def levelWith (verbose quiet : Bool) (v : Verbosity) : Log.Level :=
  if quiet then .error else if verbose then .debug else levelOf v

theorem levelOf_verbosityWith (verbose quiet : Bool) (v : Verbosity) :
    levelOf (verbosityWith verbose quiet v) = levelWith verbose quiet v := by
  cases quiet with
  | true => rfl
  | false =>
    cases verbose with
    | true => rfl
    | false => rfl

example : levelWith false false .normal = .warning := rfl

section
variable {o : Options} (verbose quiet : Bool)

/-- What the options set, but for the flags. -/
def plainOverrides (o : Options) : Entries :=
  (o.folder.map fun f => ("folder", Value.text (Path.ofString f).text)).toList ++
    (o.blacklist.map fun b =>
      ("blacklist", Value.list ((namesIn (some b)).map .text))).toList ++
    (if o.complexity then [("complexity", .bool true)] else [])

theorem overridesOf_eq (o : Options) :
    overridesOf o = plainOverrides o ++ ((if o.verbose then [("verbose", .bool true)] else []) ++
      (if o.quiet then [("quiet", .bool true)] else [])) := by
  rw [overridesOf, plainOverrides, List.append_assoc]

theorem names_plainOverrides (o : Options) :
    ∀ e ∈ plainOverrides o, e.1 ∈ ["folder", "blacklist", "complexity"] := by
  intro e he
  simp only [plainOverrides, List.mem_append, Option.mem_toList,
    Option.map_eq_some_iff] at he
  rcases he with (⟨_, _, rfl⟩ | ⟨_, _, rfl⟩) | he
  · exact List.mem_cons_self
  · exact List.mem_cons_of_mem _ List.mem_cons_self
  · split at he
    · rw [List.mem_singleton.1 he]
      exact List.mem_cons_of_mem _ (List.mem_cons_of_mem _ List.mem_cons_self)
    · cases he

theorem names_overridesOf (o : Options) :
    ∀ e ∈ overridesOf o, e.1 ∈ "verbose" :: "quiet" :: ScanSettings.fieldNames := by
  intro e he
  rw [overridesOf_eq] at he
  rcases List.mem_append.1 he with he | he
  · have hnames : ["folder", "blacklist", "complexity"] ⊆
        "verbose" :: "quiet" :: ScanSettings.fieldNames := by decide
    exact hnames (names_plainOverrides o e he)
  · rcases List.mem_append.1 he with he | he
    · split at he
      · rw [List.mem_singleton.1 he]
        exact List.mem_cons_self
      · cases he
    · split at he
      · rw [List.mem_singleton.1 he]
        exact List.mem_cons_of_mem _ List.mem_cons_self
      · cases he

theorem lookup_plainOverrides {key : String} (hkey : key ∉ ["folder", "blacklist", "complexity"])
    (o : Options) : (plainOverrides o).lookup key = none := by
  rw [lookup_eq_none_iff_not_mem]
  intro hmem
  obtain ⟨e, he, rfl⟩ := List.mem_map.1 hmem
  exact hkey (names_plainOverrides o e he)

theorem lookup_flag (isOn : Bool) (flag key : String) :
    (if isOn then [(flag, Value.bool true)] else []).lookup key =
      if key = flag ∧ isOn then some (.bool true) else none := by
  cases isOn with
  | false => simp
  | true =>
    by_cases hkey : key = flag
    · simp [hkey]
    · have hne : (key == flag) = false := by simpa using hkey
      simp [List.lookup_cons, hkey, hne]

theorem lookup_overridesOf (o : Options) (key : String) :
    (overridesOf o).lookup key =
      if key = "verbose" ∧ o.verbose then some (.bool true)
      else if key = "quiet" ∧ o.quiet then some (.bool true)
      else (plainOverrides o).lookup key := by
  rw [overridesOf_eq, List.lookup_append, List.lookup_append, lookup_flag, lookup_flag]
  by_cases hverbose : key = "verbose"
  · subst hverbose
    rw [lookup_plainOverrides (by decide)]
    simp
  · by_cases hquiet : key = "quiet"
    · subst hquiet
      rw [lookup_plainOverrides (by decide)]
      simp
    · simp [hverbose, hquiet]

theorem flagIsOn_overridesOf (o : Options) :
    flagIsOn (overridesOf o) "verbose" = o.verbose ∧
      flagIsOn (overridesOf o) "quiet" = o.quiet := by
  rw [flagIsOn, flagIsOn, lookup_overridesOf, lookup_overridesOf, lookup_plainOverrides (by decide),
    lookup_plainOverrides (by decide)]
  cases o.verbose <;> cases o.quiet <;> exact ⟨rfl, rfl⟩

/-- What a command line sets with flags for verbosity. -/
theorem callerValue_overridesOf (o : Options) (key : String) :
    callerValue (overridesOf o) key =
      if key = "verbosity" ∧ o.quiet then some (.text "quiet")
      else if key = "verbosity" ∧ o.verbose then some (.text "verbose")
      else ((plainOverrides o).lookup key).filter Value.isGiven := by
  obtain ⟨hverbose, hquiet⟩ := flagIsOn_overridesOf o
  rw [callerValue, hverbose, hquiet, lookup_overridesOf]
  by_cases hflag : key = "verbose" ∨ key = "quiet"
  · rcases hflag with rfl | rfl <;> simp [lookup_plainOverrides]
  · rw [if_neg hflag]
    have hne := not_or.1 hflag
    simp [hne.1, hne.2]

end

section
variable {fs : FileSystem} {environment : List (String × String)} {o : Options}
  {settings : ScanSettings Scoring}

theorem value_withFlags (project explicit : Entries) (environment : List (String × String))
    (hverbose : o.verbose = false) (hquiet : o.quiet = false) (verbose quiet : Bool)
    (key : String) :
    Sources.value ⟨project, explicit, environment, overridesOf (o.withFlags verbose quiet)⟩ key =
      if key = "verbosity" ∧ quiet then some (.text "quiet")
      else if key = "verbosity" ∧ verbose then some (.text "verbose")
      else Sources.value ⟨project, explicit, environment, overridesOf o⟩ key := by
  simp only [Sources.value, callerValue_overridesOf, Options.withFlags, hverbose, hquiet,
    Bool.false_or, Bool.false_eq_true, and_false, if_false]
  split
  · rfl
  · split <;> rfl

/-- Other options lead to the settings that they settle, if some options lead to any: what the files
and the environment say is acceptable, and a command line only sets what is known. -/
theorem load_of_settle {configFile : Option Path} {o' : Options} {settings' : ScanSettings Scoring}
    (hload : load fs configFile environment (overridesOf o) = .ok settings)
    (hsettle : ∀ project explicit, ProjectSets fs project → ExplicitSets fs configFile explicit →
      Sources.Settle ⟨project, explicit, environment, overridesOf o⟩ settings →
        Sources.Settle ⟨project, explicit, environment, overridesOf o'⟩ settings') :
    load fs configFile environment (overridesOf o') = .ok settings' := by
  obtain ⟨project, explicit, hproject, hexplicit, hacceptable, hsettled⟩ :=
    (load_eq_ok_iff (namesOnce_overridesOf o)).1 hload
  have hsettled' := hsettle project explicit hproject hexplicit hsettled
  exact (load_eq_ok_iff (namesOnce_overridesOf o')).2 ⟨project, explicit, hproject, hexplicit,
    Sources.acceptable_iff.2 ⟨hacceptable.word,
      ⟨hacceptable.filesKnown, fun e he _ => names_overridesOf _ e he⟩, _, hsettled'⟩, hsettled'⟩

/-- **The settings with flags for verbosity are those without, but for the verbosity.** -/
theorem load_withFlags (hverbose : o.verbose = false) (hquiet : o.quiet = false)
    (hload : load fs (o.config.map Path.ofString) environment (overridesOf o) = .ok settings)
    (verbose quiet : Bool) :
    load fs (o.config.map Path.ofString) environment (overridesOf (o.withFlags verbose quiet)) =
      .ok { settings with verbosity := verbosityWith verbose quiet settings.verbosity } := by
  refine load_of_settle hload fun project explicit _ _ hsettle => ?_
  have hvalue := value_withFlags project explicit environment hverbose hquiet verbose quiet
  have hother : ∀ key, key ≠ "verbosity" →
      Sources.value ⟨project, explicit, environment, overridesOf (o.withFlags verbose quiet)⟩ key =
        Sources.value ⟨project, explicit, environment, overridesOf o⟩ key := fun key hkey => by
    rw [hvalue, if_neg fun h => hkey h.1, if_neg fun h => hkey h.1]
  exact
    { folder := by rw [hother _ (by decide)]; exact hsettle.folder
      folder_ne_empty := hsettle.folder_ne_empty
      blacklist := by rw [hother _ (by decide)]; exact hsettle.blacklist
      complexity := by rw [hother _ (by decide)]; exact hsettle.complexity
      extension := by rw [hother _ (by decide)]; exact hsettle.extension
      extension_dot := hsettle.extension_dot
      verbosity := by
        rw [hvalue]
        cases quiet with
        | true => rfl
        | false =>
          cases verbose with
          | true => rfl
          | false => exact hsettle.verbosity
      scoring := by rw [hother _ (by decide)]; exact hsettle.scoring }

end

/-! ## Runs -/

/-- The outcome with the records from a level on. -/
def Outcome.shownFrom (level : Log.Level) : Outcome → Outcome
  | finished output records => .finished output (Log.shownFrom level records)
  | failed failure report records => .failed failure report (Log.shownFrom level records)
  | misused => .misused
  | crashed crash => .crashed crash

/-- The records of the scan that a run does, as far as they are shown; also of a run that ends with
a fault that nobody handles. -/
def shownRecords (fs : FileSystem) (environment : List (String × String)) (args : List String) :
    List Log.Record :=
  match parse? args with
  | some (.scan o) =>
    if !pathsHold fs o || o.version then []
    else
      match load fs (o.config.map Path.ofString) environment (overridesOf o) with
      | .error _ => []
      | .ok settings =>
        match scanWith fs settings with
        | .error _ => []
        | .ok s => Log.shownFrom (levelOf settings.verbosity) s.records
  | _ => []

/-- The records that an outcome comes with, if it comes with any. -/
def Outcome.records? : Outcome → Option (List Log.Record)
  | finished _ records => some records
  | failed _ _ records => some records
  | _ => none

variable {emoji : EmojiTable}

theorem records_failWith {f : Failure} {records shown : List Log.Record}
    (h : (failWith f records emoji).records? = some shown) : shown = records := by
  unfold failWith at h
  split at h
  · exact (Option.some.inj h).symm
  · cases h

theorem records_finishWith {lines : List String} {verbatim : List (List Char)}
    {shown : List Log.Record} (h : (finishWith lines verbatim emoji).records? = some shown) :
    shown = [] := by
  unfold finishWith at h
  split at h
  · exact (Option.some.inj h).symm
  · cases h

theorem records_endOfScan {format : Format} {level : Log.Level} {s : Scan}
    {shown : List Log.Record} (h : (endOfScan format level s emoji).records? = some shown) :
    shown = Log.shownFrom level s.records := by
  unfold endOfScan at h
  dsimp only at h
  split at h
  · exact records_failWith h
  · cases h
  · cases h
  · split at h
    · exact (Option.some.inj h).symm
    · cases h

/-- The records that the outcome of a scan comes with are those of the scan. -/
theorem records_of_run {fs : FileSystem} {environment : List (String × String)}
    {args : List String} {library : Library} {o : Options} (hparse : parse? args = some (.scan o))
    {shown : List Log.Record} (h : (run fs environment args library).records? = some shown) :
    shown = shownRecords fs environment args := by
  simp only [run, hparse] at h
  rw [shownRecords, hparse]
  dsimp only
  cases hpaths : pathsHold fs o with
  | false =>
    rw [hpaths] at h
    cases h
  | true =>
    cases hversion : o.version with
    | true =>
      rw [hpaths, hversion] at h
      exact records_finishWith h
    | false =>
      rw [hpaths, hversion] at h
      replace h : (runScan fs environment o library.emoji).records? = some shown := h
      rw [runScan] at h
      cases hload : load fs (o.config.map Path.ofString) environment (overridesOf o) with
      | error failure =>
        rw [hload] at h
        cases failure with
        | reported f => exact records_failWith h
        | lookFailed path reason => cases h
      | ok settings =>
        rw [hload] at h
        dsimp only at h ⊢
        cases hscan : scanWith fs settings with
        | error fault =>
          rw [hscan] at h
          cases h
        | ok s =>
          rw [hscan] at h
          exact records_endOfScan h

theorem shownFrom_debug (records : List Log.Record) : Log.shownFrom .debug records = records :=
  List.filter_eq_self.2 fun _ _ => decide_eq_true (Nat.zero_le _)

theorem failWith_shownFrom (f : Failure) (level : Log.Level) (records : List Log.Record) :
    failWith f (Log.shownFrom level records) emoji =
      (failWith f records emoji).shownFrom level := by
  unfold failWith
  cases printedMarkup emoji none (failureLine f) <;> rfl

theorem endOfScan_shownFrom (format : Format) (level : Log.Level) (s : Scan) :
    endOfScan format level s emoji = (endOfScan format .debug s emoji).shownFrom level := by
  simp only [endOfScan, shownFrom_debug]
  cases s.result with
  | error failure =>
    cases failure with
    | rootInaccessible path reason => exact failWith_shownFrom _ level s.records
    | malformedRoot => rfl
    | lookFailed path reason => rfl
  | ok summary =>
    dsimp only
    cases format.output summary emoji with
    | error fault => rfl
    | ok output => rfl

theorem finishWith_shownFrom (lines : List String) (verbatim : List (List Char))
    (level : Log.Level) :
    finishWith lines verbatim emoji = (finishWith lines verbatim emoji).shownFrom level := by
  unfold finishWith
  cases printedAll emoji none lines <;> rfl

/-- The outcome without its records: the status, the standard output and the report of a failure
are left. -/
def Outcome.withoutRecords : Outcome → Outcome
  | finished output _ => .finished output []
  | failed failure report _ => .failed failure report []
  | misused => .misused
  | crashed crash => .crashed crash

theorem Outcome.withoutRecords_shownFrom (level : Log.Level) (x : Outcome) :
    (x.shownFrom level).withoutRecords = x.withoutRecords := by
  cases x <;> rfl

section
variable {fs : FileSystem} {environment : List (String × String)} {args : List String}
  {library : Library} {o : Options} {settings : ScanSettings Scoring}

theorem run_scan_eq (hverbose : o.verbose = false) (hquiet : o.quiet = false)
    (hload : load fs (o.config.map Path.ofString) environment (overridesOf o) = .ok settings)
    {verbose quiet : Bool} (hparse : parse? args = some (.scan (o.withFlags verbose quiet))) :
    run fs environment args library =
      if !pathsHold fs o then .misused
      else if o.version then finishWith [versionLine] [] library.emoji
      else
        match scanWith fs settings with
        | .error fault => .crashed (.shape fault)
        | .ok s =>
          endOfScan (if o.json then .json else .text) (levelWith verbose quiet settings.verbosity)
            s library.emoji := by
  have hload' := load_withFlags hverbose hquiet hload verbose quiet
  have hscan : scanWith fs
      { settings with verbosity := verbosityWith verbose quiet settings.verbosity } =
        scanWith fs settings := rfl
  have hconfig : (o.withFlags verbose quiet).config = o.config := rfl
  simp only [run, hparse, runScan, hconfig, hload', hscan, levelOf_verbosityWith]
  rfl

theorem shownRecords_eq (hverbose : o.verbose = false) (hquiet : o.quiet = false)
    (hload : load fs (o.config.map Path.ofString) environment (overridesOf o) = .ok settings)
    {verbose quiet : Bool} (hparse : parse? args = some (.scan (o.withFlags verbose quiet))) :
    shownRecords fs environment args =
      if !pathsHold fs o || o.version then []
      else
        match scanWith fs settings with
        | .error _ => []
        | .ok s => Log.shownFrom (levelWith verbose quiet settings.verbosity) s.records := by
  have hload' := load_withFlags hverbose hquiet hload verbose quiet
  have hscan : scanWith fs
      { settings with verbosity := verbosityWith verbose quiet settings.verbosity } =
        scanWith fs settings := rfl
  have hconfig : (o.withFlags verbose quiet).config = o.config := rfl
  simp only [shownRecords, hparse, hconfig, hload', hscan, levelOf_verbosityWith]
  rfl

end

/-- **Verbosity decides on nothing but the records that are shown.**  Let the settings of a scan be
loaded without the flags for verbosity.  Arguments that ask for the same scan with such flags, or
without, lead to the run that shows all records but for those below one level, which the flags
decide on if there are any, and the settings otherwise.  Flags in front of the arguments are such
arguments. -/
theorem run_withFlags (fs : FileSystem) (environment : List (String × String))
    (args : List String) (library : Library) (o : Options) (settings : ScanSettings Scoring)
    (hparse : parse? args = some (.scan o)) (hverbose : o.verbose = false)
    (hquiet : o.quiet = false)
    (hload : load fs (o.config.map Path.ofString) environment (overridesOf o) = .ok settings) :
    (∀ args' verbose quiet, parse? args' = some (.scan (o.withFlags verbose quiet)) →
      (run fs environment args' library).withoutRecords =
        (run fs environment args library).withoutRecords ∧
      run fs environment args' library =
        (run fs environment ("-v" :: args) library).shownFrom
          (levelWith verbose quiet settings.verbosity) ∧
      shownRecords fs environment args' =
        Log.shownFrom (levelWith verbose quiet settings.verbosity)
          (shownRecords fs environment ("-v" :: args))) ∧
    ∀ flags, (∀ flag ∈ flags, flag ∈ verboseFlags ++ quietFlags) →
      parse? (flags ++ args) = some (.scan (o.withFlags (anyVerbose flags) (anyQuiet flags))) := by
  have hflag : ∀ flag ∈ ["-v"], flag ∈ verboseFlags ++ quietFlags := by decide
  have hall : parse? ("-v" :: args) = some (.scan (o.withFlags true false)) :=
    parse?_append hflag hparse
  have hnone : parse? args = some (.scan (o.withFlags false false)) := by
    rw [hparse, Options.withFlags_false]
  have hrun : ∀ args' verbose quiet, parse? args' = some (.scan (o.withFlags verbose quiet)) →
      run fs environment args' library = (run fs environment ("-v" :: args) library).shownFrom
        (levelWith verbose quiet settings.verbosity) := by
    intro args' verbose quiet hargs
    rw [run_scan_eq hverbose hquiet hload hargs, run_scan_eq hverbose hquiet hload hall]
    split
    · rfl
    · split
      · exact finishWith_shownFrom _ _ _
      · cases scanWith fs settings with
        | error fault => rfl
        | ok s => exact endOfScan_shownFrom _ _ s
  refine ⟨fun args' verbose quiet hargs => ⟨?_, hrun args' verbose quiet hargs, ?_⟩,
    fun flags hflags => parse?_append hflags hparse⟩
  · rw [hrun args' verbose quiet hargs, hrun args false false hnone,
      Outcome.withoutRecords_shownFrom, Outcome.withoutRecords_shownFrom]
  · rw [shownRecords_eq hverbose hquiet hload hargs, shownRecords_eq hverbose hquiet hload hall]
    split
    · rfl
    · cases scanWith fs settings with
      | error fault => rfl
      | ok s => exact congrArg _ (shownFrom_debug s.records).symm

/-- The usual settings, and both flags in front of no arguments. -/
theorem run_withFlags_loopedTree :
    parse? [] = some (.scan {}) ∧
      (∃ settings, load loopedTree.fileSystem none [] (overridesOf {}) = .ok settings) ∧
      run loopedTree.fileSystem [] ["-q", "-v"] =
        (run loopedTree.fileSystem [] ["-v"]).shownFrom .error := by
  have hparse : parse? [] = some (.scan {}) := rfl
  have hload : load loopedTree.fileSystem none [] (overridesOf {}) =
      .ok { folder := ".", blacklist := [], complexity := .bool false, extension := ".vue",
            verbosity := .normal, scoring := .usual } := by rfl
  obtain ⟨hruns, hflags⟩ :=
    run_withFlags loopedTree.fileSystem [] [] {} {} _ hparse rfl rfl hload
  exact ⟨hparse, ⟨_, hload⟩, (hruns _ _ _ (hflags ["-q", "-v"] (by decide))).2.1⟩

end CommandLine
end ComponentCensus
