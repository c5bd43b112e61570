import ComponentCensus.Proofs.Census.Reading
import ComponentCensus.Proofs.CommandLine.Verbosity
import ComponentCensus.Proofs.Report.Groups
import ComponentCensus.Proofs.Report.Output

/-!
# Explaining what a scan counted

A scan and an explanation load their settings in different ways, come to a file in different ways,
and look at it for different purposes.  Whoever asks to have a path explained that a scan has found
still gets to know what the scan counted.

* `scoring_eq_of_load` — the options of a scan have no effect on the scoring.
* `run_scan_finished`, `run_explain_finished` — what a run that finishes has gone through.
* `exists_run_scan_finished` — a scan that comes to the end of its walk finishes.
* `AgreesWithScan`, `explain_agrees_with_scan` — what an explanation and a scan agree on.
-/

set_option autoImplicit false

namespace ComponentCensus

open Settings

/-! ## The scoring -/

namespace Settings

/-- A value stands for one scoring at most. -/
theorem ScoringIs.unique {value : Option Value} {scoring scoring' : Scoring}
    (h : ScoringIs value scoring) (h' : ScoringIs value scoring') : scoring = scoring' := by
  unfold ScoringIs at h h'
  split at h
  · exact h.trans h'.symm
  · exact h.trans h'.symm
  · exact h.trans h'.symm
  · exact Except.ok.inj ((scoringOf_eq_ok_iff.2 h).symm.trans (scoringOf_eq_ok_iff.2 h'))
  · exact h.elim

/-- Callers that do not set the scoring get the same one, whatever else they set. -/
theorem scoring_eq_of_load {fs : FileSystem} {configFile : Option Path}
    {environment : List (String × String)} {overrides overrides' : Entries}
    {settings settings' : ScanSettings Scoring} (hnames : NamesOnce overrides)
    (hnames' : NamesOnce overrides') (hunset : callerValue overrides "scoring" = none)
    (hunset' : callerValue overrides' "scoring" = none)
    (hload : load fs configFile environment overrides = .ok settings)
    (hload' : load fs configFile environment overrides' = .ok settings') :
    settings'.scoring = settings.scoring := by
  obtain ⟨project, explicit, hproject, hexplicit, -, hsettle⟩ := (load_eq_ok_iff hnames).1 hload
  obtain ⟨project', explicit', hproject', hexplicit', -, hsettle'⟩ :=
    (load_eq_ok_iff hnames').1 hload'
  have hp : project = project' := Except.ok.inj
    ((projectEntries_eq_ok_iff.2 hproject).symm.trans (projectEntries_eq_ok_iff.2 hproject'))
  have he : explicit = explicit' := Except.ok.inj
    ((explicitEntries_eq_ok_iff.2 hexplicit).symm.trans (explicitEntries_eq_ok_iff.2 hexplicit'))
  subst hp he
  have hscoring := hsettle.scoring
  have hscoring' := hsettle'.scoring
  simp only [Sources.value, hunset, hunset', Option.none_or] at hscoring hscoring'
  exact hscoring'.unique hscoring

end Settings

namespace CommandLine

theorem callerValue_overridesOf_scoring (o : Options) :
    callerValue (overridesOf o) "scoring" = none := by
  simp [callerValue_overridesOf, lookup_plainOverrides]

/-! ## Runs that finish -/

/-- The walk of a scan with some settings. -/
def walkWith (fs : FileSystem) (settings : ScanSettings Scoring) : Walk fs.Directory :=
  walk fs (Path.ofString settings.folder) settings.skipped settings.extension

/-- The scoring of a scan with some settings, if it scores components. -/
def scoringWith (settings : ScanSettings Scoring) : Option Scoring :=
  if settings.complexity.isTrue then some settings.scoring else none

section
variable {fs : FileSystem} {environment : List (String × String)} {args : List String}
  {library : Library} {emoji : Console.EmojiTable} {o : Options} {output : String}
  {records : List Log.Record}

theorem failWith_ne_finished (f : Failure) (records' : List Log.Record) :
    failWith f records' emoji ≠ .finished output records := by
  unfold failWith
  split <;> simp

theorem endOfLoad_ne_finished (failure : LoadFailure) :
    endOfLoad failure emoji ≠ .finished output records := by
  cases failure with
  | reported f => exact failWith_ne_finished f []
  | lookFailed path reason => simp [endOfLoad]

theorem endOfScan_eq_finished {format : Format} {level : Log.Level} {x : Scan}
    (h : endOfScan format level x emoji = .finished output records) :
    ∃ s, x.result = .ok s ∧ format.output s emoji = .ok output ∧
      records = Log.shownFrom level x.records := by
  unfold endOfScan at h
  dsimp only at h
  split at h
  · exact absurd h (failWith_ne_finished _ _)
  · cases h
  · cases h
  · rename_i s hresult
    split at h
    · rename_i hformat
      cases h
      exact ⟨s, hresult, hformat, rfl⟩
    · cases h

/-- A scan that finishes has loaded its settings and written its summary. -/
theorem run_scan_finished (hparse : parse? args = some (.scan o)) (hversion : o.version = false)
    (h : run fs environment args library = .finished output records) :
    ∃ settings x s,
      load fs (o.config.map Path.ofString) environment (overridesOf o) = .ok settings ∧
      scanWith fs settings = .ok x ∧ x.result = .ok s ∧
      (if o.json then Format.json else .text).output s library.emoji = .ok output ∧
      records = Log.shownFrom (levelOf settings.verbosity) x.records := by
  simp only [run, hparse, hversion] at h
  split at h
  · cases h
  · replace h : runScan fs environment o library.emoji = .finished output records := h
    unfold runScan at h
    split at h
    · exact absurd h (endOfLoad_ne_finished _)
    · rename_i settings hload
      split at h
      · cases h
      · rename_i x hscan
        obtain ⟨s, hresult, houtput, hrecords⟩ := endOfScan_eq_finished h
        exact ⟨settings, x, s, hload, hscan, hresult, houtput, hrecords⟩

/-- An explanation that finishes has loaded its settings and read the component. -/
theorem run_explain_finished {file : String} (hparse : parse? args = some (.explain o file))
    (h : run fs environment args library = .finished output records) :
    ∃ settings c, load fs none environment [] = .ok settings ∧
      readComponent fs (Path.ofString file) = .ok c ∧
      finishWith (explanation settings.scoring c).1 (explanation settings.scoring c).2
        library.emoji = .finished output records := by
  simp only [run, hparse] at h
  split at h
  · unfold runExplain at h
    split at h
    · exact absurd h (endOfLoad_ne_finished _)
    · rename_i settings hload
      split at h
      · exact absurd h (failWith_ne_finished _ _)
      · cases h
      · rename_i c hread
        exact ⟨settings, c, hload, hread, h⟩
  · cases h

end

/-- With or without a scoring, the summary of a scan can be written in both formats. -/
theorem exists_output_eq_ok {sc? : Option Scoring} {cs : List Component} {s : Summary}
    (h : s.Describes sc? cs) (format : Format) (emoji : Console.EmojiTable) :
    ∃ output, format.output s emoji = .ok output := by
  cases format with
  | json => exact ⟨_, rfl⟩
  | text =>
    have hoverview : s.overview ≠ none := by
      cases sc? with
      | some sc =>
        obtain ⟨b, counts, listed, -, hoverview, -⟩ := h.exists_overview
        simp [hoverview]
      | none =>
        obtain ⟨counts, hcounts⟩ := h.exists_countLines
        simp [Summary.overview, hcounts, h.unscored rfl]
    cases houtline : s.outline with
    | none => exact absurd (Format.people_of_outline_eq_none emoji houtline none).1 hoverview
    | some lines =>
      obtain ⟨shown, -, hpeople⟩ := Format.exists_people_eq houtline
      exact ⟨_, hpeople none⟩

/-- A scan that loads its settings and comes to the end of its walk finishes. -/
theorem exists_run_scan_finished {fs : FileSystem} {environment : List (String × String)}
    {args : List String} {library : Library} {o : Options} {settings : ScanSettings Scoring}
    {x : Scan}
    (hparse : parse? args = some (.scan o)) (hversion : o.version = false)
    (hpaths : pathsHold fs o = true)
    (hload : load fs (o.config.map Path.ofString) environment (overridesOf o) = .ok settings)
    (hscan : scanWith fs settings = .ok x) (hw : (walkWith fs settings).failure = none) :
    ∃ report records, run fs environment args library = .finished report records := by
  have hresult : x.result = .ok (census (scoringWith settings) (walkWith fs settings).components) :=
    (scanWith_eq_ok_iff.1 hscan).2 ▸ scan_result_eq_ok_iff.2 ⟨hw, rfl⟩
  obtain ⟨report, hreport⟩ := exists_output_eq_ok (census_describes (scoringWith settings)
    (walkWith fs settings).components) (if o.json then .json else .text) library.emoji
  refine ⟨report, Log.shownFrom (levelOf settings.verbosity) x.records, ?_⟩
  simp only [run, hparse, hpaths, hversion, Bool.not_true, Bool.false_eq_true, if_false, runScan,
    hload, hscan, endOfScan, hresult, hreport]

/-! ## What both agree on -/

/-- What an explanation says of a component, which is a trace, further lines and texts behind them,
agrees with what a scan with some components has counted and recorded. -/
structure AgreesWithScan (x : Scan) (s : Summary) (cs : List Component) (c : Component) (t : Trace)
    (rest : List String) (verbatim : List (List Char)) : Prop where
  /-- The component is counted with the style that is explained. -/
  counted : c ∈ ofStyle t.style cs
  /-- If components were scored, the lines about an options component are those of the only
  assessment that the summary has for its path. -/
  assessed : t.style = some .options → ∀ b, s.complexity = some b → ∃ a,
    rest = assessmentLines a ∧ (b.assessments.filter fun a => a.path = c.path) = [a] ∧
    a ∈ (b.forTier a.tier).details
  /-- The script shown for an unclassified component is the one in its diagnosis. -/
  diagnosed : t.style = some .unclassified →
    verbatim = [c.script.toList] ∧ c.unclassifiedRecord ∈ x.records

/-- An explanation under the scoring of a scan agrees with the scan. -/
theorem explanation_agrees {x : Scan} {s : Summary} {cs : List Component} {c : Component}
    {sc : Scoring} {scoring : Option Scoring} (hscoring : scoring = none ∨ scoring = some sc)
    (hdescribes : s.Describes scoring cs) (hnodup : (cs.map Component.path).Nodup) (hc : c ∈ cs)
    (hdiagnosed : ∀ c' ∈ ofStyle (some .unclassified) cs, c'.unclassifiedRecord ∈ x.records) :
    ∃ t rest verbatim, explanation sc c = (traceLines c.path t ++ rest, verbatim) ∧
      AgreesWithScan x s cs c t rest verbatim := by
  have hcounted : c ∈ ofStyle (traceOf c.content.toList).style cs :=
    List.mem_filter.2 ⟨hc, decide_eq_true rfl⟩
  cases hstyle : (traceOf c.content.toList).style with
  | none =>
    refine ⟨traceOf c.content.toList, [], [], ?_, hcounted, ?_, ?_⟩
    · simp only [explanation, hstyle, List.append_nil]
    · simp [hstyle]
    · simp [hstyle]
  | some style =>
    cases style with
    | options =>
      refine ⟨traceOf c.content.toList, assessmentLines (c.assess sc), [], ?_, hcounted,
        fun _ b hb => ?_, ?_⟩
      · simp only [explanation, hstyle]
      · obtain rfl | rfl := hscoring
        · exact absurd (hb.symm.trans (hdescribes.unscored rfl)) nofun
        · exact ⟨c.assess sc, rfl, hdescribes.filter_path_assessments hnodup hb hc hstyle⟩
      · simp [hstyle]
    | unclassified =>
      refine ⟨traceOf c.content.toList, ["", "Script content:"], [scriptText c.content.toList], ?_,
        hcounted, ?_, fun _ => ⟨?_, hdiagnosed c (hstyle ▸ hcounted)⟩⟩
      · simp only [explanation, hstyle]
      · simp [hstyle]
      · rw [Component.script, String.toList_ofList]
    | _ =>
      refine ⟨traceOf c.content.toList, [], [], ?_, hcounted, ?_, ?_⟩
      · simp only [explanation, hstyle, List.append_nil]
      · simp [hstyle]
      · simp [hstyle]

/-- **Explaining a path that a scan has found and read agrees with the scan.**  Let a scan without a
configuration file of its own finish, and then the explanation of the path of a component that it
found.  Where directories list names and the path is followed to the entry at which the component
was found, the explanation tells the style with which the component was counted; if components were
scored, it tells of an options component what the only assessment with its path says, and of an
unclassified component it shows the script of the diagnosis. -/
theorem explain_agrees_with_scan (fs : FileSystem) (environment : List (String × String))
    (scanArgs : List String) (library : Library) (o : Options) (report : String)
    (records : List Log.Record) (hparse : parse? scanArgs = some (.scan o))
    (hconfig : o.config = none) (hversion : o.version = false)
    (hscan : run fs environment scanArgs library = .finished report records)
    (hnames : fs.ListsNames) :
    ∃ settings x s,
      load fs none environment (overridesOf o) = .ok settings ∧ scanWith fs settings = .ok x ∧
      x.result = .ok s ∧
      (if o.json then Format.json else .text).output s library.emoji = .ok report ∧
      records = Log.shownFrom (levelOf settings.verbosity) x.records ∧
      s.Describes (scoringWith settings) (walkWith fs settings).components ∧
      ∀ f ∈ (walkWith fs settings).finds, f.Followed fs → ∀ c, f.component? = some c →
        ∀ explainArgs o' shown records',
          parse? explainArgs = some (.explain o' f.path.text) →
          run fs environment explainArgs library = .finished shown records' →
          ∃ t rest verbatim,
            finishWith (traceLines f.path.text t ++ rest) verbatim library.emoji =
              .finished shown records' ∧
            AgreesWithScan x s (walkWith fs settings).components c t rest verbatim := by
  obtain ⟨settings, x, s, hload, hscanned, hresult, houtput, hrecords⟩ :=
    run_scan_finished hparse hversion hscan
  rw [hconfig, Option.map_none] at hload
  obtain ⟨-, rfl⟩ := scanWith_eq_ok_iff.1 hscanned
  obtain ⟨hw, hs⟩ := scan_result_eq_ok_iff.1 hresult
  have hdescribes : s.Describes (scoringWith settings) (walkWith fs settings).components :=
    hs ▸ census_describes _ _
  refine ⟨settings, _, s, hload, hscanned, hresult, houtput, hrecords, hdescribes,
    fun f hf hfollowed c hcomponent explainArgs o' shown records' hparse' hexplain => ?_⟩
  obtain ⟨settings', c', hload', hread, hfinished⟩ := run_explain_finished hparse' hexplain
  have hroot := Path.named_ofString settings.folder
  rw [readComponent_of_mem_finds hnames hroot hf hfollowed hcomponent] at hread
  cases hread
  rw [scoring_eq_of_load (namesOnce_overridesOf o) (by decide) (callerValue_overridesOf_scoring o)
    (by decide) hload hload'] at hfinished
  have hscoring : scoringWith settings = none ∨ scoringWith settings = some settings.scoring := by
    unfold scoringWith
    split
    · exact .inr rfl
    · exact .inl rfl
  obtain ⟨t, rest, verbatim, hexplanation, hagrees⟩ := explanation_agrees hscoring hdescribes
    (nodup_map_path_components hw hnames hroot) (List.mem_filterMap.2 ⟨f, hf, hcomponent⟩)
    fun _ hc' => unclassifiedRecord_mem_records hw hc'
  rw [hexplanation, Find.path_of_component? hcomponent] at hfinished
  exact ⟨t, rest, verbatim, hfinished, hagrees⟩

/-- A run with the exit status of success finishes. -/
theorem exists_eq_finished {outcome : Outcome} (h : outcome.status = 0) :
    ∃ output records, outcome = .finished output records := by
  cases outcome with
  | finished output records => exact ⟨output, records, rfl⟩
  | failed _ _ _ => cases h
  | misused => cases h
  | crashed _ => cases h

/-- The settings of a scan that scores components, if nothing else is set. -/
def scoringSettings : ScanSettings Scoring :=
  { folder := ".", blacklist := [], complexity := .bool true, extension := ".vue",
    verbosity := .normal, scoring := .usual }

/-- The options component in the inner directory. -/
def mixedFind : Find mixedTree.fileSystem.Directory :=
  { path := workingRoot.descend ["lib", "D.vue"]
    directory := (6 : Fin 8)
    name := "D.vue"
    bytes := .ok "<script>export default \x7b".toUTF8.toList }

theorem mixedFind_mem_finds :
    mixedFind ∈ (walkWith mixedTree.fileSystem scoringSettings).finds := by
  have hroot : Path.ofString scoringSettings.folder = workingRoot := by decide
  have hskip : workingRoot.name ∉ ["node_modules"] := by decide
  have hinner : mixedTree.fileSystem.Leads ["node_modules"] (1 : Fin 8) ([] ++ ["lib"])
      (6 : Fin 8) := .down .here (by decide) ⟨by decide, rfl⟩
  have hentry : ((6 : Fin 8), "D.vue") ∈
      (walk mixedTree.fileSystem workingRoot ["node_modules"] ".vue").finds.map Find.entry :=
    ((covers_of_failure_eq_none hskip lists_mixedTree failure_walk_mixedTree).mem_entries _ _).2
      ⟨⟨_, hinner⟩, by decide⟩
  obtain ⟨f, hf, hentry⟩ := List.mem_map.1 hentry
  obtain ⟨names, hleads, hpath, -, hbytes⟩ := (placed_walk ".vue" hskip lists_mixedTree).finds f hf
  obtain ⟨path, directory, name, bytes⟩ := f
  cases hentry
  -- the directory of the find tells which of the two chains leads to it
  obtain ⟨-, hone⟩ | ⟨rfl, -⟩ := leads_mixedTree hleads
  · exact absurd (congrArg Fin.val hone) (show 6 ≠ 1 by decide)
  · obtain rfl : path = mixedFind.path := hpath
    obtain rfl : bytes = mixedFind.bytes := hbytes
    rw [walkWith, hroot]
    exact hf

/-- A scan that scores components, and the explanation of an options component that it finds in an
inner directory. -/
theorem explain_agrees_with_scan_mixedTree :
    mixedTree.fileSystem.ListsNames ∧
      ∃ report records, run mixedTree.fileSystem [] ["--complexity"] = .finished report records ∧
      mixedFind ∈ (walkWith mixedTree.fileSystem scoringSettings).finds ∧
      mixedFind.Followed mixedTree.fileSystem ∧
      ∃ x s c, scanWith mixedTree.fileSystem scoringSettings = .ok x ∧ x.result = .ok s ∧
        mixedFind.component? = some c ∧
        ∃ shown records',
          run mixedTree.fileSystem [] ["explain", "lib/D.vue"] = .finished shown records' ∧
          ∃ t rest verbatim,
            finishWith (traceLines "lib/D.vue" t ++ rest) verbatim .empty =
              .finished shown records' ∧
            AgreesWithScan x s (walkWith mixedTree.fileSystem scoringSettings).components c t rest
              verbatim := by
  have hload : load mixedTree.fileSystem none [] (overridesOf { complexity := true }) =
      .ok scoringSettings := by rfl
  have hparse : parse? ["--complexity"] = some (.scan { complexity := true }) := by decide
  have hroot : Path.ofString scoringSettings.folder = workingRoot := by decide
  have hw : (walkWith mixedTree.fileSystem scoringSettings).failure = none := by
    rw [walkWith, hroot]
    exact failure_walk_mixedTree
  have hfollowed : mixedFind.Followed mixedTree.fileSystem := by
    have hmem := mixedFind_mem_finds
    rw [walkWith, hroot] at hmem
    exact followed_mixedTree mixedFind hmem
  obtain ⟨report, records, hscan⟩ := exists_run_scan_finished hparse rfl (by decide) hload
    (scanWith_eq_ok_iff.2 ⟨by simp [scoringSettings], rfl⟩) hw
  have htext : mixedFind.path.text = "lib/D.vue" := by decide
  have hstatus : (run mixedTree.fileSystem [] ["explain", "lib/D.vue"]).status = 0 := by
    decide +kernel
  obtain ⟨shown, records', hexplain⟩ := exists_eq_finished hstatus
  obtain ⟨settings, x, s, hload', hscanned, hresult, -, -, -, hagrees⟩ :=
    explain_agrees_with_scan mixedTree.fileSystem [] ["--complexity"] {} { complexity := true }
      report records hparse rfl rfl hscan listsNames_mixedTree
  cases hload.symm.trans hload'
  refine ⟨listsNames_mixedTree, report, records, hscan, mixedFind_mem_finds, hfollowed, x, s, _,
    hscanned, hresult, rfl, shown, records', hexplain, ?_⟩
  rw [← htext]
  exact hagrees mixedFind mixedFind_mem_finds hfollowed _ rfl ["explain", "lib/D.vue"] {} shown
    records' (by decide) hexplain

end CommandLine
end ComponentCensus
