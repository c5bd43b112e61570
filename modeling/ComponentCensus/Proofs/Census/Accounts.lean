import ComponentCensus.Proofs.Census.Scan
import ComponentCensus.Proofs.Files.Volume

/-!
# What a scan accounts for

The records of a scan come from several places: remarks of the walk, what components leave when
they are counted, and files that cannot be read.  They are interleaved as the walk goes, but every
one of them belongs to one event of it.

* `Event.records` — the records that an event leaves.  `Progress.records_step` is the only place
  where a step of the scan is opened for them, `scan_records_eq` is the run.
* `Find.unreadable?` — the files that cannot be read; every other find is a component
  (`length_components_add`).
* `components_eq_reads` — where the paths of the finds are followed, what the scan counts is what
  reading the paths yields.
* `scan_accounts` — the summary is the census of the files that can be read, and the records tell
  what became of every file.
-/

set_option autoImplicit false

namespace ComponentCensus

variable {δ : Type}

/-! ## The records of an event -/

/-- The record of a component without a style of its own: its path and its script. -/
def Component.unclassifiedRecord (c : Component) : Log.Record :=
  { channel := .diagnostics
    level := .warning
    text := "Unclassified SFC (" ++ c.path ++ "):\nScript content: " ++ c.script }

/-- The record of a file that is found and cannot be read. -/
def Find.unreadable? (f : Find δ) : Option Log.Record :=
  match f.bytes with
  | .ok _ => none
  | .error reason => some (Progress.errorRecord f.path reason)

/-- The records that an event of the walk leaves in a scan. -/
def Event.records (scoring : Option Scoring) : Event δ → List Log.Record
  | found path _ _ (.ok bytes) => (componentOf path bytes).logRecords scoring
  | found path _ _ (.error reason) => [Progress.errorRecord path reason]
  | e => e.logRecord?.toList

namespace Progress

theorem records_step (p : Progress) (e : Event δ) :
    (p.step e).records = (e.records p.tally.scoring).reverse ++ p.records := by
  cases e with
  | found path directory name bytes => cases bytes <;> rfl
  | _ => rfl

/-- Counting goes on under the same scoring. -/
theorem scoring_step (p : Progress) (e : Event δ) :
    (p.step e).tally.scoring = p.tally.scoring := by
  rw [tally_step]
  cases e.find?.bind Find.component? with
  | none => rfl
  | some c => simp only [Option.toList_some, List.foldl_cons, List.foldl_nil, Tally.add_eq]

theorem records_foldl (p : Progress) (es : List (Event δ)) :
    (es.foldl step p).records =
      (es.flatMap (Event.records p.tally.scoring)).reverse ++ p.records := by
  induction es generalizing p with
  | nil => rfl
  | cons e es ih =>
    rw [List.foldl_cons, ih, records_step, scoring_step, List.flatMap_cons, List.reverse_append,
      List.append_assoc]

theorem errors_step (p : Progress) (e : Event δ) :
    (p.step e).errors = p.errors + (e.find?.bind Find.unreadable?).toList.length := by
  cases e with
  | found path directory name bytes => cases bytes <;> rfl
  | _ => rfl

theorem errors_foldl (p : Progress) (es : List (Event δ)) :
    (es.foldl step p).errors =
      p.errors + ((es.filterMap Event.find?).filterMap Find.unreadable?).length := by
  induction es generalizing p with
  | nil => rfl
  | cons e es ih =>
    rw [List.foldl_cons, ih, errors_step, List.filterMap_filterMap, List.filterMap_filterMap,
      List.filterMap_cons, Nat.add_assoc]
    cases e.find?.bind Find.unreadable? with
    | none => rw [Option.toList_none, List.length_nil, Nat.zero_add]
    | some r => rw [Option.toList_some, List.length_singleton, List.length_cons, Nat.add_comm 1]

end Progress

/-- The files that a walk finds and that cannot be read, in order, each with its record. -/
def Walk.unreadable (w : Walk δ) : List Log.Record := w.finds.filterMap Find.unreadable?

/-- What is found is a component or cannot be read. -/
theorem length_components_add (w : Walk δ) :
    w.components.length + w.unreadable.length = w.paths.length := by
  rw [Walk.paths_eq_map_finds, List.length_map, Walk.components, Walk.unreadable]
  induction w.finds with
  | nil => rfl
  | cons f fs ih =>
    cases hbytes : f.bytes with
    | ok bytes =>
      have hcomponent : f.component? = some (componentOf f.path bytes) := by
        rw [Find.component?, hbytes]
      have hunreadable : f.unreadable? = none := by rw [Find.unreadable?, hbytes]
      rw [List.filterMap_cons_some hcomponent, List.filterMap_cons_none hunreadable,
        List.length_cons, List.length_cons, ← ih]
      omega
    | error reason =>
      have hcomponent : f.component? = none := by rw [Find.component?, hbytes]
      have hunreadable : f.unreadable? = some (Progress.errorRecord f.path reason) := by
        rw [Find.unreadable?, hbytes]
      rw [List.filterMap_cons_none hcomponent, List.filterMap_cons_some hunreadable,
        List.length_cons, List.length_cons, ← ih]
      omega

/-- The records of a scan whose walk does not fail: what each event leaves, in order, and the
number of components and of files that cannot be read. -/
theorem scan_records_eq {fs : FileSystem} {root : Path} {skip : List String} {extension : String}
    (scoring : Option Scoring) (hw : (walk fs root skip extension).failure = none) :
    (scan fs root skip extension scoring).records =
      (walk fs root skip extension).events.flatMap (Event.records scoring) ++
        [{ channel := .tally
           level := .info
           text := "Scan complete: " ++
             toString (walk fs root skip extension).components.length ++ " analyzed, " ++
             toString (walk fs root skip extension).unreadable.length ++ " errors" }] := by
  have htotal : (((walk fs root skip extension).events.foldl Progress.step
      { tally := Tally.new scoring }).tally).total =
        (walk fs root skip extension).components.length := by
    rw [Progress.tally_foldl]
    exact (Tally.describes_tallyOf scoring _).total
  have herrors : ((walk fs root skip extension).events.foldl Progress.step
      { tally := Tally.new scoring }).errors =
        (walk fs root skip extension).unreadable.length := by
    rw [Progress.errors_foldl]
    exact Nat.zero_add _
  simp only [scan, hw]
  rw [List.reverse_cons, Progress.records_foldl, Progress.finalRecord, htotal, herrors,
    List.append_nil, List.reverse_reverse]
  rfl

/-! ## Which records are which -/

/-- Whether a record says that something went wrong. -/
def Log.Record.isError (r : Log.Record) : Bool := r.level = .error

/-- Whether a record is a diagnosis of a component. -/
def Log.Record.isDiagnosis (r : Log.Record) : Bool := r.channel = .diagnostics

theorem Component.filter_isError_logRecords (scoring : Option Scoring) (c : Component) :
    (c.logRecords scoring).filter Log.Record.isError = [] := by
  unfold Component.logRecords
  cases c.style? with
  | none => rfl
  | some style => cases style <;> cases scoring <;> rfl

theorem Component.filter_isDiagnosis_logRecords (scoring : Option Scoring) (c : Component) :
    (c.logRecords scoring).filter Log.Record.isDiagnosis =
      if c.style? = some .unclassified then [c.unclassifiedRecord] else [] := by
  unfold Component.logRecords
  cases c.style? with
  | none => rfl
  | some style => cases style <;> cases scoring <;> rfl

namespace Event

theorem filter_isError_records (scoring : Option Scoring) (e : Event δ) :
    (e.records scoring).filter Log.Record.isError =
      (e.find?.bind Find.unreadable?).toList := by
  cases e with
  | found path directory name bytes =>
    cases bytes with
    | ok bytes => exact Component.filter_isError_logRecords scoring _
    | error reason => rfl
  | _ => rfl

theorem filter_isDiagnosis_records (scoring : Option Scoring) (e : Event δ) :
    (e.records scoring).filter Log.Record.isDiagnosis =
      ((ofStyle (some .unclassified) (e.find?.bind Find.component?).toList).map
        Component.unclassifiedRecord) := by
  cases e with
  | found path directory name bytes =>
    cases bytes with
    | ok bytes =>
      refine (Component.filter_isDiagnosis_logRecords scoring _).trans ?_
      simp only [find?, Option.bind_some, Find.component?, Option.toList_some, ofStyle]
      by_cases hstyle : (componentOf path bytes).style? = some .unclassified
      · rw [if_pos hstyle, List.filter_cons_of_pos (by simpa using hstyle)]
        rfl
      · rw [if_neg hstyle, List.filter_cons_of_neg (by simpa using hstyle)]
        rfl
    | error reason => rfl
  | _ => rfl

end Event

theorem toList_find?_flatMap {β : Type} (g : Find δ → Option β) (es : List (Event δ)) :
    es.flatMap (fun e => (e.find?.bind g).toList) = (es.filterMap Event.find?).filterMap g := by
  rw [List.filterMap_filterMap, List.filterMap_eq_flatMap_toList]

/-- The records of a scan that say that something went wrong are those of the files that cannot be
read. -/
theorem filter_isError_events (scoring : Option Scoring) (w : Walk δ) :
    (w.events.flatMap (Event.records scoring)).filter Log.Record.isError = w.unreadable := by
  simp only [List.filter_flatMap, Event.filter_isError_records]
  exact toList_find?_flatMap Find.unreadable? w.events

/-- The diagnoses of a scan are those of its unclassified components. -/
theorem filter_isDiagnosis_events (scoring : Option Scoring) (w : Walk δ) :
    (w.events.flatMap (Event.records scoring)).filter Log.Record.isDiagnosis =
      (ofStyle (some .unclassified) w.components).map Component.unclassifiedRecord := by
  simp only [List.filter_flatMap, Event.filter_isDiagnosis_records, ofStyle]
  rw [← List.map_flatMap, ← List.filter_flatMap, toList_find?_flatMap]
  rfl

/-! ## Reading the paths -/

section
variable {fs : FileSystem} {skip : List String} {extension : String} {root : Path}
  {start : fs.Directory}

/-- Reading the path of a component file yields what the walk finds there. -/
theorem Find.Placed.readComponent {f : Find fs.Directory}
    (h : f.Placed fs skip extension root start) (hfollowed : f.Followed fs) :
    (readComponent fs f.path).toOption = f.component? := by
  obtain ⟨names, -, -, -, hbytes⟩ := h
  have hvisit : fs.visit f.path = some (fs.entry f.directory f.name) := hfollowed
  simp only [ComponentCensus.readComponent, hvisit, ← hbytes, Find.component?]
  cases f.bytes <;> rfl

/-- Where the paths of the finds are followed, the components of a walk are those that reading its
paths yields, in order. -/
theorem components_eq_reads
    (hfollowed : ∀ f ∈ (walk fs root skip extension).finds, f.Followed fs) :
    (walk fs root skip extension).components =
      (walk fs root skip extension).paths.filterMap fun p => (readComponent fs p).toOption := by
  rw [Walk.components, Walk.paths_eq_map_finds, List.filterMap_map]
  refine List.filterMap_congr fun f hf => ?_
  obtain ⟨start, -, hplaced⟩ := exists_placed hf
  exact (hplaced.readComponent (hfollowed f hf)).symm

end

/-! ## Accounts -/

/-- A scan accounts for what its walk finds. -/
structure Scan.Accounts (scoring : Option Scoring) (w : Walk δ) (x : Scan) (s : Summary) :
    Prop where
  result : x.result = .ok s
  /-- The summary is the census of the files that can be read, in the order of the walk. -/
  census : s = census scoring w.components
  /-- The records of errors are those of the files that cannot be read, in order. -/
  errors : x.records.filter Log.Record.isError = w.unreadable
  /-- Every file is counted or has a record of an error. -/
  total : s.total + (x.records.filter Log.Record.isError).length = w.paths.length
  /-- The diagnoses are one for each unclassified component, in order. -/
  diagnoses : x.records.filter Log.Record.isDiagnosis =
    (ofStyle (some .unclassified) w.components).map Component.unclassifiedRecord
  /-- The last record tells both numbers. -/
  last : x.records.getLast? = some
    { channel := .tally
      level := .info
      text := "Scan complete: " ++ toString s.total ++ " analyzed, " ++
        toString (x.records.filter Log.Record.isError).length ++ " errors" }

/-- **A scan whose walk does not fail is the census of the files that can be read**, and its records
account for every file that is found.  Where the paths of these files are followed, the census is
that of the components that reading the paths yields. -/
theorem scan_accounts (fs : FileSystem) (root : Path) (skip : List String) (extension : String)
    (scoring : Option Scoring) (hw : (walk fs root skip extension).failure = none) :
    ∃ s, Scan.Accounts scoring (walk fs root skip extension)
        (scan fs root skip extension scoring) s ∧
      ((∀ f ∈ (walk fs root skip extension).finds, f.Followed fs) →
        s = census scoring ((walk fs root skip extension).paths.filterMap fun p =>
          (readComponent fs p).toOption)) := by
  have hrecords := scan_records_eq scoring hw
  have hdescribes := census_describes scoring (walk fs root skip extension).components
  have herrors : (scan fs root skip extension scoring).records.filter Log.Record.isError =
      (walk fs root skip extension).unreadable := by
    rw [hrecords, List.filter_append, filter_isError_events]
    exact List.append_nil _
  refine ⟨_, ⟨?_, rfl, herrors, ?_, ?_, ?_⟩, fun hfollowed => ?_⟩
  · rw [scan_result_eq, hw]
  · rw [herrors, hdescribes.total, ← length_components_add, Int.natCast_add]
  · rw [hrecords, List.filter_append, filter_isDiagnosis_events]
    exact List.append_nil _
  · rw [herrors, hdescribes.total, hrecords, List.getLast?_concat]
    rfl
  · rw [← components_eq_reads hfollowed]

/-- A project with a component that no rule classifies, a file that cannot be opened, a link that
leads nowhere, and a link to an options component in a directory of its own. -/
def mixedTree : Volume :=
  { nodes := #[.directory 0 [("project", 1)],
      .directory 0 [("A.vue", 2), ("B.vue", 3), ("C.vue", 4), ("E.vue", 5), ("lib", 6)],
      .file "<script>run()</script>".toUTF8.toList, .file [], .link "gone", .link "lib/D.vue",
      .directory 1 [("D.vue", 7)], .file "<script>export default \x7b".toUTF8.toList]
    workingPath := ["project"]
    working := 1
    unreadable := [("B.vue", .noPermission)] }

/-- What the project is filled with. -/
def mixedItems : List (Path × Volume.Item) :=
  [(.ofString "A.vue", .file "<script>run()</script>".toUTF8.toList), (.ofString "B.vue", .file []),
    (.ofString "C.vue", .link "gone"), (.ofString "E.vue", .link "lib/D.vue"),
    (.ofString "lib/D.vue", .file "<script>export default \x7b".toUTF8.toList)]

theorem listsNames_mixedTree : mixedTree.fileSystem.ListsNames := by
  have hnodes : mixedTree.nodes = (Volume.filled ["project"] mixedItems).nodes := by
    decide +kernel
  have hitems : ∀ item ∈ mixedItems, item.1.Named := by
    simp [mixedItems, Path.named_ofString]
  have hnamed : mixedTree.Named := by
    intro node hnode
    rw [hnodes] at hnode
    exact Volume.named_filled (by decide) hitems node hnode
  exact hnamed.listsNames

theorem lists_mixedTree : mixedTree.fileSystem.Lists workingRoot (1 : Fin 8) := ⟨_, rfl, rfl⟩

/-- Two chains start at the project: the empty one, and the one down to the other directory. -/
theorem leads_mixedTree {names : List String} {d : mixedTree.fileSystem.Directory}
    (h : mixedTree.fileSystem.Leads ["node_modules"] (1 : Fin 8) names d) :
    names = [] ∧ d = (1 : Fin 8) ∨ names = ["lib"] ∧ d = (6 : Fin 8) := by
  have hlisted : ∀ d : mixedTree.fileSystem.Directory, ∀ name ∈ mixedTree.fileSystem.names d,
      d.val ≠ 0 → (mixedTree.fileSystem.entry d name).listed.toOption.all
        fun e => d.val = 1 && name = "lib" && e.val = 6 := by decide +kernel
  induction h with
  | here => exact .inl ⟨rfl, rfl⟩
  | @down names d e name _ hname hopens ih =>
    have hd : d.val ≠ 0 := by rcases ih with ⟨-, rfl⟩ | ⟨-, rfl⟩ <;> decide
    have hentry := hlisted d name hname hd
    rw [hopens.listed] at hentry
    obtain ⟨⟨hone, rfl⟩, hsix⟩ : (d.val = 1 ∧ name = "lib") ∧ e.val = 6 := by
      simpa [Except.toOption] using hentry
    rcases ih with ⟨rfl, -⟩ | ⟨-, rfl⟩
    · exact .inr ⟨rfl, Fin.ext hsix⟩
    · exact absurd hone (by decide)

/-- The walk through the project comes to its end. -/
theorem failure_walk_mixedTree :
    (walk mixedTree.fileSystem workingRoot ["node_modules"] ".vue").failure = none := by
  have hlooks : ∀ d : mixedTree.fileSystem.Directory, ∀ name ∈ mixedTree.fileSystem.names d,
      (mixedTree.fileSystem.entry d name).isBlocked = false := by decide +kernel
  exact (failure_eq_none_iff_walkable ".vue").2 (.inr ⟨_, lists_mixedTree, fun d _ => hlooks d⟩)

/-- The paths of what the walk finds are within the limits, so they are followed. -/
theorem followed_mixedTree :
    ∀ f ∈ (walk mixedTree.fileSystem workingRoot ["node_modules"] ".vue").finds,
      f.Followed mixedTree.fileSystem := by
  have hfits : ∀ d : mixedTree.fileSystem.Directory, ∀ name ∈ mixedTree.fileSystem.names d,
      mixedTree.Fits (workingRoot.descend [name]) ∧
        mixedTree.Fits (workingRoot.descend ["lib", name]) := by decide +kernel
  intro f hf
  refine Volume.followed_of_fits hf ?_
  obtain ⟨names, hleads, hpath, hname, -⟩ :=
    (placed_walk ".vue" (by decide) lists_mixedTree).finds f hf
  have hboth := hfits f.directory f.name (FileSystem.mem_componentsIn.1 hname).1
  rw [hpath]
  rcases leads_mixedTree hleads with ⟨rfl, -⟩ | ⟨rfl, -⟩
  · exact hboth.1
  · exact hboth.2

/-- The scan of the project counts three components and reports two errors. -/
theorem scan_accounts_mixedTree :
    (walk mixedTree.fileSystem workingRoot ["node_modules"] ".vue").failure = none ∧
      (∀ f ∈ (walk mixedTree.fileSystem workingRoot ["node_modules"] ".vue").finds,
        f.Followed mixedTree.fileSystem) ∧
      ∃ s, Scan.Accounts (some .usual)
          (walk mixedTree.fileSystem workingRoot ["node_modules"] ".vue")
          (scan mixedTree.fileSystem workingRoot ["node_modules"] ".vue" (some .usual)) s ∧
        s = census (some .usual)
          ((walk mixedTree.fileSystem workingRoot ["node_modules"] ".vue").paths.filterMap fun p =>
            (readComponent mixedTree.fileSystem p).toOption) := by
  obtain ⟨s, haccounts, hreads⟩ :=
    scan_accounts mixedTree.fileSystem workingRoot ["node_modules"] ".vue" (some .usual)
      failure_walk_mixedTree
  exact ⟨failure_walk_mixedTree, followed_mixedTree, s, haccounts, hreads followed_mixedTree⟩

end ComponentCensus
