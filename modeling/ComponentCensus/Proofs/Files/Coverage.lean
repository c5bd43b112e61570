import Mathlib.Data.List.Nodup
import ComponentCensus.Files.Snapshot
import ComponentCensus.Proofs.Files.Exploration

/-!
# What a walk covers

The walk from a root, against the directories of `Proofs.Files.Reach`.

* `FileSystem.Lists`, `FileSystem.Looks` — a root that can be listed, and looks that do not fail.
* `mem_directories_walk_iff`, `entries_walk_perm` — what a walk that does not fail enters and finds.
* `failure_eq_none_iff_walkable` — from which roots a walk comes to its end.
* `walk_covers_iff` — the walk enters what can be reached and finds what is there, each once,
  exactly if no look at an entry on the way fails.
-/

set_option autoImplicit false

namespace ComponentCensus

variable {fs : FileSystem} {skip : List String} {extension : String} {root : Path}
  {start : fs.Directory}

/-- The root can be listed and is the given directory. -/
def FileSystem.Lists (fs : FileSystem) (root : Path) (start : fs.Directory) : Prop :=
  ∃ s, fs.visit root = some s ∧ s.listed = .ok start

/-- No look at an entry of a directory that can be reached fails. -/
def FileSystem.Looks (fs : FileSystem) (skip : List String) (start : fs.Directory) : Prop :=
  ∀ d, fs.Reachable skip start d → ∀ name ∈ fs.names d, (fs.entry d name).isBlocked = false

/-- If no look at any entry fails, none fails that can be reached. -/
theorem FileSystem.looks_of_forall
    (h : ∀ d, ∀ name ∈ fs.names d, (fs.entry d name).isBlocked = false) : fs.Looks skip start :=
  fun d _ => h d

/-- The walk goes to its end, enters the directories that can be reached, each once, and finds the
component files in them, each once and each under a path of its own. -/
structure Walk.Covers (fs : FileSystem) (skip : List String) (extension : String)
    (start : fs.Directory) (w : Walk fs.Directory) : Prop where
  failure : w.failure = none
  directories_nodup : w.directories.Nodup
  mem_directories : ∀ d, d ∈ w.directories ↔ fs.Reachable skip start d
  entries_nodup : (w.finds.map Find.entry).Nodup
  mem_entries : ∀ d name, (d, name) ∈ w.finds.map Find.entry ↔
    fs.Reachable skip start d ∧ name ∈ fs.componentsIn extension d
  paths_nodup : w.paths.Nodup

/-- Below a root that can be listed, a walk is one that has entered the root and explores its
entries. -/
theorem walk_eq (hskip : root.name ∉ skip) (hroot : fs.Lists root start) :
    walk fs root skip extension =
      (walkFrom fs skip extension [start] (fs.pendingIn root start)).after
        (.entered root start) := by
  obtain ⟨s, hvisit, hlisted⟩ := hroot
  rw [walk, if_neg (by simpa using hskip), hvisit]
  simp only [hlisted]

theorem placed_walk (extension : String) (hskip : root.name ∉ skip) (hroot : fs.Lists root start) :
    (walk fs root skip extension).Placed fs skip extension root start := by
  have hplaced : (walkFrom fs skip extension [start] (fs.pendingIn root start)).Placed
      fs skip extension root start := by
    refine (explores_walkFrom [start] (fs.pendingIn root start)).placed fun p hp => ?_
    exact placed_of_mem_pendingIn .here (by rwa [Path.descend_nil])
  rw [walk_eq hskip hroot]
  refine ⟨fun d hd => ?_, hplaced.finds, hplaced.failure⟩
  rcases List.mem_cons.1 hd with rfl | hd
  · exact .refl d
  · exact hplaced.directories d hd

theorem directories_walk_nodup (extension : String) (hskip : root.name ∉ skip)
    (hroot : fs.Lists root start) :
    (walk fs root skip extension).directories.Nodup := by
  have hexplores : Explores fs skip extension [start] (fs.pendingIn root start)
      (walkFrom fs skip extension [start] (fs.pendingIn root start)) := explores_walkFrom ..
  rw [walk_eq hskip hroot]
  exact List.nodup_cons.2
    ⟨fun hmem => hexplores.fresh _ hmem (List.mem_singleton_self _), hexplores.nodup⟩

/-- The entries of the root and of all directories entered are settled by what is entered. -/
theorem settled_walk (hskip : root.name ∉ skip) (hroot : fs.Lists root start)
    (hw : (walk fs root skip extension).failure = none) :
    ∀ d ∈ (walk fs root skip extension).directories, ∀ name ∈ fs.names d,
      fs.Settled skip (walk fs root skip extension).directories d name := by
  rw [walk_eq hskip hroot] at hw ⊢
  obtain ⟨hpending, hentered⟩ := (explores_walkFrom [start] (fs.pendingIn root start)).settled hw
  intro d hd name hname
  rcases List.mem_cons.1 hd with rfl | hd
  · exact hpending _ (List.mem_map.2 ⟨name, hname, rfl⟩)
  · exact hentered d hd name hname

theorem mem_directories_walk_iff (hskip : root.name ∉ skip) (hroot : fs.Lists root start)
    (hw : (walk fs root skip extension).failure = none) (d : fs.Directory) :
    d ∈ (walk fs root skip extension).directories ↔ fs.Reachable skip start d := by
  refine ⟨(placed_walk extension hskip hroot).directories d, fun h => ?_⟩
  refine h.of_closed ?_ fun e he name hname e' opens => ?_
  · rw [walk_eq hskip hroot]
    exact List.mem_cons_self ..
  · exact (settled_walk hskip hroot hw e he name hname).down e' opens

theorem entries_walk_perm (hskip : root.name ∉ skip) (hroot : fs.Lists root start)
    (hw : (walk fs root skip extension).failure = none) :
    ((walk fs root skip extension).finds.map Find.entry).Perm
      ((walk fs root skip extension).directories.flatMap (fs.entriesIn extension)) := by
  rw [walk_eq hskip hroot] at hw ⊢
  have hperm := (explores_walkFrom [start] (fs.pendingIn root start)).entries_perm hw
  rwa [FileSystem.entriesAmong_pendingIn] at hperm

theorem mem_flatMap_entriesIn {ds : List fs.Directory} {d : fs.Directory} {name : String} :
    (d, name) ∈ ds.flatMap (fs.entriesIn extension) ↔
      d ∈ ds ∧ name ∈ fs.componentsIn extension d := by
  simp only [List.mem_flatMap, FileSystem.entriesIn, List.mem_map, Prod.mk.injEq]
  constructor
  · rintro ⟨e, he, n, hn, rfl, rfl⟩
    exact ⟨he, hn⟩
  · rintro ⟨hd, hname⟩
    exact ⟨d, hd, name, hname, rfl, rfl⟩

theorem flatMap_entriesIn_nodup {ds : List fs.Directory} (h : ds.Nodup) :
    (ds.flatMap (fs.entriesIn extension)).Nodup := by
  refine List.nodup_flatMap.2 ⟨fun d _ => ?_, ?_⟩
  · exact (FileSystem.componentsIn_nodup extension d).map fun a b hab => (Prod.mk.inj hab).2
  · refine h.imp fun {d e} hne => List.disjoint_left.2 fun x hx hx' => hne ?_
    obtain ⟨_, -, rfl⟩ := List.mem_map.1 hx
    obtain ⟨_, -, heq⟩ := List.mem_map.1 hx'
    exact (Prod.mk.inj heq).1.symm

/-- A walk that does not fail covers what can be reached. -/
theorem covers_of_failure_eq_none (hskip : root.name ∉ skip) (hroot : fs.Lists root start)
    (hw : (walk fs root skip extension).failure = none) :
    (walk fs root skip extension).Covers fs skip extension start := by
  have hdirectories := directories_walk_nodup extension hskip hroot
  have hperm := entries_walk_perm hskip hroot hw
  have hplaced := placed_walk extension hskip hroot
  have hentries : ((walk fs root skip extension).finds.map Find.entry).Nodup :=
    hperm.nodup_iff.2 (flatMap_entriesIn_nodup hdirectories)
  refine ⟨hw, hdirectories, mem_directories_walk_iff hskip hroot hw, hentries, fun d name => ?_, ?_⟩
  · rw [hperm.mem_iff, mem_flatMap_entriesIn, mem_directories_walk_iff hskip hroot hw]
  · rw [Walk.paths_eq_map_finds]
    refine List.Nodup.map_on (fun f hf g hg hpath => ?_) (List.Nodup.of_map _ hentries)
    exact List.inj_on_of_nodup_map hentries hf hg
      ((hplaced.finds f hf).entry_eq (hplaced.finds g hg) hpath)

/-- A walk fails exactly if a look at an entry that it comes to fails. -/
theorem failure_walk_eq_none_iff (extension : String) (hskip : root.name ∉ skip)
    (hroot : fs.Lists root start) :
    (walk fs root skip extension).failure = none ↔ fs.Looks skip start := by
  constructor
  · intro hw d hd name hname
    have hmem := (mem_directories_walk_iff hskip hroot hw d).2 hd
    exact (settled_walk hskip hroot hw d hmem name hname).looked
  · intro hlooks
    cases hfailure : (walk fs root skip extension).failure with
    | none => rfl
    | some f =>
      obtain ⟨d, name, hd, hname, hentry⟩ := (placed_walk extension hskip hroot).failure f hfailure
      exact absurd hentry (by simp [hlooks d hd name hname])

/-! ## Any root -/

/-- The name of the root is to be skipped, or the root can be listed and no look fails below it. -/
def FileSystem.Walkable (fs : FileSystem) (skip : List String) (root : Path) : Prop :=
  root.name ∈ skip ∨ ∃ start, fs.Lists root start ∧ fs.Looks skip start

/-- If the name of the root is to be skipped, nothing is found. -/
theorem walk_of_mem_skip (hskip : root.name ∈ skip) :
    walk fs root skip extension = { events := [.pruned root] } := by
  rw [walk, if_pos (List.contains_iff_mem.2 hskip)]

/-- A root that is not pruned at once is listed, or nothing happens but a failure. -/
theorem exists_lists_or (extension : String) (hskip : root.name ∉ skip) :
    (∃ start, fs.Lists root start) ∨
      ∃ failure, walk fs root skip extension = { events := [], failure := some failure } := by
  rw [walk, if_neg (by simpa using hskip)]
  cases hvisit : fs.visit root with
  | none => exact .inr ⟨.malformedRoot, rfl⟩
  | some s =>
    cases hlisted : s.listed with
    | error reason => exact .inr ⟨.rootInaccessible root reason, by simp only [hlisted]⟩
    | ok start => exact .inl ⟨start, s, hvisit, hlisted⟩

/-- A walk that does not fail and is not pruned at once has listed its root. -/
theorem exists_lists (hskip : root.name ∉ skip)
    (hw : (walk fs root skip extension).failure = none) : ∃ start, fs.Lists root start := by
  refine (exists_lists_or extension hskip).resolve_right ?_
  rintro ⟨failure, hwalk⟩
  rw [hwalk] at hw
  cases hw

/-- What a walk finds is at the end of a chain from a root that can be listed. -/
theorem exists_placed {f : Find fs.Directory} (hf : f ∈ (walk fs root skip extension).finds) :
    ∃ start, fs.Lists root start ∧ f.Placed fs skip extension root start := by
  by_cases hskip : root.name ∈ skip
  · rw [walk_of_mem_skip hskip] at hf
    cases hf
  · rcases exists_lists_or extension hskip with ⟨start, hroot⟩ | ⟨failure, hwalk⟩
    · exact ⟨start, hroot, (placed_walk extension hskip hroot).finds f hf⟩
    · rw [hwalk] at hf
      cases hf

/-- A walk comes to its end exactly from such a root. -/
theorem failure_eq_none_iff_walkable (extension : String) :
    (walk fs root skip extension).failure = none ↔ fs.Walkable skip root := by
  by_cases hskip : root.name ∈ skip
  · rw [walk_of_mem_skip hskip]
    exact iff_of_true rfl (.inl hskip)
  · constructor
    · intro hw
      obtain ⟨start, hroot⟩ := exists_lists hskip hw
      exact .inr ⟨start, hroot, (failure_walk_eq_none_iff extension hskip hroot).1 hw⟩
    · rintro (hmem | ⟨start, hroot, hlooks⟩)
      · exact absurd hmem hskip
      · exact (failure_walk_eq_none_iff extension hskip hroot).2 hlooks

/-- **A walk covers what can be reached exactly if no look at an entry on the way fails.** -/
theorem walk_covers_iff (fs : FileSystem) (skip : List String) (extension : String) (root : Path)
    (start : fs.Directory) (hskip : root.name ∉ skip) (hroot : fs.Lists root start) :
    (walk fs root skip extension).Covers fs skip extension start ↔ fs.Looks skip start := by
  rw [← failure_walk_eq_none_iff extension hskip hroot]
  exact ⟨Walk.Covers.failure, covers_of_failure_eq_none hskip hroot⟩

/-- The path of the working directory. -/
def workingRoot : Path := { anchor := .relative, components := [] }

/-- A tree whose subdirectory has a link back to the root. -/
def loopedTree : Snapshot :=
  { workingDirectory := { anchor := .root, components := [] }
    looks := [(workingRoot, .directory (.ok 0) none)]
    directories := #[[("sub", .directory (.ok 1) none)],
      [("A.vue", .file (.ok [])), ("loop", .directory (.ok 0) none)]] }

/-- A link back to the root is no obstacle. -/
theorem walk_covers_loopedTree :
    workingRoot.name ∉ ["node_modules"] ∧
      loopedTree.fileSystem.Lists workingRoot (0 : Fin 2) ∧
      loopedTree.fileSystem.Looks ["node_modules"] (0 : Fin 2) ∧
      (walk loopedTree.fileSystem workingRoot ["node_modules"] ".vue").Covers
        loopedTree.fileSystem ["node_modules"] ".vue" (0 : Fin 2) := by
  have hskip : workingRoot.name ∉ ["node_modules"] := by decide
  have hroot : loopedTree.fileSystem.Lists workingRoot (0 : Fin 2) := ⟨_, rfl, rfl⟩
  have hlooks : loopedTree.fileSystem.Looks ["node_modules"] (0 : Fin 2) := by
    have hall : ∀ d : loopedTree.fileSystem.Directory, ∀ name ∈ loopedTree.fileSystem.names d,
        (loopedTree.fileSystem.entry d name).isBlocked = false := by decide
    exact fun d _ => hall d
  exact ⟨hskip, hroot, hlooks, (walk_covers_iff _ _ _ _ _ hskip hroot).2 hlooks⟩

/-- A tree in which the look at the first entry fails, as it does for a link whose target has a
name that is too long. -/
def knottedTree : Snapshot :=
  { workingDirectory := { anchor := .root, components := [] }
    looks := [(workingRoot, .directory (.ok 0) none)]
    directories := #[[("a", .blocked .nameTooLong), ("b", .directory (.ok 1) none)],
      [("B.vue", .file (.ok []))]] }

/-- One look that fails ends the walk, although a component file can be reached. -/
theorem walk_knottedTree :
    workingRoot.name ∉ ["node_modules"] ∧
      knottedTree.fileSystem.Lists workingRoot (0 : Fin 2) ∧
      knottedTree.fileSystem.Reachable ["node_modules"] (0 : Fin 2) (1 : Fin 2) ∧
      "B.vue" ∈ knottedTree.fileSystem.componentsIn ".vue" (1 : Fin 2) ∧
      (walk knottedTree.fileSystem workingRoot ["node_modules"] ".vue").paths = [] ∧
      ¬ (walk knottedTree.fileSystem workingRoot ["node_modules"] ".vue").Covers
        knottedTree.fileSystem ["node_modules"] ".vue" (0 : Fin 2) := by
  have hskip : workingRoot.name ∉ ["node_modules"] := by decide
  have hroot : knottedTree.fileSystem.Lists workingRoot (0 : Fin 2) := ⟨_, rfl, rfl⟩
  have hleads : knottedTree.fileSystem.Leads ["node_modules"] (0 : Fin 2) ([] ++ ["b"])
      (1 : Fin 2) := .down .here (by decide) ⟨by decide, rfl⟩
  refine ⟨hskip, hroot, ⟨["b"], hleads⟩, by decide, ?_, fun h => ?_⟩
  · have hpending : knottedTree.fileSystem.pendingIn workingRoot (0 : Fin 2) =
        [{ parent := workingRoot, directory := (0 : Fin 2), name := "a" },
          { parent := workingRoot, directory := (0 : Fin 2), name := "b" }] := rfl
    rw [walk_eq hskip hroot, hpending, walkFrom]
    rfl
  · have hlooks := (failure_walk_eq_none_iff _ hskip hroot).1 h.failure
    exact absurd (hlooks (0 : Fin 2) (.refl _) "a" (by decide)) (by decide)

end ComponentCensus
