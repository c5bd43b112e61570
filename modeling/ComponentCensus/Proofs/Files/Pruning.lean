import ComponentCensus.Proofs.Files.Order
import ComponentCensus.Proofs.Files.Relisting

/-!
# Skipping more directories

What becomes of a walk if further names are to be skipped.

* `Path.between` — the directories on the way from a root to a file.
* `FileSystem.leads_skipping_iff` — the chains that are left are those without the further names.
* `mem_paths_iff_of_treelike` — without two ways to a directory, the paths that a walk finds are
  all paths to component files.
* `Walk.Thins` — the walk finds what it found before, without what lies below the further names.
* `pruning_is_filtering` — nothing is ever found below a name that is to be skipped, and a walk is
  thinned by further names exactly if no look at an entry fails.
-/

set_option autoImplicit false

namespace ComponentCensus

namespace Path

/-- The directories strictly between a root and the last component of a path below it. -/
def between (root path : Path) : List String :=
  (path.components.drop root.components.length).dropLast

@[simp] theorem between_descend_concat (root : Path) (names : List String) (name : String) :
    root.between (root.descend (names ++ [name])) = names := by
  simp [between, descend]

end Path

/-! ## Chains -/

namespace FileSystem

variable {fs : FileSystem} {skip skip' more : List String} {start d : fs.Directory}
  {names : List String}

/-- No name of a chain is to be skipped. -/
theorem Leads.kept (h : fs.Leads skip start names d) : ∀ name ∈ names, name ∉ skip := by
  induction h with
  | here => simp
  | down _ _ opens ih =>
    intro name hname
    rcases List.mem_append.1 hname with hname | hname
    · exact ih name hname
    · exact List.mem_singleton.1 hname ▸ opens.kept

/-- If further names are to be skipped, the chains without them are left. -/
theorem leads_skipping_iff (hmore : ∀ name, name ∈ skip' ↔ name ∈ skip ∨ name ∈ more) :
    fs.Leads skip' start names d ↔
      fs.Leads skip start names d ∧ ∀ name ∈ names, name ∉ more := by
  constructor
  · intro h
    refine ⟨?_, fun name hname hmem => h.kept name hname ((hmore name).2 (.inr hmem))⟩
    induction h with
    | here => exact .here
    | down _ hname opens ih =>
      exact .down ih hname ⟨fun hmem => opens.kept ((hmore _).2 (.inl hmem)), opens.listed⟩
  · rintro ⟨h, hnames⟩
    induction h with
    | here => exact .here
    | @down names d e name _ hname opens ih =>
      have hnot : name ∉ more := hnames name (List.mem_append_right _ (List.mem_singleton_self _))
      refine .down (ih fun n hn => hnames n (List.mem_append_left _ hn)) hname ⟨fun hmem => ?_,
        opens.listed⟩
      rcases (hmore name).1 hmem with hmem | hmem
      · exact opens.kept hmem
      · exact hnot hmem

theorem Reachable.of_skipping (hmore : ∀ name, name ∈ skip' ↔ name ∈ skip ∨ name ∈ more)
    (h : fs.Reachable skip' start d) : fs.Reachable skip start d := by
  obtain ⟨names, h⟩ := h
  exact ⟨names, ((leads_skipping_iff hmore).1 h).1⟩

theorem Looks.of_skipping (hmore : ∀ name, name ∈ skip' ↔ name ∈ skip ∨ name ∈ more)
    (h : fs.Looks skip start) : fs.Looks skip' start :=
  fun d hd => h d (hd.of_skipping hmore)

theorem Treelike.of_skipping (hmore : ∀ name, name ∈ skip' ↔ name ∈ skip ∨ name ∈ more)
    (h : fs.Treelike skip start) : fs.Treelike skip' start :=
  fun _ _ _ hd hd' => h ((leads_skipping_iff hmore).1 hd).1 ((leads_skipping_iff hmore).1 hd').1

/-- There are no two ways to a directory if one way to each is known and every entry that leads down
goes on along it. -/
theorem treelike_of_ways (way : fs.Directory → List String) (hstart : way start = [])
    (hdown : ∀ d e, ∀ name ∈ fs.names d, (fs.entry d name).listed.toOption = some e →
      way e = way d ++ [name]) :
    fs.Treelike skip start := by
  have hway : ∀ {names d}, fs.Leads skip start names d → names = way d := by
    intro names d h
    induction h with
    | here => exact hstart.symm
    | @down names d e name _ hname opens ih =>
      have hlisted : (fs.entry d name).listed.toOption = some e := by rw [opens.listed]; rfl
      rw [hdown d e name hname hlisted, ih]
  exact fun d names names' h h' => (hway h).trans (hway h').symm

end FileSystem

/-! ## What is found -/

section
variable {fs : FileSystem} {skip skip' more : List String} {extension : String} {root : Path}
  {start : fs.Directory}

/-- Nothing is found below a name that is to be skipped. -/
theorem between_of_mem_paths {path : Path} (h : path ∈ (walk fs root skip extension).paths) :
    ∀ name ∈ root.between path, name ∉ skip := by
  rw [Walk.paths_eq_map_finds] at h
  obtain ⟨f, hf, rfl⟩ := List.mem_map.1 h
  obtain ⟨start, hskip, hroot⟩ : ∃ start, root.name ∉ skip ∧ fs.Lists root start := by
    by_cases hskip : root.name ∈ skip
    · rw [walk_of_mem_skip hskip] at hf
      cases hf
    · rw [walk, if_neg (by simpa using hskip)] at hf
      cases hvisit : fs.visit root with
      | none => simp [hvisit, Walk.finds] at hf
      | some s =>
        cases hlisted : s.listed with
        | error reason => simp [hvisit, hlisted, Walk.finds] at hf
        | ok start => exact ⟨start, hskip, s, hvisit, hlisted⟩
  obtain ⟨names, hleads, hpath, -⟩ := (placed_walk extension hskip hroot).finds f hf
  rw [hpath, Path.between_descend_concat]
  exact hleads.kept

/-- Without two ways to a directory, a walk that does not fail finds all paths to component
files. -/
theorem mem_paths_iff_of_treelike (hskip : root.name ∉ skip) (hroot : fs.Lists root start)
    (hw : (walk fs root skip extension).failure = none) (htree : fs.Treelike skip start)
    {path : Path} :
    path ∈ (walk fs root skip extension).paths ↔
      ∃ names d name, fs.Leads skip start names d ∧ name ∈ fs.componentsIn extension d ∧
        path = root.descend (names ++ [name]) := by
  have hplaced := (placed_walk extension hskip hroot).finds
  rw [Walk.paths_eq_map_finds, List.mem_map]
  constructor
  · rintro ⟨f, hf, rfl⟩
    obtain ⟨names, hleads, hpath, hname, -⟩ := hplaced f hf
    exact ⟨names, f.directory, f.name, hleads, hname, hpath⟩
  · rintro ⟨names, d, name, hleads, hname, rfl⟩
    obtain ⟨f, hf, hentry⟩ := List.mem_map.1
      (((covers_of_failure_eq_none hskip hroot hw).mem_entries d name).2 ⟨⟨names, hleads⟩, hname⟩)
    obtain ⟨names', hleads', hpath, -⟩ := hplaced f hf
    obtain ⟨rfl, rfl⟩ := Prod.mk.inj hentry
    rw [htree hleads hleads']
    exact ⟨f, hf, hpath⟩

/-- Both walks go to their end, the second one finds only what the first one finds, and if no
directory can be reached in two ways, it finds the same paths in the same order, except those that
go through one of the further names. -/
structure Walk.Thins (fs : FileSystem) (skip more : List String) (root : Path)
    (start : fs.Directory) (w w' : Walk fs.Directory) : Prop where
  failure : w.failure = none
  failure' : w'.failure = none
  entries : w'.finds.map Find.entry ⊆ w.finds.map Find.entry
  paths : fs.Treelike skip start →
    w'.paths = w.paths.filter fun p => ∀ name ∈ root.between p, name ∉ more

theorem thins_of_looks (hmore : ∀ name, name ∈ skip' ↔ name ∈ skip ∨ name ∈ more)
    (hskip' : root.name ∉ skip') (hroot : fs.Lists root start) (hlooks : fs.Looks skip start) :
    (walk fs root skip extension).Thins fs skip more root start
      (walk fs root skip' extension) := by
  have hskip : root.name ∉ skip := fun hmem => hskip' ((hmore _).2 (.inl hmem))
  have hw := (failure_walk_eq_none_iff extension hskip hroot).2 hlooks
  have hw' := (failure_walk_eq_none_iff extension hskip' hroot).2 (hlooks.of_skipping hmore)
  refine ⟨hw, hw', ?_, fun htree => ?_⟩
  · rintro ⟨d, name⟩ hmem
    obtain ⟨hd, hname⟩ :=
      ((covers_of_failure_eq_none hskip' hroot hw').mem_entries d name).1 hmem
    exact ((covers_of_failure_eq_none hskip hroot hw).mem_entries d name).2
      ⟨hd.of_skipping hmore, hname⟩
  · refine eq_of_ordered (ordered_paths extension hskip' hroot)
      ((ordered_paths extension hskip hroot).filter _) fun path => ?_
    rw [List.mem_filter, decide_eq_true_iff,
      mem_paths_iff_of_treelike hskip' hroot hw' (htree.of_skipping hmore),
      mem_paths_iff_of_treelike hskip hroot hw htree]
    constructor
    · rintro ⟨names, d, name, hleads, hname, rfl⟩
      obtain ⟨hleads, hnames⟩ := (FileSystem.leads_skipping_iff hmore).1 hleads
      exact ⟨⟨names, d, name, hleads, hname, rfl⟩, by rwa [Path.between_descend_concat]⟩
    · rintro ⟨⟨names, d, name, hleads, hname, rfl⟩, hnames⟩
      rw [Path.between_descend_concat] at hnames
      exact ⟨names, d, name, (FileSystem.leads_skipping_iff hmore).2 ⟨hleads, hnames⟩, hname, rfl⟩

end

/-- **Skipping further names filters what is found**, exactly if no look at an entry fails in the
walk without them.  Whether looks fail or not, nothing is found below a name that is to be
skipped. -/
theorem pruning_is_filtering (fs : FileSystem) (extension : String) (root : Path) :
    (∀ skip, ∀ path ∈ (walk fs root skip extension).paths,
      ∀ name ∈ root.between path, name ∉ skip) ∧
    ∀ skip skip' more start, (∀ name, name ∈ skip' ↔ name ∈ skip ∨ name ∈ more) →
      root.name ∉ skip' → fs.Lists root start →
        ((walk fs root skip extension).Thins fs skip more root start
          (walk fs root skip' extension) ↔ fs.Looks skip start) := by
  refine ⟨fun skip path hpath => between_of_mem_paths hpath, ?_⟩
  intro skip skip' more start hmore hskip' hroot
  have hskip : root.name ∉ skip := fun hmem => hskip' ((hmore _).2 (.inl hmem))
  constructor
  · intro hthins
    exact (failure_walk_eq_none_iff extension hskip hroot).1 hthins.failure
  · intro hlooks
    exact thins_of_looks hmore hskip' hroot hlooks

/-- A tree with two directories and a component in each. -/
def branchedTree : Snapshot :=
  { workingDirectory := { anchor := .root, components := [] }
    looks := [(workingRoot, .directory (.ok 0) none)]
    directories := #[[("a", .directory (.ok 1) none), ("b", .directory (.ok 2) none)],
      [("A.vue", .file (.ok []))], [("B.vue", .file (.ok []))]] }

/-- The way to each directory of a tree with two directories below its root. -/
def branchWay : Nat → List String
  | 1 => ["a"]
  | 2 => ["b"]
  | _ => []

/-- In that tree, skipping one directory takes away what lies below it. -/
theorem pruning_is_filtering_branchedTree :
    workingRoot.name ∉ ["node_modules", "a"] ∧
      branchedTree.fileSystem.Lists workingRoot (0 : Fin 3) ∧
      branchedTree.fileSystem.Looks ["node_modules"] (0 : Fin 3) ∧
      (walk branchedTree.fileSystem workingRoot ["node_modules", "a"] ".vue").paths =
        (walk branchedTree.fileSystem workingRoot ["node_modules"] ".vue").paths.filter fun p =>
          ∀ name ∈ workingRoot.between p, name ∉ ["a"] := by
  have hmore : ∀ name, name ∈ ["node_modules", "a"] ↔ name ∈ ["node_modules"] ∨ name ∈ ["a"] := by
    simp
  have hskip : workingRoot.name ∉ ["node_modules", "a"] := by decide
  have hroot : branchedTree.fileSystem.Lists workingRoot (0 : Fin 3) := ⟨_, rfl, rfl⟩
  have hlooks : branchedTree.fileSystem.Looks ["node_modules"] (0 : Fin 3) :=
    FileSystem.looks_of_forall (by decide)
  have htree : branchedTree.fileSystem.Treelike ["node_modules"] (0 : Fin 3) :=
    FileSystem.treelike_of_ways (fun d => branchWay d.val) rfl (by decide)
  exact ⟨hskip, hroot, hlooks, (((pruning_is_filtering _ _ _).2 _ _ _ _ hmore hskip hroot).2
    hlooks).paths htree⟩

/-- A tree with two directories, in the first of which a look fails. -/
def tangledTree : Snapshot :=
  { workingDirectory := { anchor := .root, components := [] }
    looks := [(workingRoot, .directory (.ok 0) none)]
    directories := #[[("a", .directory (.ok 1) none), ("b", .directory (.ok 2) none)],
      [("x", .blocked .nameTooLong)], [("B.vue", .file (.ok []))]] }

/-- The walk through that tree ends in the first directory.  If that directory is skipped, the walk
comes to the second one, and finds what it did not find before. -/
theorem walk_tangledTree :
    workingRoot.name ∉ ["node_modules", "a"] ∧
      tangledTree.fileSystem.Lists workingRoot (0 : Fin 3) ∧
      tangledTree.fileSystem.Treelike ["node_modules"] (0 : Fin 3) ∧
      (walk tangledTree.fileSystem workingRoot ["node_modules"] ".vue").paths = [] ∧
      (walk tangledTree.fileSystem workingRoot ["node_modules", "a"] ".vue").paths =
        [workingRoot.descend ["b", "B.vue"]] ∧
      ¬ (walk tangledTree.fileSystem workingRoot ["node_modules"] ".vue").Thins
        tangledTree.fileSystem ["node_modules"] ["a"] workingRoot (0 : Fin 3)
        (walk tangledTree.fileSystem workingRoot ["node_modules", "a"] ".vue") := by
  have hskip : workingRoot.name ∉ ["node_modules"] := by decide
  have hskip' : workingRoot.name ∉ ["node_modules", "a"] := by decide
  have hroot : tangledTree.fileSystem.Lists workingRoot (0 : Fin 3) := ⟨_, rfl, rfl⟩
  have htree : tangledTree.fileSystem.Treelike ["node_modules"] (0 : Fin 3) :=
    FileSystem.treelike_of_ways (fun d => branchWay d.val) rfl (by decide)
  have hpending : tangledTree.fileSystem.pendingIn workingRoot (0 : Fin 3) =
      [{ parent := workingRoot, directory := (0 : Fin 3), name := "a" },
        { parent := workingRoot, directory := (0 : Fin 3), name := "b" }] := rfl
  have hpaths : (walk tangledTree.fileSystem workingRoot ["node_modules"] ".vue").paths = [] := by
    rw [walk_eq hskip hroot, hpending, walkFrom]
    show (((walkFrom tangledTree.fileSystem ["node_modules"] ".vue" [(1 : Fin 3), (0 : Fin 3)]
      [{ parent := workingRoot.descend ["a"], directory := (1 : Fin 3), name := "x" },
        { parent := workingRoot, directory := (0 : Fin 3), name := "b" }]).after _).after _).paths =
      []
    rw [walkFrom]
    rfl
  have hpaths' : (walk tangledTree.fileSystem workingRoot ["node_modules", "a"] ".vue").paths =
      [workingRoot.descend ["b", "B.vue"]] := by
    rw [walk_eq hskip' hroot, hpending, walkFrom]
    show (((walkFrom tangledTree.fileSystem ["node_modules", "a"] ".vue" [(0 : Fin 3)]
      [{ parent := workingRoot, directory := (0 : Fin 3), name := "b" }]).after _).after _).paths =
      _
    rw [walkFrom]
    show ((((walkFrom tangledTree.fileSystem ["node_modules", "a"] ".vue" [(2 : Fin 3), (0 : Fin 3)]
      [{ parent := workingRoot.descend ["b"], directory := (2 : Fin 3), name := "B.vue" }]).after
        _).after _).after _).paths = _
    rw [walkFrom]
    show (((((walkFrom tangledTree.fileSystem ["node_modules", "a"] ".vue"
      [(2 : Fin 3), (0 : Fin 3)] []).after _).after _).after _).after _).paths = _
    rw [walkFrom]
    rfl
  refine ⟨hskip', hroot, htree, hpaths, hpaths', fun h => ?_⟩
  have hthinned := h.paths htree
  rw [hpaths, hpaths'] at hthinned
  cases hthinned

end ComponentCensus
