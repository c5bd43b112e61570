import ComponentCensus.Proofs.Files.Order

/-!
# What becomes of each directory

A walk leaves records about directories that it does not go through.  Together with the directories
that it goes through, they account for every directory among the entries that it sees.

* `Walk.descents`, `Walk.remarks` — the two sides of the account, read off the events of a walk;
  `perm_descents_remarks` says that there is nothing else about directories in them.
* `Walk.AccountsBelow` — the account of a walk from a root.
* `directories_accounted` — every walk that does not fail leaves such an account.
-/

set_option autoImplicit false

namespace ComponentCensus

section
variable {δ : Type}

/-- The path of the directory that is entered. -/
def Event.descent? (e : Event δ) : Option Path := e.directory?.map fun _ => e.path

/-- The record that an event leaves, with the path of the directory that the event is about. -/
def Event.remark? (e : Event δ) : Option (Path × Log.Record) :=
  e.logRecord?.map fun r => (e.path, r)

namespace Walk

/-- The paths of the directories that are entered, in order. -/
def descents (w : Walk δ) : List Path := w.events.filterMap Event.descent?

/-- The records about directories, in order, each with the path of its directory. -/
def remarks (w : Walk δ) : List (Path × Log.Record) := w.events.filterMap Event.remark?

/-- The records about the directory at a path. -/
def remarksOn (w : Walk δ) (path : Path) : List Log.Record :=
  (w.remarks.filter fun r => r.1 = path).map Prod.snd

/-- The records about directories are all records that a walk leaves. -/
theorem map_snd_remarks (w : Walk δ) : w.remarks.map Prod.snd = w.logRecords := by
  rw [remarks, logRecords, List.map_filterMap]
  refine List.filterMap_congr fun e _ => ?_
  rw [Event.remark?, Option.map_map]
  exact Option.map_id'

theorem map_fst_remarks (w : Walk δ) :
    w.remarks.map Prod.fst = w.events.filterMap fun e => e.logRecord?.map fun _ => e.path := by
  rw [remarks, List.map_filterMap]
  refine List.filterMap_congr fun e _ => ?_
  rw [Event.remark?, Option.map_map]
  rfl

theorem remarksOn_path {w : Walk δ} {r : Path × Log.Record} (h : r ∈ w.remarks) :
    r.2.RemarksOn r.1 := by
  obtain ⟨e, -, he⟩ := List.mem_filterMap.1 h
  obtain ⟨record, hrecord, rfl⟩ := Option.map_eq_some_iff.1 he
  exact e.remarksOn hrecord

/-- As many records are about a path as the path has remarks. -/
theorem length_remarksOn (w : Walk δ) (path : Path) :
    (w.remarksOn path).length = (w.remarks.map Prod.fst).count path := by
  rw [remarksOn, List.length_map, ← List.countP_eq_length_filter, List.count, List.countP_map]
  exact List.countP_congr fun r _ => by simp

/-- If the paths that are entered and those that are remarked on are some paths without repetition,
then each of these is entered, or has one record. -/
theorem settled_of_perm {w : Walk δ} {below seen : List Path} (hseen : seen.Nodup)
    (hperm : (below ++ w.remarks.map Prod.fst).Perm seen) {path : Path} (h : path ∈ seen) :
    (path ∈ below ∧ w.remarksOn path = []) ∨
      (path ∉ below ∧ ∃ r, w.remarksOn path = [r] ∧ r.RemarksOn path) := by
  obtain ⟨-, honce, hdisjoint⟩ := List.nodup_append'.1 (hperm.nodup_iff.2 hseen)
  have hlength := w.length_remarksOn path
  rcases List.mem_append.1 (hperm.mem_iff.2 h) with hmem | hmem
  · rw [List.count_eq_zero_of_not_mem (hdisjoint hmem)] at hlength
    exact .inl ⟨hmem, List.eq_nil_of_length_eq_zero hlength⟩
  · rw [List.count_eq_one_of_mem honce hmem] at hlength
    obtain ⟨r, hr⟩ := List.length_eq_one_iff.1 hlength
    have hr' : r ∈ w.remarksOn path := hr ▸ List.mem_singleton_self r
    obtain ⟨x, hx, rfl⟩ := List.mem_map.1 hr'
    obtain ⟨hx, hpath⟩ := List.mem_filter.1 hx
    refine .inr ⟨fun hbelow => hdisjoint hbelow hmem, x.2, hr, ?_⟩
    exact of_decide_eq_true hpath ▸ remarksOn_path hx

end Walk

/-- The events about directories are those that enter one and those that leave a record. -/
theorem perm_descents_remarks (w : Walk δ) :
    (w.descents ++ w.remarks.map Prod.fst).Perm (w.events.filterMap Event.directoryPath?) := by
  rw [Walk.map_fst_remarks, Walk.descents]
  induction w.events with
  | nil => exact .nil
  | cons e es ih =>
    cases e with
    | entered path d => exact ih.cons path
    | found path d name bytes => exact ih
    | pruned path => exact List.perm_middle.trans (ih.cons path)
    | revisited path => exact List.perm_middle.trans (ih.cons path)
    | unlistable path reason => exact List.perm_middle.trans (ih.cons path)

end

/-! ## The account -/

/-- What the records of a walk and the directories that it goes through below its root say about
the directories among the entries that it sees. -/
structure Walk.AccountsBelow (fs : FileSystem) (skip : List String) (extension : String)
    (root : Path) (start : fs.Directory) (below : List Path) (w : Walk fs.Directory) : Prop where
  /-- The root is entered first. -/
  descents : w.descents = root :: below
  /-- No two of the directories that are seen have the same path. -/
  nodup : ((w.seen fs).map Pending.path).Nodup
  /-- They are the directories that are entered and those that are remarked on. -/
  balance : (below ++ w.remarks.map Prod.fst).Perm ((w.seen fs).map Pending.path)
  number : (w.seen fs).length = below.length + w.logRecords.length
  /-- Each is entered, or one record is about it. -/
  settled : ∀ p ∈ w.seen fs,
    (p.path ∈ below ∧ w.remarksOn p.path = []) ∨
      (p.path ∉ below ∧ ∃ r, w.remarksOn p.path = [r] ∧ r.RemarksOn p.path)
  /-- Which of these it is depends on the entry and on the directories entered before. -/
  told : ∀ p ∈ w.seen fs, ToldIn fs skip extension [] w.events p
  /-- The records are all records of the walk, and they come in the order of the walk. -/
  records : w.remarks.map Prod.snd = w.logRecords
  ordered : (w.remarks.map Prod.fst).Pairwise (fs.Before root start)

section
variable {fs : FileSystem} {skip : List String} {extension : String} {root : Path}
  {start : fs.Directory}

theorem directoryPath?_eq_some {e : Event fs.Directory} {path : Path}
    (h : e.directoryPath? = some path) : e.path = path := by
  cases e with
  | found => cases h
  | _ => exact Option.some.inj h

/-- What a walk sees is what it sees behind the root, and the directories in the root. -/
theorem seen_after_root (w : Walk fs.Directory) :
    (w.after (.entered root start)).seen fs = fs.directoriesIn root start ++ w.seen fs := rfl

theorem mem_seen {w : Walk fs.Directory} {p : Pending fs.Directory} :
    p ∈ w.seen fs ↔ ∃ path d, .entered path d ∈ w.events ∧ p ∈ fs.directoriesIn path d := by
  rw [Walk.seen, List.mem_flatMap]
  constructor
  · rintro ⟨e, he, hp⟩
    cases e with
    | entered path d => exact ⟨path, d, he, hp⟩
    | _ => cases hp
  · rintro ⟨path, d, he, hp⟩
    exact ⟨_, he, hp⟩

/-- Below its root, a walk that does not fail tells of every directory that it sees, and of no
other directories. -/
theorem perm_seen (hskip : root.name ∉ skip) (hroot : fs.Lists root start)
    (hw : (walk fs root skip extension).failure = none) :
    ((walk fs root skip extension).events.filterMap Event.directoryPath?).Perm
      (root :: ((walk fs root skip extension).seen fs).map Pending.path) := by
  rw [walk_eq hskip hroot] at hw ⊢
  rw [seen_after_root, List.map_append]
  exact ((traces_walkFrom extension [start] (fs.pendingIn root start)).balance hw).cons root

theorem told_walk (hskip : root.name ∉ skip) (hroot : fs.Lists root start)
    (hw : (walk fs root skip extension).failure = none) :
    ∀ p ∈ (walk fs root skip extension).seen fs,
      ToldIn fs skip extension [] (walk fs root skip extension).events p := by
  rw [walk_eq hskip hroot] at hw ⊢
  intro p hp
  have hdirectory : fs.isDirectoryAt p = true := by
    obtain ⟨_, _, -, hp⟩ := mem_seen.1 hp
    exact (List.mem_filter.1 hp).2
  refine toldIn_cons _ ((traces_walkFrom extension [start] (fs.pendingIn root start)).told hw
    (.inl hdirectory) ?_)
  rw [seen_after_root] at hp
  rcases List.mem_append.1 hp with hp | hp
  · exact .inl (List.mem_filter.1 hp).1
  · obtain ⟨path, d, hentered, hp⟩ := mem_seen.1 hp
    exact .inr ⟨path, d, hentered, (List.mem_filter.1 hp).1⟩

theorem descents_walk (extension : String) (hskip : root.name ∉ skip)
    (hroot : fs.Lists root start) :
    ∃ below, (walk fs root skip extension).descents = root :: below := by
  rw [walk_eq hskip hroot]
  exact ⟨_, rfl⟩

theorem accountsBelow_walk (hskip : root.name ∉ skip) (hroot : fs.Lists root start)
    (hw : (walk fs root skip extension).failure = none) :
    ∃ below, (walk fs root skip extension).AccountsBelow fs skip extension root start below := by
  obtain ⟨below, hdescents⟩ := descents_walk extension hskip hroot
  have hperm := perm_seen hskip hroot hw
  have hall : (root :: ((walk fs root skip extension).seen fs).map Pending.path).Nodup :=
    hperm.nodup_iff.1 (ordered_filterMap extension hskip hroot fun _ _ h =>
      directoryPath?_eq_some h).nodup
  have hbalance : (below ++ (walk fs root skip extension).remarks.map Prod.fst).Perm
      (((walk fs root skip extension).seen fs).map Pending.path) := by
    have hsides := (perm_descents_remarks (walk fs root skip extension)).trans hperm
    rw [hdescents, List.cons_append] at hsides
    exact hsides.cons_inv
  have hnodup := (List.nodup_cons.1 hall).2
  refine ⟨below, hdescents, hnodup, hbalance, ?_,
    fun p hp => Walk.settled_of_perm hnodup hbalance (List.mem_map_of_mem hp),
    told_walk hskip hroot hw, Walk.map_snd_remarks _, ?_⟩
  · have hlength := hbalance.length_eq
    rw [List.length_append, List.length_map, List.length_map] at hlength
    rw [← Walk.map_snd_remarks, List.length_map, hlength]
  · rw [Walk.map_fst_remarks]
    refine ordered_filterMap extension hskip hroot fun e path h => ?_
    obtain ⟨_, -, hpath⟩ := Option.map_eq_some_iff.1 h
    exact hpath

end

/-- **No directory is dropped silently.**  In a walk that does not fail, either the root is left out
for its name, or every directory among the entries that are seen is entered or has one record that
says why not; the records come in the order in which a depth-first search meets the directories. -/
theorem directories_accounted (fs : FileSystem) (root : Path) (skip : List String)
    (extension : String) (hw : (walk fs root skip extension).failure = none) :
    (root.name ∈ skip ∧ walk fs root skip extension = { events := [.pruned root] }) ∨
      (root.name ∉ skip ∧ ∃ start below, fs.Lists root start ∧
        (walk fs root skip extension).AccountsBelow fs skip extension root start below) := by
  by_cases hskip : root.name ∈ skip
  · exact .inl ⟨hskip, walk_of_mem_skip hskip⟩
  · obtain ⟨start, hroot⟩ := exists_lists hskip hw
    obtain ⟨below, haccounts⟩ := accountsBelow_walk hskip hroot hw
    exact .inr ⟨hskip, start, below, hroot, haccounts⟩

/-- A tree with a directory to be skipped, one that cannot be listed, one that is entered, and a
link back to the root. -/
def remarkableTree : Snapshot :=
  { workingDirectory := { anchor := .root, components := [] }
    looks := [(workingRoot, .directory (.ok 0) none)]
    directories := #[[("node_modules", .directory (.ok 2) none),
        ("shut", .directory (.ok 3) (some .noPermission)), ("sub", .directory (.ok 1) none)],
      [("A.vue", .file (.ok [])), ("loop", .directory (.ok 0) none)], [], []] }

/-- The walk through that tree leaves an account. -/
theorem directories_accounted_remarkableTree :
    (walk remarkableTree.fileSystem workingRoot ["node_modules"] ".vue").failure = none ∧
      ∃ start below, remarkableTree.fileSystem.Lists workingRoot start ∧
        (walk remarkableTree.fileSystem workingRoot ["node_modules"] ".vue").AccountsBelow
          remarkableTree.fileSystem ["node_modules"] ".vue" workingRoot start below := by
  have hlooks : remarkableTree.fileSystem.Looks ["node_modules"] (0 : Fin 4) :=
    FileSystem.looks_of_forall (by decide)
  have hw : (walk remarkableTree.fileSystem workingRoot ["node_modules"] ".vue").failure = none :=
    (failure_eq_none_iff_walkable ".vue").2 (.inr ⟨(0 : Fin 4), ⟨_, rfl, rfl⟩, hlooks⟩)
  have hskip : workingRoot.name ∉ ["node_modules"] := by decide
  refine ⟨hw, ?_⟩
  rcases directories_accounted remarkableTree.fileSystem workingRoot ["node_modules"] ".vue" hw with
    ⟨hmem, -⟩ | ⟨-, haccount⟩
  · exact absurd hmem hskip
  · exact haccount

end ComponentCensus
