import ComponentCensus.Proofs.Files.Coverage
import ComponentCensus.Proofs.Path

/-!
# Spelling the root in another way

A directory has many paths.  A walk looks at entries from the directory they are in, so the path of
its root shows in the paths of its events and nowhere else: a walk is one walk below the root, with
the path of the root put in front.

* `Walk.mapPath` — a walk with another path for each of its events.
* `walkFrom_mapPath` — going on from entries with other parents gives other paths, and nothing else.
* `walkBelow`, `walk_eq_mapPath` — the walk below a root, and the walk from a root in terms of it.
* `named_of_mem_finds` — where directories list names, what is found below a root has a path of
  names.
-/

set_option autoImplicit false

namespace ComponentCensus

variable {δ : Type}

/-- The path of a path below another one. -/
def Path.below (root p : Path) : Path := root.descend p.components

theorem Path.below_child (root p : Path) (name : String) :
    root.below (p.child name) = (root.below p).child name :=
  (root.child_descend p.components name).symm

@[simp] theorem Path.below_workingRoot (root : Path) : root.below workingRoot = root :=
  root.descend_nil

/-! ## Other paths for the same events -/

/-- The event with another path. -/
def Event.mapPath (f : Path → Path) : Event δ → Event δ
  | pruned path => .pruned (f path)
  | revisited path => .revisited (f path)
  | unlistable path reason => .unlistable (f path) reason
  | entered path d => .entered (f path) d
  | found path d name bytes => .found (f path) d name bytes

/-- The failure with another path. -/
def WalkFailure.mapPath (f : Path → Path) : WalkFailure → WalkFailure
  | rootInaccessible path reason => .rootInaccessible (f path) reason
  | malformedRoot => .malformedRoot
  | lookFailed path reason => .lookFailed (f path) reason

/-- The walk with other paths. -/
def Walk.mapPath (f : Path → Path) (w : Walk δ) : Walk δ :=
  { events := w.events.map (Event.mapPath f), failure := w.failure.map (WalkFailure.mapPath f) }

/-- The component file with another path. -/
def Find.mapPath (f : Path → Path) (x : Find δ) : Find δ := { x with path := f x.path }

/-- The entry with another path for its directory. -/
def Pending.mapParent (f : Path → Path) (p : Pending δ) : Pending δ :=
  { p with parent := f p.parent }

theorem Event.find?_mapPath (f : Path → Path) (e : Event δ) :
    (e.mapPath f).find? = e.find?.map (Find.mapPath f) := by
  cases e <;> rfl

theorem Walk.mapPath_after (f : Path → Path) (e : Event δ) (w : Walk δ) :
    (w.after e).mapPath f = (w.mapPath f).after (e.mapPath f) := rfl

theorem Walk.failure_mapPath (f : Path → Path) (w : Walk δ) :
    (w.mapPath f).failure = w.failure.map (WalkFailure.mapPath f) := rfl

theorem Walk.finds_mapPath (f : Path → Path) (w : Walk δ) :
    (w.mapPath f).finds = w.finds.map (Find.mapPath f) := by
  simp only [finds, mapPath, List.filterMap_map, List.map_filterMap]
  exact List.filterMap_congr fun e _ => e.find?_mapPath f

theorem Walk.paths_mapPath (f : Path → Path) (w : Walk δ) :
    (w.mapPath f).paths = w.paths.map f := by
  rw [paths_eq_map_finds, paths_eq_map_finds, finds_mapPath, List.map_map, List.map_map]
  rfl

@[simp] theorem Pending.directory_mapParent (f : Path → Path) (p : Pending δ) :
    (p.mapParent f).directory = p.directory := rfl

@[simp] theorem Pending.name_mapParent (f : Path → Path) (p : Pending δ) :
    (p.mapParent f).name = p.name := rfl

variable {fs : FileSystem} {skip : List String} {extension : String}

theorem FileSystem.pendingIn_map (f : Path → Path) (parent : Path) (d : fs.Directory) :
    (fs.pendingIn parent d).map (Pending.mapParent f) = fs.pendingIn (f parent) d := by
  rw [pendingIn, pendingIn, List.map_map]
  rfl

section
variable {f : Path → Path} (hf : ∀ p name, f (p.child name) = (f p).child name)
include hf

theorem Pending.path_mapParent (p : Pending δ) : (p.mapParent f).path = f p.path :=
  (hf p.parent p.name).symm

/-- Entries with other parents are explored in the same way, under other paths. -/
theorem walkFrom_mapPath (entered : List fs.Directory) (pending : List (Pending fs.Directory)) :
    walkFrom fs skip extension entered (pending.map (Pending.mapParent f)) =
      (walkFrom fs skip extension entered pending).mapPath f := by
  fun_induction walkFrom fs skip extension entered pending with
  | case1 entered =>
    rw [List.map_nil, walkFrom]
    rfl
  | case2 entered p rest reason hentry =>
    simp only [List.map_cons, walkFrom, Pending.directory_mapParent, Pending.name_mapParent, hentry,
      Pending.path_mapParent hf]
    rfl
  | case3 entered p rest identity refusal hentry hskip ih =>
    simp only [List.map_cons, walkFrom, Pending.directory_mapParent, Pending.name_mapParent, hentry,
      if_pos hskip, Pending.path_mapParent hf, ih, Walk.mapPath_after]
    rfl
  | case4 entered p rest refusal hskip reason hentry ih =>
    simp only [List.map_cons, walkFrom, Pending.directory_mapParent, Pending.name_mapParent, hentry,
      if_neg hskip, Pending.path_mapParent hf, ih, Walk.mapPath_after]
    rfl
  | case5 entered p rest refusal hskip d hd hentry ih =>
    simp only [List.map_cons, walkFrom, Pending.directory_mapParent, Pending.name_mapParent, hentry,
      if_neg hskip, dif_pos hd, Pending.path_mapParent hf, ih, Walk.mapPath_after]
    rfl
  | case6 entered p rest hskip d hd reason hentry ih =>
    simp only [List.map_cons, walkFrom, Pending.directory_mapParent, Pending.name_mapParent, hentry,
      if_neg hskip, dif_neg hd, Pending.path_mapParent hf, ih, Walk.mapPath_after]
    rfl
  | case7 entered p rest hskip d hd hentry ih =>
    -- the entries of the directory that is entered get other parents as well
    rw [List.map_append, FileSystem.pendingIn_map] at ih
    simp only [List.map_cons, walkFrom, Pending.directory_mapParent, Pending.name_mapParent, hentry,
      if_neg hskip, dif_neg hd, Pending.path_mapParent hf, ih, Walk.mapPath_after]
    rfl
  | case8 entered p rest hext hblocked hdirectory ih =>
    simp only [List.map_cons, walkFrom, Pending.directory_mapParent, Pending.name_mapParent,
      if_pos hext, Pending.path_mapParent hf, ih, Walk.mapPath_after]
    rfl
  | case9 entered p rest hext hblocked hdirectory ih =>
    simp only [List.map_cons, walkFrom, Pending.directory_mapParent, Pending.name_mapParent,
      if_neg hext, ih]

end

/-! ## The walk below a root -/

/-- What a walk does below a root, given what is seen there; paths start at the root. -/
def walkBelow (fs : FileSystem) (seen : Option (Sighting fs.Directory)) (skip : List String)
    (extension : String) : Walk fs.Directory :=
  match seen with
  | none => { events := [], failure := some .malformedRoot }
  | some s =>
    match s.listed with
    | .error reason => { events := [], failure := some (.rootInaccessible workingRoot reason) }
    | .ok d =>
      (walkFrom fs skip extension [d] (fs.pendingIn workingRoot d)).after (.entered workingRoot d)

/-- A walk from a root is the walk below it, with the path of the root put in front. -/
theorem walk_eq_mapPath {root : Path} (hskip : root.name ∉ skip) :
    walk fs root skip extension =
      (walkBelow fs (fs.visit root) skip extension).mapPath root.below := by
  rw [walk, if_neg (by simpa using hskip)]
  unfold walkBelow
  cases fs.visit root with
  | none => rfl
  | some s =>
    dsimp only
    cases s.listed with
    | error reason =>
      simp only [Walk.mapPath, Option.map_some, WalkFailure.mapPath, Path.below_workingRoot,
        List.map_nil]
    | ok d =>
      have hbelow : walkFrom fs skip extension [d] _ = _ :=
        walkFrom_mapPath root.below_child [d] (fs.pendingIn workingRoot d)
      rw [FileSystem.pendingIn_map, Path.below_workingRoot] at hbelow
      simp only [hbelow, Walk.mapPath_after, Event.mapPath, Path.below_workingRoot]

/-! ## The names on the way -/

/-- Directories list names. -/
def FileSystem.ListsNames (fs : FileSystem) : Prop := ∀ d, ∀ name ∈ fs.names d, IsName name

theorem FileSystem.Leads.isName (hnames : fs.ListsNames) {start d : fs.Directory}
    {names : List String} (h : fs.Leads skip start names d) : ∀ name ∈ names, IsName name := by
  induction h with
  | here => simp
  | down _ hname _ ih =>
    intro name hmem
    rcases List.mem_append.1 hmem with hmem | hmem
    · exact ih name hmem
    · rw [List.mem_singleton.1 hmem]
      exact hnames _ _ hname

/-- The path of what is found below a path of names consists of names. -/
theorem Find.Placed.named {root : Path} {start : fs.Directory} {f : Find fs.Directory}
    (h : f.Placed fs skip extension root start) (hnames : fs.ListsNames) (hroot : root.Named) :
    f.path.Named := by
  obtain ⟨names, hleads, hpath, hname, -⟩ := h
  rw [hpath]
  refine hroot.descend fun name hmem => ?_
  rcases List.mem_append.1 hmem with hmem | hmem
  · exact hleads.isName hnames name hmem
  · rw [List.mem_singleton.1 hmem]
    exact hnames _ _ (FileSystem.mem_componentsIn.1 hname).1

/-- What is found below a root has a path of names, the last of which is its own. -/
theorem named_of_mem_finds (hnames : fs.ListsNames) {seen : Option (Sighting fs.Directory)}
    {x : Find fs.Directory} (hx : x ∈ (walkBelow fs seen skip extension).finds) :
    x.path.Named ∧ ∃ names, x.path.components = names ++ [x.name] := by
  unfold walkBelow at hx
  split at hx
  · cases hx
  · split at hx
    · cases hx
    · rename_i start _
      have hplaced : (walkFrom fs skip extension [start] (fs.pendingIn workingRoot start)).Placed
          fs skip extension workingRoot start :=
        (explores_walkFrom [start] (fs.pendingIn workingRoot start)).placed fun p hp =>
          placed_of_mem_pendingIn .here (by rwa [Path.descend_nil])
      obtain ⟨names, -, hpath, -⟩ := hplaced.finds x hx
      have hroot : workingRoot.Named := fun name hmem => absurd hmem List.not_mem_nil
      refine ⟨(hplaced.finds x hx).named hnames hroot, names, ?_⟩
      rw [hpath]
      rfl

end ComponentCensus
