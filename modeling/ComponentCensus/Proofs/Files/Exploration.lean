import Mathlib.Data.List.Perm.Basic
import ComponentCensus.Proofs.Files.Reach

/-!
# What a walk does at each entry

The walk of `Files.Walk`, without the order in which it asks what an entry is.

* `Find`, `Walk.directories`, `Walk.finds` — what is read off the events of a walk.
* `Explores` — what a walk does at each entry.  Every law below is an induction on it;
  `explores_walkFrom` is the only place where the algorithm is opened.
* `Explores.fresh`, `Explores.nodup` — no directory is entered twice.
* `Explores.placed` — what is entered and what is found is at the end of a chain from the root, and
  its path spells that chain.
* `Find.Followed` — a path that leads to the entry at which it was found; a file system need not
  follow paths in that way, but every volume does, as far as its limits allow.
* `Explores.settled` — a walk that does not fail has gone down every entry that leads down, so the
  directories that it has entered are closed.
* `Explores.entries_perm` — a walk that does not fail finds exactly the component files of the
  directories that it enters.
-/

set_option autoImplicit false

namespace ComponentCensus

variable {δ : Type}

/-! ## What is read off the events of a walk -/

/-- A component file that a walk finds. -/
structure Find (δ : Type) where
  /-- The path under which it is found. -/
  path : Path
  /-- The directory that lists it. -/
  directory : δ
  /-- Its name in that directory. -/
  name : String
  /-- What reading it yields. -/
  bytes : Except Reason Bytes

/-- The place of a component file, however many paths lead there. -/
def Find.entry (f : Find δ) : δ × String := (f.directory, f.name)

namespace Event

/-- The directory that is entered. -/
def directory? : Event δ → Option δ
  | entered _ d => some d
  | _ => none

/-- The component file that is found. -/
def find? : Event δ → Option (Find δ)
  | found path directory name bytes => some { path, directory, name, bytes }
  | _ => none

theorem foundPath?_eq_map_find? (e : Event δ) : e.foundPath? = e.find?.map Find.path := by
  cases e <;> rfl

end Event

namespace Walk

/-- The directories that are entered, in order. -/
def directories (w : Walk δ) : List δ := w.events.filterMap Event.directory?

/-- The component files that are found, in order. -/
def finds (w : Walk δ) : List (Find δ) := w.events.filterMap Event.find?

theorem paths_eq_map_finds (w : Walk δ) : w.paths = w.finds.map Find.path := by
  rw [paths, finds, List.map_filterMap]
  exact List.filterMap_congr fun e _ => e.foundPath?_eq_map_find?

@[simp] theorem directories_after (e : Event δ) (w : Walk δ) :
    (w.after e).directories = e.directory?.toList ++ w.directories := by
  simp only [directories, after, List.filterMap_cons]
  cases e.directory? <;> rfl

@[simp] theorem finds_after (e : Event δ) (w : Walk δ) :
    (w.after e).finds = e.find?.toList ++ w.finds := by
  simp only [finds, after, List.filterMap_cons]
  cases e.find? <;> rfl

end Walk

/-! ## What a walk does at each entry -/

variable {fs : FileSystem} {skip : List String} {extension : String}

/-- What a walk does, given the directories already entered and the entries still to be looked at.
At an entry it fails, or passes by (a remark at most), or finds a component file, or goes down. -/
inductive Explores (fs : FileSystem) (skip : List String) (extension : String) :
    List fs.Directory → List (Pending fs.Directory) → Walk fs.Directory → Prop
  | done {entered : List fs.Directory} : Explores fs skip extension entered [] { events := [] }
  | fail {entered : List fs.Directory} {p : Pending fs.Directory}
      {rest : List (Pending fs.Directory)} {reason : Reason}
      (hlook : (fs.entry p.directory p.name).isBlocked = true) :
      Explores fs skip extension entered (p :: rest)
        { events := [], failure := some (.lookFailed p.path reason) }
  | pass {entered : List fs.Directory} {p : Pending fs.Directory}
      {rest : List (Pending fs.Directory)} {w v : Walk fs.Directory}
      (hlook : (fs.entry p.directory p.name).isBlocked = false)
      (hfile : ((fs.entry p.directory p.name).isDirectory = false) →
        hasExtension extension p.name = false)
      (hdown : ∀ e, fs.Opens skip p.directory p.name e → e ∈ entered)
      (hrest : Explores fs skip extension entered rest w)
      (hfailure : v.failure = w.failure) (hdirectories : v.directories = w.directories)
      (hfinds : v.finds = w.finds) : Explores fs skip extension entered (p :: rest) v
  | find {entered : List fs.Directory} {p : Pending fs.Directory}
      {rest : List (Pending fs.Directory)} {w : Walk fs.Directory}
      (hlook : (fs.entry p.directory p.name).isBlocked = false)
      (hfile : (fs.entry p.directory p.name).isDirectory = false)
      (hext : hasExtension extension p.name = true)
      (hrest : Explores fs skip extension entered rest w) :
      Explores fs skip extension entered (p :: rest)
        (w.after (.found p.path p.directory p.name (fs.entry p.directory p.name).bytes))
  | enter {entered : List fs.Directory} {p : Pending fs.Directory}
      {rest : List (Pending fs.Directory)} {w : Walk fs.Directory} {d : fs.Directory}
      (opens : fs.Opens skip p.directory p.name d) (hnew : d ∉ entered)
      (hrest : Explores fs skip extension (d :: entered) (fs.pendingIn p.path d ++ rest) w) :
      Explores fs skip extension entered (p :: rest) (w.after (.entered p.path d))

/-- A directory that leads nowhere new is passed by with a remark. -/
theorem Explores.remark {entered : List fs.Directory} {p : Pending fs.Directory}
    {rest : List (Pending fs.Directory)} {w : Walk fs.Directory} {e : Event fs.Directory}
    {identity : Except Reason fs.Directory} {refusal : Option Reason}
    (hentry : fs.entry p.directory p.name = .directory identity refusal)
    (hdown : ∀ d, fs.Opens skip p.directory p.name d → d ∈ entered)
    (hrest : Explores fs skip extension entered rest w)
    (hdirectory : e.directory? = none) (hfind : e.find? = none) :
    Explores fs skip extension entered (p :: rest) (w.after e) := by
  refine .pass (w := w) (by rw [hentry]; rfl) (fun h => ?_) hdown hrest rfl ?_ ?_
  · rw [hentry] at h
    exact absurd h (by simp [Sighting.isDirectory])
  · rw [Walk.directories_after, hdirectory]; rfl
  · rw [Walk.finds_after, hfind]; rfl

/-- The walk does what `Explores` says. -/
theorem explores_walkFrom (entered : List fs.Directory) (pending : List (Pending fs.Directory)) :
    Explores fs skip extension entered pending (walkFrom fs skip extension entered pending) := by
  fun_induction walkFrom fs skip extension entered pending with
  | case1 entered => exact .done
  | case2 entered p rest reason hentry => exact .fail (by rw [hentry]; rfl)
  | case3 entered p rest identity refusal hentry hskip ih =>
    refine .remark hentry (fun d h => ?_) ih rfl rfl
    exact absurd (List.contains_iff_mem.1 hskip) h.kept
  | case4 entered p rest refusal hskip reason hentry ih =>
    refine .remark hentry (fun d h => ?_) ih rfl rfl
    have heq := hentry.symm.trans (Sighting.listed_eq_ok_iff.1 h.listed)
    simp at heq
  | case5 entered p rest refusal hskip d hd hentry ih =>
    refine .remark hentry (fun e h => ?_) ih rfl rfl
    have heq := hentry.symm.trans (Sighting.listed_eq_ok_iff.1 h.listed)
    simp only [Sighting.directory.injEq, Except.ok.injEq] at heq
    exact heq.1 ▸ List.contains_iff_mem.1 hd
  | case6 entered p rest hskip d hd reason hentry ih =>
    refine .remark hentry (fun e h => ?_) ih rfl rfl
    have heq := hentry.symm.trans (Sighting.listed_eq_ok_iff.1 h.listed)
    simp at heq
  | case7 entered p rest hskip d hd hentry ih =>
    refine .enter ⟨?_, ?_⟩ ?_ ih
    · simpa using hskip
    · rw [hentry]; rfl
    · simpa using hd
  | case8 entered p rest hext hblocked hdirectory ih =>
    exact .find (Sighting.isBlocked_eq_false_iff.2 hblocked)
      (Sighting.isDirectory_eq_false_iff.2 hdirectory) hext ih
  | case9 entered p rest hext hblocked hdirectory ih =>
    exact .pass (Sighting.isBlocked_eq_false_iff.2 hblocked) (fun _ => by simpa using hext)
      (fun e h => absurd (Sighting.listed_eq_ok_iff.1 h.listed) (hdirectory _ _)) ih rfl rfl rfl

/-! ## No directory twice -/

namespace Explores

variable {entered : List fs.Directory} {pending : List (Pending fs.Directory)}
  {w : Walk fs.Directory}

/-- A walk enters no directory that has been entered before. -/
theorem fresh (h : Explores fs skip extension entered pending w) :
    ∀ d ∈ w.directories, d ∉ entered := by
  induction h with
  | done => simp [Walk.directories]
  | fail => simp [Walk.directories]
  | pass _ _ _ _ _ hdirectories _ ih => rwa [hdirectories]
  | find _ _ _ _ ih => simpa [Event.directory?] using ih
  | enter _ hnew _ ih =>
    intro e he
    rcases List.mem_cons.1 (by simpa [Event.directory?] using he) with rfl | he
    · exact hnew
    · exact fun hmem => ih e he (List.mem_cons_of_mem _ hmem)

/-- A walk enters no directory twice. -/
theorem nodup (h : Explores fs skip extension entered pending w) : w.directories.Nodup := by
  induction h with
  | done => simp [Walk.directories]
  | fail => simp [Walk.directories]
  | pass _ _ _ _ _ hdirectories _ ih => rwa [hdirectories]
  | find _ _ _ _ ih => simpa [Event.directory?] using ih
  | enter _ _ hrest ih =>
    rw [Walk.directories_after]
    refine List.nodup_cons.2 ⟨fun hmem => ?_, ih⟩
    exact hrest.fresh _ hmem (List.mem_cons_self ..)

end Explores

/-! ## Where things are found -/

/-- The entry is at the end of a chain from `start`, and is seen from the path of that chain. -/
def Pending.Placed (fs : FileSystem) (skip : List String) (root : Path) (start : fs.Directory)
    (p : Pending fs.Directory) : Prop :=
  ∃ names, fs.Leads skip start names p.directory ∧ p.parent = root.descend names ∧
    p.name ∈ fs.names p.directory

/-- The component file is at the end of a chain from `start`, its path spells that chain, and
reading it yields what is there. -/
def Find.Placed (fs : FileSystem) (skip : List String) (extension : String) (root : Path)
    (start : fs.Directory) (f : Find fs.Directory) : Prop :=
  ∃ names, fs.Leads skip start names f.directory ∧ f.path = root.descend (names ++ [f.name]) ∧
    f.name ∈ fs.componentsIn extension f.directory ∧
    f.bytes = (fs.entry f.directory f.name).bytes

/-- A look at the path of the component file shows what the entry is. -/
def Find.Followed (fs : FileSystem) (f : Find fs.Directory) : Prop :=
  fs.visit f.path = some (fs.entry f.directory f.name)

/-- All that a walk enters, finds or fails at is at the end of a chain from `start`. -/
structure Walk.Placed (fs : FileSystem) (skip : List String) (extension : String) (root : Path)
    (start : fs.Directory) (w : Walk fs.Directory) : Prop where
  directories : ∀ d ∈ w.directories, fs.Reachable skip start d
  finds : ∀ f ∈ w.finds, f.Placed fs skip extension root start
  failure : ∀ f, w.failure = some f → ∃ d name, fs.Reachable skip start d ∧
    name ∈ fs.names d ∧ (fs.entry d name).isBlocked = true

section Placed

variable {root : Path} {start : fs.Directory} {entered : List fs.Directory}
  {pending : List (Pending fs.Directory)} {w : Walk fs.Directory}

theorem placed_of_mem_pendingIn {names : List String} {d : fs.Directory}
    (h : fs.Leads skip start names d) {p : Pending fs.Directory}
    (hp : p ∈ fs.pendingIn (root.descend names) d) : p.Placed fs skip root start := by
  obtain ⟨name, hname, rfl⟩ := List.mem_map.1 hp
  exact ⟨names, h, rfl, hname⟩

theorem Pending.Placed.path {p : Pending fs.Directory} (h : p.Placed fs skip root start) :
    ∃ names, fs.Leads skip start names p.directory ∧ p.path = root.descend (names ++ [p.name]) := by
  obtain ⟨names, hleads, hparent, -⟩ := h
  exact ⟨names, hleads, by rw [Pending.path, hparent, Path.child_descend]⟩

/-- What a walk meets below placed entries is placed. -/
theorem Explores.placed (h : Explores fs skip extension entered pending w)
    (hpending : ∀ p ∈ pending, p.Placed fs skip root start) :
    w.Placed fs skip extension root start := by
  induction h with
  | done => exact ⟨by simp [Walk.directories], by simp [Walk.finds], by simp⟩
  | @fail _ p rest reason hlook =>
    obtain ⟨names, hleads, -, hname⟩ := hpending p (List.mem_cons_self ..)
    refine ⟨by simp [Walk.directories], by simp [Walk.finds], fun f _ => ?_⟩
    exact ⟨p.directory, p.name, ⟨names, hleads⟩, hname, hlook⟩
  | pass _ _ _ _ hfailure hdirectories hfinds ih =>
    have hw := ih fun p hp => hpending p (List.mem_cons_of_mem _ hp)
    exact ⟨hdirectories ▸ hw.directories, hfinds ▸ hw.finds, hfailure ▸ hw.failure⟩
  | @find _ p rest w _ hfile hext _ ih =>
    have hw := ih fun p hp => hpending p (List.mem_cons_of_mem _ hp)
    have hp := hpending p (List.mem_cons_self ..)
    refine ⟨by simpa [Event.directory?] using hw.directories, fun f hf => ?_, hw.failure⟩
    rcases List.mem_cons.1 (by simpa [Event.find?] using hf) with rfl | hf
    · obtain ⟨names, hleads, hpath⟩ := hp.path
      obtain ⟨-, -, -, hname⟩ := hp
      exact ⟨names, hleads, hpath, FileSystem.mem_componentsIn.2 ⟨hname, hfile, hext⟩, rfl⟩
    · exact hw.finds f hf
  | @enter _ p rest w d opens _ _ ih =>
    have hp := hpending p (List.mem_cons_self ..)
    obtain ⟨names, hleads, hpath⟩ := hp.path
    obtain ⟨-, -, -, hname⟩ := hp
    have hd : fs.Leads skip start (names ++ [p.name]) d := .down hleads hname opens
    have hw := ih fun q hq => by
      rcases List.mem_append.1 hq with hq | hq
      · rw [hpath] at hq
        exact placed_of_mem_pendingIn hd hq
      · exact hpending q (List.mem_cons_of_mem _ hq)
    refine ⟨fun e he => ?_, by simpa [Event.find?] using hw.finds, hw.failure⟩
    rcases List.mem_cons.1 (by simpa [Event.directory?] using he) with rfl | he
    · exact ⟨_, hd⟩
    · exact hw.directories e he

/-- A path belongs to one component file. -/
theorem Find.Placed.entry_eq {f g : Find fs.Directory} (hf : f.Placed fs skip extension root start)
    (hg : g.Placed fs skip extension root start) (hpath : f.path = g.path) :
    f.entry = g.entry := by
  obtain ⟨names, hleads, hfpath, -⟩ := hf
  obtain ⟨names', hleads', hgpath, -⟩ := hg
  have hcat := root.descend_injective (hfpath.symm.trans (hpath.trans hgpath))
  obtain ⟨rfl, hname⟩ := List.append_inj' hcat rfl
  exact Prod.ext (hleads.unique hleads') (List.singleton_inj.1 hname)

end Placed

/-! ## Nothing is left out -/

/-- The look at an entry succeeds, and if the entry leads down, then to one of the given
directories. -/
structure FileSystem.Settled (fs : FileSystem) (skip : List String) (seen : List fs.Directory)
    (d : fs.Directory) (name : String) : Prop where
  looked : (fs.entry d name).isBlocked = false
  down : ∀ e, fs.Opens skip d name e → e ∈ seen

theorem FileSystem.Settled.mono {seen seen' : List fs.Directory} {d : fs.Directory}
    {name : String} (h : fs.Settled skip seen d name) (hsub : seen ⊆ seen') :
    fs.Settled skip seen' d name :=
  ⟨h.looked, fun e he => hsub (h.down e he)⟩

namespace Explores

variable {entered : List fs.Directory} {pending : List (Pending fs.Directory)}
  {w : Walk fs.Directory}

/-- A walk that does not fail settles the entries it was given and those of all directories that
it enters. -/
theorem settled (h : Explores fs skip extension entered pending w) (hw : w.failure = none) :
    (∀ p ∈ pending, fs.Settled skip (entered ++ w.directories) p.directory p.name) ∧
      ∀ d ∈ w.directories, ∀ name ∈ fs.names d,
        fs.Settled skip (entered ++ w.directories) d name := by
  induction h with
  | done => simp [Walk.directories]
  | fail => simp at hw
  | pass hlook _ hdown _ hfailure hdirectories _ ih =>
    obtain ⟨hpending, hentered⟩ := ih (hfailure ▸ hw)
    rw [hdirectories]
    refine ⟨fun q hq => ?_, hentered⟩
    rcases List.mem_cons.1 hq with rfl | hq
    · exact ⟨hlook, fun e he => List.mem_append_left _ (hdown e he)⟩
    · exact hpending q hq
  | @find _ p rest w hlook hfile _ _ ih =>
    obtain ⟨hpending, hentered⟩ := ih hw
    rw [Walk.directories_after]
    refine ⟨fun q hq => ?_, hentered⟩
    rcases List.mem_cons.1 hq with rfl | hq
    · refine ⟨hlook, fun e he => ?_⟩
      exact absurd (Sighting.listed_eq_ok_iff.1 he.listed)
        (Sighting.isDirectory_eq_false_iff.1 hfile _ _)
    · exact hpending q hq
  | @enter entered p rest w d opens _ _ ih =>
    obtain ⟨hpending, hentered⟩ := ih hw
    have hsub : d :: entered ++ w.directories ⊆ entered ++ d :: w.directories := by
      intro e he
      simp only [List.cons_append, List.mem_cons, List.mem_append] at he ⊢
      tauto
    rw [Walk.directories_after]
    refine ⟨fun q hq => ?_, fun e he name hname => ?_⟩
    · rcases List.mem_cons.1 hq with rfl | hq
      · refine ⟨?_, fun e he => ?_⟩
        · rw [Sighting.listed_eq_ok_iff.1 opens.listed]; rfl
        · rw [he.unique opens]
          exact List.mem_append_right _ (List.mem_cons_self ..)
      · exact (hpending q (List.mem_append_right _ hq)).mono hsub
    · rcases List.mem_cons.1 he with rfl | he
      · have hmem : { parent := p.path, directory := e, name } ∈ fs.pendingIn p.path e ++ rest :=
          List.mem_append_left _ (List.mem_map.2 ⟨name, hname, rfl⟩)
        exact (hpending _ hmem).mono hsub
      · exact (hentered e he name hname).mono hsub

end Explores

/-- The component files in a directory, with their place. -/
def FileSystem.entriesIn (fs : FileSystem) (extension : String) (d : fs.Directory) :
    List (fs.Directory × String) :=
  (fs.componentsIn extension d).map fun name => (d, name)

/-- The component files among some entries, with their place. -/
def FileSystem.entriesAmong (fs : FileSystem) (extension : String)
    (pending : List (Pending fs.Directory)) : List (fs.Directory × String) :=
  (pending.filter fun p =>
    !(fs.entry p.directory p.name).isDirectory && hasExtension extension p.name).map fun p =>
      (p.directory, p.name)

theorem FileSystem.entriesAmong_append (pending pending' : List (Pending fs.Directory)) :
    fs.entriesAmong extension (pending ++ pending') =
      fs.entriesAmong extension pending ++ fs.entriesAmong extension pending' := by
  simp [entriesAmong]

theorem FileSystem.entriesAmong_pendingIn (path : Path) (d : fs.Directory) :
    fs.entriesAmong extension (fs.pendingIn path d) = fs.entriesIn extension d := by
  simp only [entriesAmong, pendingIn, entriesIn, componentsIn, List.filter_map, List.map_map]
  rfl

/-- A walk that does not fail finds the component files among the entries it was given and those in
the directories that it enters. -/
theorem Explores.entries_perm {entered : List fs.Directory}
    {pending : List (Pending fs.Directory)} {w : Walk fs.Directory}
    (h : Explores fs skip extension entered pending w) (hw : w.failure = none) :
    (w.finds.map Find.entry).Perm
      (fs.entriesAmong extension pending ++ w.directories.flatMap (fs.entriesIn extension)) := by
  induction h with
  | done => simp [Walk.finds, Walk.directories, FileSystem.entriesAmong]
  | fail => simp at hw
  | @pass _ p rest w v hlook hfile _ _ hfailure hdirectories hfinds ih =>
    have hp : (!(fs.entry p.directory p.name).isDirectory && hasExtension extension p.name)
        = false := by
      cases hd : (fs.entry p.directory p.name).isDirectory with
      | true => rfl
      | false => simpa using hfile hd
    rw [hdirectories, hfinds, FileSystem.entriesAmong, List.filter_cons_of_neg (by simp [hp])]
    exact ih (hfailure ▸ hw)
  | @find _ p rest w _ hfile hext _ ih =>
    rw [Walk.finds_after, Walk.directories_after, FileSystem.entriesAmong,
      List.filter_cons_of_pos (by simp [hfile, hext])]
    exact (ih hw).cons _
  | @enter _ p rest w d opens _ _ ih =>
    have hp : (fs.entry p.directory p.name).isDirectory = true := by
      rw [Sighting.listed_eq_ok_iff.1 opens.listed]; rfl
    rw [Walk.finds_after, Walk.directories_after, FileSystem.entriesAmong,
      List.filter_cons_of_neg (by simp [hp])]
    have hperm := ih hw
    rw [FileSystem.entriesAmong_append, FileSystem.entriesAmong_pendingIn] at hperm
    refine hperm.trans ?_
    show (fs.entriesIn extension d ++ fs.entriesAmong extension rest ++
        w.directories.flatMap (fs.entriesIn extension)).Perm
      (fs.entriesAmong extension rest ++ (fs.entriesIn extension d ++
        w.directories.flatMap (fs.entriesIn extension)))
    rw [← List.append_assoc]
    exact (List.perm_append_comm).append_right _

end ComponentCensus
