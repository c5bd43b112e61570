import Mathlib.Data.List.Perm.Basic
import ComponentCensus.Proofs.Files.Coverage

/-!
# What a walk tells of each entry

`Explores` keeps what a walk enters and finds, and forgets its remarks.  Here every event counts:
it tells something of one entry, and what it tells depends on the entry, on the names that are to be
skipped and on the directories entered so far.

* `Event.Tells` — what is told of an entry.
* `Traces` — a walk as a list of such events; `traces_walkFrom` is the only place where the
  algorithm is opened.
* `Walk.seen` — the directories among the entries of all directories that are entered.
* `Traces.told` — a walk that does not fail tells of every directory it sees and of every component
  file.
* `Traces.balance` — it tells of no other directories, and of each once.
-/

set_option autoImplicit false

namespace ComponentCensus

variable {δ : Type}

/-! ## Events about directories -/

namespace Event

/-- The path of the entry that an event tells of. -/
def path : Event δ → Path
  | pruned path => path
  | revisited path => path
  | unlistable path _ => path
  | entered path _ => path
  | found path _ _ _ => path

/-- The path of the directory that an event tells of. -/
def directoryPath? : Event δ → Option Path
  | pruned path => some path
  | revisited path => some path
  | unlistable path _ => some path
  | entered path _ => some path
  | found _ _ _ _ => none

end Event

/-- The record says that the directory at the path is left out, has been entered before, or cannot
be listed. -/
inductive Log.Record.RemarksOn (path : Path) : Log.Record → Prop
  | pruned : RemarksOn path
      { channel := .walk, level := .debug, text := "Skipped (blacklist): " ++ path.text }
  | revisited : RemarksOn path
      { channel := .walk, level := .debug, text := "Skipped (already visited): " ++ path.text }
  | unlistable (reason : Reason) : RemarksOn path
      { channel := .walk
        level := .warning
        text := "Cannot list directory " ++ path.text ++ ": " ++ reason.text }

/-- A record that an event leaves remarks on the directory of the event. -/
theorem Event.remarksOn {e : Event δ} {r : Log.Record} (h : e.logRecord? = some r) :
    r.RemarksOn e.path := by
  cases e with
  | pruned path => cases h; exact .pruned
  | revisited path => cases h; exact .revisited
  | unlistable path reason => cases h; exact .unlistable reason
  | entered path d => cases h
  | found path d name bytes => cases h

/-! ## What is told of an entry -/

variable {fs : FileSystem} {skip : List String} {extension : String}

/-- Whether an entry is a directory. -/
def FileSystem.isDirectoryAt (fs : FileSystem) (p : Pending fs.Directory) : Bool :=
  (fs.entry p.directory p.name).isDirectory

/-- What is told of an entry, given the directories entered before. -/
inductive Event.Tells (fs : FileSystem) (skip : List String) (extension : String)
    (before : List fs.Directory) (p : Pending fs.Directory) : Event fs.Directory → Prop
  /-- A directory whose name is to be skipped. -/
  | pruned {identity : Except Reason fs.Directory} {refusal : Option Reason}
      (hentry : fs.entry p.directory p.name = .directory identity refusal)
      (hskip : p.name ∈ skip) : Tells fs skip extension before p (.pruned p.path)
  /-- A directory of which nobody can tell which one it is. -/
  | unidentified {reason : Reason} {refusal : Option Reason}
      (hentry : fs.entry p.directory p.name = .directory (.error reason) refusal)
      (hkept : p.name ∉ skip) : Tells fs skip extension before p (.unlistable p.path reason)
  /-- A directory that has been entered before. -/
  | revisited {d : fs.Directory} {refusal : Option Reason}
      (hentry : fs.entry p.directory p.name = .directory (.ok d) refusal)
      (hkept : p.name ∉ skip) (hd : d ∈ before) :
      Tells fs skip extension before p (.revisited p.path)
  /-- A directory that cannot be listed. -/
  | refused {d : fs.Directory} {reason : Reason}
      (hentry : fs.entry p.directory p.name = .directory (.ok d) (some reason))
      (hkept : p.name ∉ skip) (hd : d ∉ before) :
      Tells fs skip extension before p (.unlistable p.path reason)
  /-- A directory that is gone through. -/
  | entered {d : fs.Directory}
      (hentry : fs.entry p.directory p.name = .directory (.ok d) none)
      (hkept : p.name ∉ skip) (hd : d ∉ before) :
      Tells fs skip extension before p (.entered p.path d)
  /-- A component file. -/
  | found (hlook : (fs.entry p.directory p.name).isBlocked = false)
      (hfile : fs.isDirectoryAt p = false) (hext : hasExtension extension p.name = true) :
      Tells fs skip extension before p (.found p.path p.directory p.name
        (fs.entry p.directory p.name).bytes)

namespace Event.Tells

variable {before before' : List fs.Directory} {p : Pending fs.Directory} {e : Event fs.Directory}

/-- In which order the directories were entered does not matter. -/
theorem congr (h : e.Tells fs skip extension before p) (hmem : ∀ d, d ∈ before ↔ d ∈ before') :
    e.Tells fs skip extension before' p := by
  cases h with
  | pruned hentry hskip => exact .pruned hentry hskip
  | unidentified hentry hkept => exact .unidentified hentry hkept
  | revisited hentry hkept hd => exact .revisited hentry hkept ((hmem _).1 hd)
  | refused hentry hkept hd => exact .refused hentry hkept fun h => hd ((hmem _).2 h)
  | entered hentry hkept hd => exact .entered hentry hkept fun h => hd ((hmem _).2 h)
  | found hlook hfile hext => exact .found hlook hfile hext

theorem path_eq (h : e.Tells fs skip extension before p) : e.path = p.path := by
  cases h <;> rfl

/-- A directory that is entered is one that can be gone down to. -/
theorem opens {path : Path} {d : fs.Directory}
    (h : (Event.entered path d).Tells fs skip extension before p) :
    fs.Opens skip p.directory p.name d := by
  cases h with
  | entered hentry hkept _ => exact ⟨hkept, Sighting.listed_eq_ok_iff.2 hentry⟩

/-- What is told of a directory is told under its path, and of other entries nothing of the kind. -/
theorem directoryPath?_eq (h : e.Tells fs skip extension before p) :
    e.directoryPath? = if fs.isDirectoryAt p then some p.path else none := by
  cases h with
  | found hlook hfile hext =>
    rw [hfile]
    rfl
  | _ => simp_all [directoryPath?, FileSystem.isDirectoryAt, Sighting.isDirectory]

end Event.Tells

/-! ## Walks as lists of events -/

/-- What a walk tells, given the directories already entered and the entries still to be looked
at. -/
inductive Traces (fs : FileSystem) (skip : List String) (extension : String) :
    List fs.Directory → List (Pending fs.Directory) → Walk fs.Directory → Prop
  | done {before : List fs.Directory} : Traces fs skip extension before [] { events := [] }
  | fail {before : List fs.Directory} {p : Pending fs.Directory}
      {rest : List (Pending fs.Directory)} {reason : Reason}
      (hentry : fs.entry p.directory p.name = .blocked reason) :
      Traces fs skip extension before (p :: rest)
        { events := [], failure := some (.lookFailed p.path reason) }
  | ignore {before : List fs.Directory} {p : Pending fs.Directory}
      {rest : List (Pending fs.Directory)} {w : Walk fs.Directory}
      (hfile : fs.isDirectoryAt p = false) (hext : hasExtension extension p.name = false)
      (hrest : Traces fs skip extension before rest w) :
      Traces fs skip extension before (p :: rest) w
  | tell {before : List fs.Directory} {p : Pending fs.Directory}
      {rest : List (Pending fs.Directory)} {w : Walk fs.Directory} {e : Event fs.Directory}
      (htells : e.Tells fs skip extension before p) (hstays : e.directory? = none)
      (hrest : Traces fs skip extension before rest w) :
      Traces fs skip extension before (p :: rest) (w.after e)
  | enter {before : List fs.Directory} {p : Pending fs.Directory}
      {rest : List (Pending fs.Directory)} {w : Walk fs.Directory} {d : fs.Directory}
      (htells : (Event.entered p.path d).Tells fs skip extension before p)
      (hrest : Traces fs skip extension (d :: before) (fs.pendingIn p.path d ++ rest) w) :
      Traces fs skip extension before (p :: rest) (w.after (.entered p.path d))

/-- The walk does what `Traces` says. -/
theorem traces_walkFrom (extension : String) (before : List fs.Directory)
    (pending : List (Pending fs.Directory)) :
    Traces fs skip extension before pending (walkFrom fs skip extension before pending) := by
  fun_induction walkFrom fs skip extension before pending with
  | case1 before => exact .done
  | case2 before p rest reason hentry => exact .fail hentry
  | case3 before p rest identity refusal hentry hskip ih =>
    exact .tell (.pruned hentry (List.contains_iff_mem.1 hskip)) rfl ih
  | case4 before p rest refusal hskip reason hentry ih =>
    exact .tell (.unidentified hentry (by simpa using hskip)) rfl ih
  | case5 before p rest refusal hskip d hd hentry ih =>
    exact .tell (.revisited hentry (by simpa using hskip) (List.contains_iff_mem.1 hd)) rfl ih
  | case6 before p rest hskip d hd reason hentry ih =>
    exact .tell (.refused hentry (by simpa using hskip) (by simpa using hd)) rfl ih
  | case7 before p rest hskip d hd hentry ih =>
    exact .enter (.entered hentry (by simpa using hskip) (by simpa using hd)) ih
  | case8 before p rest hext hblocked hdirectory ih =>
    exact .tell (.found (Sighting.isBlocked_eq_false_iff.2 hblocked)
      (Sighting.isDirectory_eq_false_iff.2 hdirectory) hext) rfl ih
  | case9 before p rest hext hblocked hdirectory ih =>
    exact .ignore (Sighting.isDirectory_eq_false_iff.2 hdirectory) (by simpa using hext) ih

/-! ## Every entry is told of -/

/-- The directories among the entries of a directory, seen from the path that led to it. -/
def FileSystem.directoriesIn (fs : FileSystem) (parent : Path) (d : fs.Directory) :
    List (Pending fs.Directory) :=
  (fs.pendingIn parent d).filter fs.isDirectoryAt

/-- The directories that are seen when a directory is entered. -/
def Event.seen (fs : FileSystem) : Event fs.Directory → List (Pending fs.Directory)
  | entered path d => fs.directoriesIn path d
  | _ => []

/-- The directories among the entries of the directories that are entered. -/
def Walk.seen (fs : FileSystem) (w : Walk fs.Directory) : List (Pending fs.Directory) :=
  w.events.flatMap (Event.seen fs)

/-- Somewhere among the events, the entry is told of, in view of the directories entered before. -/
def ToldIn (fs : FileSystem) (skip : List String) (extension : String)
    (before : List fs.Directory) (es : List (Event fs.Directory)) (p : Pending fs.Directory) :
    Prop :=
  ∃ earlier e later, es = earlier ++ e :: later ∧
    e.Tells fs skip extension (before ++ earlier.filterMap Event.directory?) p

theorem toldIn_cons {before : List fs.Directory} {es : List (Event fs.Directory)}
    {p : Pending fs.Directory} (e : Event fs.Directory)
    (h : ToldIn fs skip extension (e.directory?.toList ++ before) es p) :
    ToldIn fs skip extension before (e :: es) p := by
  obtain ⟨earlier, e', later, rfl, htells⟩ := h
  refine ⟨e :: earlier, e', later, rfl, htells.congr fun d => ?_⟩
  cases hd : e.directory? <;> simp [hd, or_left_comm]

theorem toldIn_head {before : List fs.Directory} {es : List (Event fs.Directory)}
    {p : Pending fs.Directory} {e : Event fs.Directory}
    (h : e.Tells fs skip extension before p) : ToldIn fs skip extension before (e :: es) p :=
  ⟨[], e, es, rfl, by simpa using h⟩

/-- The entry is a directory or a component file. -/
def FileSystem.Matters (fs : FileSystem) (extension : String) (p : Pending fs.Directory) : Prop :=
  fs.isDirectoryAt p = true ∨ hasExtension extension p.name = true

namespace Traces

variable {before : List fs.Directory} {pending : List (Pending fs.Directory)}
  {w : Walk fs.Directory}

/-- A walk that does not fail tells of all entries that matter, among those that it was given and
those of the directories that it enters. -/
theorem told (h : Traces fs skip extension before pending w) (hw : w.failure = none)
    {p : Pending fs.Directory} (hmatters : fs.Matters extension p)
    (hp : p ∈ pending ∨ ∃ path d, .entered path d ∈ w.events ∧ p ∈ fs.pendingIn path d) :
    ToldIn fs skip extension before w.events p := by
  induction h with
  | done => simp at hp
  | fail => simp at hw
  | ignore hfile hext _ ih =>
    refine ih hw (hp.imp_left fun hp => ?_)
    rcases List.mem_cons.1 hp with rfl | hp
    · rcases hmatters with hdirectory | hcomponent
      · exact absurd hdirectory (by simp [hfile])
      · exact absurd hcomponent (by simp [hext])
    · exact hp
  | @tell before q rest w e htells hstays _ ih =>
    have hrest : (p ∈ rest ∨ ∃ path d, .entered path d ∈ w.events ∧ p ∈ fs.pendingIn path d) →
        ToldIn fs skip extension before (w.after e).events p := by
      intro hp
      refine toldIn_cons e ?_
      rw [hstays]
      exact ih hw hp
    rcases hp with hp | ⟨path, d, hmem, hp⟩
    · rcases List.mem_cons.1 hp with rfl | hp
      · exact toldIn_head htells
      · exact hrest (.inl hp)
    · rcases List.mem_cons.1 hmem with rfl | hmem
      · cases hstays
      · exact hrest (.inr ⟨path, d, hmem, hp⟩)
  | @enter before q rest w d htells _ ih =>
    have hrest : (p ∈ fs.pendingIn q.path d ++ rest ∨
        ∃ path d, .entered path d ∈ w.events ∧ p ∈ fs.pendingIn path d) →
        ToldIn fs skip extension before (w.after (.entered q.path d)).events p :=
      fun hp => toldIn_cons _ (ih hw hp)
    rcases hp with hp | ⟨path, e, hmem, hp⟩
    · rcases List.mem_cons.1 hp with rfl | hp
      · exact toldIn_head htells
      · exact hrest (.inl (List.mem_append_right _ hp))
    · rcases List.mem_cons.1 hmem with heq | hmem
      · obtain ⟨rfl, rfl⟩ := Event.entered.inj heq
        exact hrest (.inl (List.mem_append_left _ hp))
      · exact hrest (.inr ⟨path, e, hmem, hp⟩)

/-- A walk that does not fail tells, of directories, of those among the entries that it was given
and of those that it sees, and of nothing else. -/
theorem balance (h : Traces fs skip extension before pending w) (hw : w.failure = none) :
    (w.events.filterMap Event.directoryPath?).Perm
      ((pending.filter fs.isDirectoryAt).map Pending.path ++ (w.seen fs).map Pending.path) := by
  induction h with
  | done => exact .nil
  | fail => simp at hw
  | ignore hfile _ _ ih =>
    rw [List.filter_cons_of_neg (by simp [hfile])]
    exact ih hw
  | @tell before p rest w e htells hstays _ ih =>
    have hseen : (w.after e).seen fs = w.seen fs := by
      cases e with
      | entered path d => cases hstays
      | _ => rfl
    rw [hseen]
    cases hd : fs.isDirectoryAt p with
    | true =>
      have hpath : e.directoryPath? = some p.path := by rw [htells.directoryPath?_eq, if_pos hd]
      rw [List.filter_cons_of_pos hd, Walk.after, List.filterMap_cons_some hpath]
      exact (ih hw).cons _
    | false =>
      have hpath : e.directoryPath? = none := by
        rw [htells.directoryPath?_eq, if_neg (by simp [hd])]
      rw [List.filter_cons_of_neg (by simp [hd]), Walk.after, List.filterMap_cons_none hpath]
      exact ih hw
  | @enter before p rest w d htells _ ih =>
    have hd : fs.isDirectoryAt p = true := by
      cases htells with
      | entered hentry => rw [FileSystem.isDirectoryAt, hentry]; rfl
    have hperm := ih hw
    rw [List.filter_append, List.map_append] at hperm
    -- what is seen in the directory that is entered counts as seen, no longer as given
    have hseen : (w.after (.entered p.path d)).seen fs = fs.directoriesIn p.path d ++ w.seen fs :=
      rfl
    rw [List.filter_cons_of_pos hd, hseen, List.map_append, List.map_cons, List.cons_append,
      ← List.append_assoc]
    exact (hperm.trans (List.perm_append_comm.append_right _)).cons p.path

end Traces

end ComponentCensus
