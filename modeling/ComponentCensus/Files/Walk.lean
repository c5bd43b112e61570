import ComponentCensus.Files.FileSystem
import ComponentCensus.Log

/-!
# Walking a directory tree

The search for component files goes through a tree depth first, in the order in which directories
list their entries.  Directories whose name is to be skipped are left out, the root included.
Links to directories are followed, but every directory is gone through at most once, so the walk
ends on every file system.  There is no limit on the depth of a tree, and none on the recursion that
goes down into it.

* `Event` — what happens on the way; `Event.logRecord?` is the record that it leaves.
* `walkFrom` — the walk, given the directories already entered and the entries still to be looked
  at.  The directories that are left decrease with every directory entered, and the entries with
  every other step.
* `walk` — the walk from a root.
-/

set_option autoImplicit false

namespace ComponentCensus

/-- What happens on a walk. -/
inductive Event (δ : Type) where
  /-- A directory is left out for its name. -/
  | pruned (path : Path)
  /-- A directory has been entered before. -/
  | revisited (path : Path)
  /-- A directory cannot be listed. -/
  | unlistable (path : Path) (reason : Reason)
  /-- A directory is entered. -/
  | entered (path : Path) (directory : δ)
  /-- A component file is found as an entry of a directory. -/
  | found (path : Path) (directory : δ) (name : String) (bytes : Except Reason Bytes)

/-- Why a walk ends early. -/
inductive WalkFailure where
  /-- The root cannot be listed. -/
  | rootInaccessible (path : Path) (reason : Reason)
  /-- The root is no path. -/
  | malformedRoot
  /-- A look at an entry fails. -/
  | lookFailed (path : Path) (reason : Reason)
deriving Repr, DecidableEq

/-- A walk: what happened, and why it ended early if it did. -/
structure Walk (δ : Type) where
  /-- What happened, in order. -/
  events : List (Event δ)
  /-- Why the walk ended early. -/
  failure : Option WalkFailure := none

namespace Walk

variable {δ : Type}

/-- The walk with one more event in front. -/
def after (e : Event δ) (w : Walk δ) : Walk δ := { w with events := e :: w.events }

end Walk

/-- Whether a name ends as the names of component files do. -/
def hasExtension (extension name : String) : Bool := extension.toList.isSuffixOf name.toList

/-- An entry that is still to be looked at: the path and the identity of its directory, and its
name. -/
structure Pending (δ : Type) where
  parent : Path
  directory : δ
  name : String

/-- The path of an entry. -/
def Pending.path {δ : Type} (p : Pending δ) : Path := p.parent.child p.name

/-- The entries of a directory, seen from the path that led to it. -/
def FileSystem.pendingIn (fs : FileSystem) (parent : Path) (directory : fs.Directory) :
    List (Pending fs.Directory) :=
  (fs.names directory).map fun name => { parent, directory, name }

/-- The number of directories that have not been entered. -/
def unentered {n : Nat} (entered : List (Fin n)) : Nat :=
  ((List.finRange n).filter fun d => !entered.contains d).length

/-- Entering a directory leaves fewer. -/
theorem unentered_cons_lt {n : Nat} {entered : List (Fin n)} {d : Fin n}
    (h : entered.contains d = false) : unentered (d :: entered) < unentered entered := by
  unfold unentered
  have hsub : ((List.finRange n).filter fun x => !(d :: entered).contains x) =
      ((List.finRange n).filter fun x => !entered.contains x).filter fun x => x != d := by
    rw [List.filter_filter]
    congr 1
    funext x
    by_cases hx : x = d <;> simp [hx]
  rw [hsub]
  apply List.length_filter_lt_length_iff_exists.2
  exact ⟨d, by simpa [List.mem_finRange] using h, by simp⟩

/-- The walk, given the directories already entered and the entries still to be looked at. -/
def walkFrom (fs : FileSystem) (skip : List String) (extension : String)
    (entered : List fs.Directory) : List (Pending fs.Directory) → Walk fs.Directory
  | [] => { events := [] }
  | p :: rest =>
    match fs.entry p.directory p.name with
    | .blocked reason => { events := [], failure := some (.lookFailed p.path reason) }
    | .directory identity refusal =>
      if skip.contains p.name then
        (walkFrom fs skip extension entered rest).after (.pruned p.path)
      else match identity with
        | .error reason =>
          (walkFrom fs skip extension entered rest).after (.unlistable p.path reason)
        | .ok d =>
          if _h : entered.contains d = true then
            (walkFrom fs skip extension entered rest).after (.revisited p.path)
          else match refusal with
            | some reason =>
              (walkFrom fs skip extension entered rest).after (.unlistable p.path reason)
            | none =>
              (walkFrom fs skip extension (d :: entered) (fs.pendingIn p.path d ++ rest)).after
                (.entered p.path d)
    | s =>
      if hasExtension extension p.name then
        (walkFrom fs skip extension entered rest).after
          (.found p.path p.directory p.name s.bytes)
      else walkFrom fs skip extension entered rest
termination_by pending => (unentered entered, pending.length)
decreasing_by
  all_goals first
    | exact Prod.Lex.right _ (Nat.lt_succ_self _)
    | exact Prod.Lex.left _ _ (unentered_cons_lt (by simpa using _h))

/-- The walk from a root. -/
def walk (fs : FileSystem) (root : Path) (skip : List String) (extension : String) :
    Walk fs.Directory :=
  if skip.contains root.name then { events := [.pruned root] }
  else match fs.visit root with
    | none => { events := [], failure := some .malformedRoot }
    | some s =>
      match s.listed with
      | .error reason => { events := [], failure := some (.rootInaccessible root reason) }
      | .ok d => (walkFrom fs skip extension [d] (fs.pendingIn root d)).after (.entered root d)

namespace Event

variable {δ : Type}

/-- The record that an event leaves in the log. -/
def logRecord? : Event δ → Option Log.Record
  | pruned path =>
    some { channel := .walk, level := .debug, text := "Skipped (blacklist): " ++ path.text }
  | revisited path =>
    some { channel := .walk, level := .debug, text := "Skipped (already visited): " ++ path.text }
  | unlistable path reason =>
    some
      { channel := .walk
        level := .warning
        text := "Cannot list directory " ++ path.text ++ ": " ++ reason.text }
  | _ => none

/-- The path of the component file that is found. -/
def foundPath? : Event δ → Option Path
  | found path _ _ _ => some path
  | _ => none

end Event

namespace Walk

variable {δ : Type}

/-- The paths of the component files that are found, in order. -/
def paths (w : Walk δ) : List Path := w.events.filterMap Event.foundPath?

/-- The records that the walk leaves in the log. -/
def logRecords (w : Walk δ) : List Log.Record := w.events.filterMap Event.logRecord?

end Walk
end ComponentCensus
