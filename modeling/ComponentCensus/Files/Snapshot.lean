import ComponentCensus.Files.FileSystem

/-!
# Snapshots

What was seen of a file system at one time: looks at some paths, and the directories that were gone
through with a look at each of their entries.  Whoever takes a snapshot numbers the directories; a
directory that several names lead to has one number.

* `Snapshot.record`, `Snapshot.fill` — the snapshot with one more look, or with the entries of a
  directory.
* `Snapshot.fileSystem` — the snapshot as a file system, in which nothing is where nobody looked.
-/

set_option autoImplicit false

namespace ComponentCensus

/-- What was seen of a file system. -/
structure Snapshot where
  /-- The path of the working directory. -/
  workingDirectory : Path
  /-- What was seen at paths, the last look first. -/
  looks : List (Path × Sighting Nat) := []
  /-- What was seen of the entries of each directory. -/
  directories : Array (List (String × Sighting Nat)) := #[]
  /-- The paths of what may not be read. -/
  unreadable : List Path := []

/-- A look whose directories are among the first `n`. -/
def Sighting.within (n : Nat) : Sighting Nat → Sighting (Fin n)
  | .directory (.ok d) refusal =>
    .directory (if h : d < n then .ok ⟨d, h⟩ else .error .noEntry) refusal
  | .directory (.error reason) refusal => .directory (.error reason) refusal
  | .file bytes => .file bytes
  | .missing reason => .missing reason
  | .blocked reason => .blocked reason

namespace Snapshot

/-- The snapshot with one more look at a path. -/
def record (s : Snapshot) (path : Path) (seen : Sighting Nat) : Snapshot :=
  { s with looks := (path, seen) :: s.looks }

/-- The snapshot with one more directory, whose entries are still to be looked at, and the number
of that directory. -/
def reserve (s : Snapshot) : Snapshot × Nat :=
  ({ s with directories := s.directories.push [] }, s.directories.size)

/-- The snapshot with the entries of a directory. -/
def fill (s : Snapshot) (directory : Nat) (entries : List (String × Sighting Nat)) : Snapshot :=
  { s with directories := s.directories.setIfInBounds directory entries }

/-- The look at a path, or nothing if nobody looked there. -/
def lookAt (s : Snapshot) (path : Path) : Sighting Nat :=
  (s.looks.lookup path).getD (.missing .noEntry)

/-- The look at an entry of a directory. -/
def lookAtEntry (s : Snapshot) (directory : Nat) (name : String) : Sighting Nat :=
  ((s.directories[directory]?).bind fun entries => entries.lookup name).getD (.missing .noEntry)

/-- The snapshot as a file system. -/
def fileSystem (s : Snapshot) : FileSystem :=
  { size := s.directories.size
    names := fun directory => (s.directories[directory].map Prod.fst).eraseDups
    names_nodup := fun _ => nodup_eraseDups _
    visit := fun path =>
      if path.text.toList.contains '\x00' then none
      else some ((s.lookAt path).within s.directories.size)
    entry := fun directory name => (s.lookAtEntry directory name).within s.directories.size
    mayRead := fun path => !s.unreadable.contains path
    workingDirectory := s.workingDirectory }

end Snapshot
end ComponentCensus
