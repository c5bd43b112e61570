import ComponentCensus.Files.FileSystem
import ComponentCensus.Text.Blank

/-!
# Volumes

A file system that is held in memory: directories, files and symbolic links.

* `Node`, `Volume` — the nodes of a volume; the first node is the root.
* `Volume.onward`, `Volume.lookup` — how a look goes on after one name, and the node that some names
  lead to from a directory, links followed.
* `Volume.put`, `Volume.filled` — the volume with one more directory, file or link, for which the
  directories on the way are made; the volume with a list of them.
* `Volume.fileSystem` — the volume as a file system.  Directories list their entries in the order
  of their characters.
-/

set_option autoImplicit false

namespace ComponentCensus

/-- A node of a volume. -/
inductive Node where
  /-- A directory with the directory above it and the nodes of its entries. -/
  | directory (parent : Nat) (entries : List (String × Nat))
  /-- A file. -/
  | file (bytes : Bytes)
  /-- A symbolic link. -/
  | link (target : String)
deriving Repr, DecidableEq, Inhabited

/-- A file system in memory. -/
structure Volume where
  /-- The nodes, with the root in front. -/
  nodes : Array Node := #[.directory 0 []]
  /-- The path of the working directory. -/
  workingPath : List String := []
  /-- The working directory. -/
  working : Nat := 0
  /-- The names under which directories cannot be listed, with the causes. -/
  unlistable : List (String × Reason) := []
  /-- The names under which files cannot be opened, with the causes. -/
  unreadable : List (String × Reason) := []
deriving Repr, Inhabited

namespace Volume

/-- The greatest number of bytes of a name. -/
def nameLimit : Nat := 255

/-- The number of bytes that a path must not reach. -/
def pathLimit : Nat := 4096

/-- The greatest number of links that are followed on one look. -/
def linkLimit : Nat := 40

/-- The components of the target of a link.  A slash at the end asks for a directory. -/
def targetComponents (target : String) : List String :=
  let pieces := ((Text.splitOn '/' target.toList).filter (· ≠ [])).map String.ofList
  if target.toList.getLast? = some '/' then pieces ++ ["."] else pieces

/-- The directory at which the target of a link starts, given the directory of the link. -/
def targetStart (dir : Nat) (target : String) : Nat :=
  if target.toList.head? = some '/' then 0 else dir

/-- How a look goes on after one name. -/
inductive Onward where
  /-- At a node. -/
  | node (i : Nat)
  /-- Along the names of a link, from a directory. -/
  | link (start : Nat) (names : List String)

/-- How a look goes on after a name in a directory. -/
def onward (v : Volume) (dir : Nat) (name : String) : Except Reason Onward :=
  match v.nodes[dir]? with
  | some (.directory parent entries) =>
    if name = "." then .ok (.node dir)
    else if name = ".." then .ok (.node parent)
    else if nameLimit < name.utf8ByteSize then .error .nameTooLong
    else
      match entries.lookup name with
      | none => .error .noEntry
      | some i =>
        match v.nodes[i]? with
        | some (.link target) => .ok (.link (targetStart dir target) (targetComponents target))
        | _ => .ok (.node i)
  | _ => .error .notDirectory

/-- The node that some names lead to from a directory, given what is to be done at a link. -/
def along (v : Volume) (atLink : Nat → List String → Except Reason Nat) (dir : Nat) :
    List String → Except Reason Nat
  | [] => .ok dir
  | name :: rest =>
    match v.onward dir name with
    | .error reason => .error reason
    | .ok (.node i) => v.along atLink i rest
    | .ok (.link start names) => atLink start (names ++ rest)

/-- The node that some names lead to from a directory; a number of links may be followed on the
way. -/
def lookup (v : Volume) : Nat → Nat → List String → Except Reason Nat
  | 0 => v.along fun _ _ => .error .tooManyLinks
  | budget + 1 => v.along (v.lookup budget)

/-! ## Filling a volume -/

/-- Entries with one more, in the order of their names; an entry of the same name is replaced. -/
def insertEntry (name : String) (i : Nat) : List (String × Nat) → List (String × Nat)
  | [] => [(name, i)]
  | e :: entries =>
    if name < e.1 then (name, i) :: e :: entries
    else if name = e.1 then (name, i) :: entries
    else e :: insertEntry name i entries

/-- The volume with a new node as an entry of a directory. -/
def addNode (v : Volume) (dir : Nat) (name : String) (node : Node) : Volume :=
  match v.nodes[dir]? with
  | some (.directory parent entries) =>
    let entries := insertEntry name v.nodes.size entries
    { v with nodes := (v.nodes.setIfInBounds dir (.directory parent entries)).push node }
  | _ => v

/-- The directory that some components lead to, and the volume in which it has been made if it was
not there. -/
def ensureDirectory (v : Volume) (dir : Nat) : List String → Volume × Nat
  | [] => (v, dir)
  | name :: names =>
    match v.lookup linkLimit dir [name] with
    | .ok i => v.ensureDirectory i names
    | .error _ =>
      let made := v.addNode dir name (.directory dir [])
      made.ensureDirectory v.nodes.size names

/-- The target of the link that an entry of a directory is. -/
def linkTarget? (v : Volume) (dir : Nat) (name : String) : Option String :=
  match v.nodes[dir]? with
  | some (.directory _ entries) =>
    match (entries.lookup name).bind fun i => v.nodes[i]? with
    | some (.link target) => some target
    | _ => none
  | _ => none

/-- The volume with a file at some path components below a directory.  A file that is already
there is overwritten, and a link that leads nowhere gets a file where it leads to; at most `budget`
links are followed. -/
def putFile (v : Volume) (bytes : Bytes) (budget dir : Nat) (components : List String) : Volume :=
  match components.getLast? with
  | none => v
  | some name =>
    let (v, dir) := v.ensureDirectory dir components.dropLast
    match v.lookup linkLimit dir [name] with
    | .ok i => { v with nodes := v.nodes.setIfInBounds i (.file bytes) }
    | .error _ =>
      match budget, v.linkTarget? dir name with
      | budget + 1, some target =>
        v.putFile bytes budget (targetStart dir target) (targetComponents target)
      | _, _ => v.addNode dir name (.file bytes)

/-- What can be put into a volume. -/
inductive Item where
  | directory
  | file (bytes : Bytes)
  | link (target : String)
deriving Repr, Inhabited

/-- The volume with an item at some path components below a directory. -/
def putAt (v : Volume) (dir : Nat) (components : List String) (item : Item) : Volume :=
  match item with
  | .directory => (v.ensureDirectory dir components).1
  | .file bytes => v.putFile bytes linkLimit dir components
  | .link target =>
    match components.getLast? with
    | none => v
    | some name =>
      let (v, dir) := v.ensureDirectory dir components.dropLast
      v.addNode dir name (.link target)

/-- The directory at which a path starts. -/
def startOf (v : Volume) (anchor : Anchor) : Nat :=
  match anchor with
  | .relative => v.working
  | _ => 0

/-- The volume with an item at a path. -/
def put (v : Volume) (path : Path) (item : Item) : Volume :=
  v.putAt (v.startOf path.anchor) path.components item

/-- The volume that holds nothing but a working directory at the given path below the root. -/
def withWorkingDirectory (components : List String) : Volume :=
  let (v, dir) := ({} : Volume).ensureDirectory 0 components
  { v with working := dir, workingPath := components }

/-- The volume with a working directory and some items, put in one after the other. -/
def filled (working : List String) (items : List (Path × Item)) : Volume :=
  items.foldl (fun v item => v.put item.1 item.2) (withWorkingDirectory working)

/-! ## A volume as a file system -/

/-- What a look at a node shows, given the last name that led to it. -/
def sight (v : Volume) (name : String) (found : Except Reason Nat) :
    Sighting (Fin v.nodes.size) :=
  match found with
  | .error reason => if reason.isAbsence then .missing reason else .blocked reason
  | .ok i =>
    if h : i < v.nodes.size then
      match v.nodes[i] with
      | .directory _ _ => .directory (.ok ⟨i, h⟩) (v.unlistable.lookup name)
      | .file bytes => .file ((v.unreadable.lookup name).elim (.ok bytes) .error)
      | .link _ => .missing .noEntry
    else .missing .noEntry

/-- The names of the entries of a node, each name once. -/
def namesOf : Node → List String
  | .directory _ entries => (entries.map Prod.fst).eraseDups
  | _ => []

theorem namesOf_nodup (node : Node) : (namesOf node).Nodup := by
  cases node with
  | directory parent entries => exact nodup_eraseDups _
  | file bytes => exact List.nodup_nil
  | link target => exact List.nodup_nil

/-- What is at a path. -/
def visit (v : Volume) (path : Path) : Option (Sighting (Fin v.nodes.size)) :=
  if path.text.toList.contains '\x00' then none
  else if pathLimit ≤ path.text.utf8ByteSize then some (.blocked .nameTooLong)
  else some (v.sight path.name (v.lookup linkLimit (v.startOf path.anchor) path.components))

/-- The volume as a file system.  That a file cannot be opened is not known before it is opened. -/
def fileSystem (v : Volume) : FileSystem :=
  { size := v.nodes.size
    names := fun d => namesOf v.nodes[d]
    names_nodup := fun d => namesOf_nodup v.nodes[d]
    visit := v.visit
    entry := fun d name => v.sight name (v.lookup linkLimit d [name])
    mayRead := fun _ => true
    workingDirectory := { anchor := .root, components := v.workingPath } }

end Volume
end ComponentCensus
