import ComponentCensus.Text.Blank

/-!
# File paths

A path is an anchor and a list of components.  Reading a path drops repeated slashes and `.`
components and keeps `..`; exactly two leading slashes are an anchor of their own.

* `Path.ofString`, `Path.text` — reading and writing; the empty path is written `.`.
* `Path.parts` — the components, with the anchor in front if there is one.
* `Path.name` — the last component, empty if there is none.
* `Path.child` — the path of an entry of a directory.
-/

set_option autoImplicit false

namespace ComponentCensus

/-- Where a path starts. -/
inductive Anchor where
  /-- In the working directory. -/
  | relative
  /-- At the root. -/
  | root
  /-- At the root, written with two slashes. -/
  | doubleRoot
deriving Repr, DecidableEq, Inhabited

/-- The slashes of an anchor. -/
def Anchor.text : Anchor → String
  | relative => ""
  | root => "/"
  | doubleRoot => "//"

/-- The anchor that a number of leading slashes stands for. -/
def Anchor.ofSlashes : Nat → Anchor
  | 0 => relative
  | 2 => doubleRoot
  | _ => root

/-- A file path. -/
structure Path where
  /-- Where the path starts. -/
  anchor : Anchor
  /-- The components behind the anchor. -/
  components : List String
deriving Repr, DecidableEq, Inhabited

namespace Path

/-- The components of a path text: the pieces between slashes that are neither empty nor `.`. -/
def componentsOf (s : List Char) : List String :=
  ((Text.splitOn '/' s).filter fun piece => piece ≠ [] && piece ≠ ['.']).map String.ofList

/-- The path that a text denotes. -/
def ofString (s : String) : Path :=
  { anchor := Anchor.ofSlashes (s.toList.takeWhile (· = '/')).length
    components := componentsOf s.toList }

/-- The text of a path. -/
def text (p : Path) : String :=
  let written := p.anchor.text ++ String.intercalate "/" p.components
  if written.isEmpty then "." else written

/-- The components, with the anchor in front if there is one. -/
def parts (p : Path) : List String :=
  if p.anchor = .relative then p.components else p.anchor.text :: p.components

/-- The last component, empty if there is none. -/
def name (p : Path) : String := p.components.getLast?.getD ""

/-- The path of the entry `entry` of the directory at `p`. -/
def child (p : Path) (entry : String) : Path := { p with components := p.components ++ [entry] }

@[simp] theorem name_child (p : Path) (entry : String) : (p.child entry).name = entry := by
  simp [child, name]

end Path
end ComponentCensus
