import ComponentCensus.Component.Assessment
import ComponentCensus.Files.FileSystem
import ComponentCensus.Settings.Fault
import ComponentCensus.Text.Utf8

/-!
# Reading components

* `textOfBytes` — the text of a component file: UTF-8 with replacement characters for what is not,
  and line feeds at all line ends.
* `readComponent` — the component at a path.
-/

set_option autoImplicit false

namespace ComponentCensus

/-- The text of a component file. -/
def textOfBytes (bs : Bytes) : String :=
  String.ofList (Text.unifyLineEnds (Text.Utf8.decodeLossy bs))

/-- The component that the bytes of a file make. -/
def componentOf (path : Path) (bs : Bytes) : Component :=
  { path := path.text, content := textOfBytes bs }

/-- Why a component cannot be read. -/
inductive ReadFailure where
  /-- The file cannot be opened or read. -/
  | inaccessible (path : Path) (reason : Reason)
  /-- The path is no path. -/
  | malformedPath
deriving Repr, DecidableEq

/-- What a path that is no path has wrong with it. -/
def malformedPathMessage : String := "embedded null byte"

/-- The component at a path. -/
def readComponent (fs : FileSystem) (path : Path) : Except ReadFailure Component :=
  match fs.visit path with
  | none => .error .malformedPath
  | some s =>
    match s.bytes with
    | .error reason => .error (.inaccessible path reason)
    | .ok bs => .ok (componentOf path bs)

end ComponentCensus
