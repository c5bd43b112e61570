import ComponentCensus.Settings.Fault
import ComponentCensus.Text.Blank

/-!
# Directories to skip

Directories are skipped by name, wherever they are.

* `namesIn` — the names in a text, between commas and without the blanks around them.
* `skippedNames` — the names that a scan skips: those that a caller gives, and `node_modules`
  always.
-/

set_option autoImplicit false

namespace ComponentCensus
namespace Settings

/-- The names in a text, between commas; blank names are left out. -/
def namesInText (s : List Char) : List (List Char) :=
  ((Text.splitOn ',' s).map Text.trim).filter (· ≠ [])

/-- The names in a text that may be missing. -/
def namesIn (s : Option String) : List String :=
  match s with
  | none => []
  | some s => (namesInText s.toList).map String.ofList

/-- The directory that is always skipped. -/
def alwaysSkipped : String := "node_modules"

/-- The text that a value is, if it is one. -/
def Value.text? : Value → Option String
  | .text s => some s
  | _ => none

/-- The names that a scan skips, given a value whose members name further directories.  Members
that are no texts name nothing; a member that cannot be in a set is a fault. -/
def skippedNames (extra : Value) : Except FieldFault (List String) :=
  match extra.members? with
  | none => .error (.notIterable extra.kind)
  | some members =>
    match members.find? fun v => !v.isHashable with
    | some v => .error (.notHashable v.kind)
    | none => .ok (alwaysSkipped :: members.filterMap Value.text?)

/-- Names without repetition, in the order of their characters. -/
def sortedNames (names : List String) : List String :=
  names.eraseDups.mergeSort fun a b => decide (a ≤ b)

end Settings
end ComponentCensus
