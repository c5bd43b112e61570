import ComponentCensus.Path

/-!
# Modules

Components are grouped by the part of the application that their path points to.

* `moduleOf` — the directory right below the first `components`, or `views` if the path has such a
  component, or `other`.
-/

set_option autoImplicit false

namespace ComponentCensus

/-- The directory whose entries are modules. -/
def componentsDirectory : String := "components"

/-- The module of everything below a directory of this name. -/
def viewsModule : String := "views"

/-- The module of everything else. -/
def otherModule : String := "other"

/-- The module that the parts of a path point to. -/
def moduleOfParts (parts : List String) : String :=
  match parts.dropWhile (· ≠ componentsDirectory) with
  | _ :: next :: _ => next
  | [_] => otherModule
  | [] => if parts.contains viewsModule then viewsModule else otherModule

/-- The module that a path text points to. -/
def moduleOf (path : String) : String := moduleOfParts (Path.ofString path).parts

end ComponentCensus
