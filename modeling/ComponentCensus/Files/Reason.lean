import ComponentCensus.Path
import ComponentCensus.Text.Quoted

/-!
# Why a file cannot be used

* `Reason` — the causes for which a path cannot be looked at, listed or read.
* `Reason.text` — a cause in words.
* `Reason.ofNumber?` — the cause that a system number stands for.
* `Reason.isAbsence` — the causes that mean that there is nothing at the path.
-/

set_option autoImplicit false

namespace ComponentCensus

/-- Why a path cannot be looked at, listed or read. -/
inductive Reason where
  | noEntry
  | notDirectory
  | isDirectory
  | tooManyLinks
  | nameTooLong
  | noPermission
  /-- Any other cause, in words. -/
  | other (text : String)
deriving Repr, DecidableEq, Inhabited

namespace Reason

/-- A cause in words. -/
def text : Reason → String
  | noEntry => "No such file or directory"
  | notDirectory => "Not a directory"
  | isDirectory => "Is a directory"
  | tooManyLinks => "Too many levels of symbolic links"
  | nameTooLong => "File name too long"
  | noPermission => "Permission denied"
  | other text => text

/-- The number of a cause, if it has one. -/
def number? : Reason → Option Nat
  | noEntry => some 2
  | notDirectory => some 20
  | isDirectory => some 21
  | tooManyLinks => some 40
  | nameTooLong => some 36
  | noPermission => some 13
  | other _ => none

/-- The causes that have a number. -/
def numbered : List Reason :=
  [noEntry, noPermission, notDirectory, isDirectory, nameTooLong, tooManyLinks]

/-- The cause of a number. -/
def ofNumber? (n : Nat) : Option Reason := numbered.find? fun r => r.number? = some n

/-- Whether a cause means that there is nothing at the path. -/
def isAbsence : Reason → Bool
  | noEntry => true
  | notDirectory => true
  | tooManyLinks => true
  | _ => false

/-- A cause that nobody handles, with the path that it concerns. -/
def report (r : Reason) (path : Path) : String :=
  match r.number? with
  | none => r.text
  | some n => "[Errno " ++ toString n ++ "] " ++ r.text ++ ": " ++ Text.quoted path.text

end Reason
end ComponentCensus
