import ComponentCensus.Path
import ComponentCensus.Settings.Value

/-!
# What can go wrong

* `Requirement` — what a setting has to satisfy.
* `FieldFault` — settings that do not even have the right shape.
* `Failure` — the failures that the program reports to its user, each with its cause.
  `Failure.message` is the message, `Failure.details` its named details, and `Failure.text` both
  in one line.
-/

set_option autoImplicit false

namespace ComponentCensus
namespace Settings

/-- What a setting has to satisfy. -/
inductive Requirement where
  | isText
  | isNotEmpty
  | startsWithDot
  | isVerbosity
  | isInteger
  | isNotNegative
  /-- The boundary of the medium tier is at most that of the high tier. -/
  | isAtMostHigh (high : Nat)
  | isTable
  /-- The text is one of the words for true and false. -/
  | isBooleanWord (given : String)
  /-- Anything else, in words. -/
  | other (reason : String)
deriving Repr, DecidableEq, Inhabited

/-- A requirement in words. -/
def Requirement.text : Requirement → String
  | isText => "must be a string"
  | isNotEmpty => "must not be empty"
  | startsWithDot => "must start with '.'"
  | isVerbosity => "expected quiet, normal or verbose"
  | isInteger => "must be an integer"
  | isNotNegative => "must be non-negative"
  | isAtMostHigh high => "must not exceed high_threshold (" ++ toString high ++ ")"
  | isTable => "expected a table"
  | isBooleanWord given => "expected true/false, got '" ++ given ++ "'"
  | other reason => reason

/-- Settings that do not have the right shape. -/
inductive FieldFault where
  /-- A record has no field of that name. -/
  | unknownField (record name : String)
  /-- The name is that of the record itself. -/
  | repeatedField (record name : String)
  /-- A value of this kind cannot be gone through. -/
  | notIterable (kind : String)
  /-- A value of this kind cannot be a member of a set. -/
  | notHashable (kind : String)
deriving Repr, DecidableEq, Inhabited

/-- A fault in words. -/
def FieldFault.message : FieldFault → String
  | unknownField record name =>
    record ++ ".__init__() got an unexpected keyword argument '" ++ name ++ "'"
  | repeatedField record name =>
    record ++ ".__init__() got multiple values for argument '" ++ name ++ "'"
  | notIterable kind => "'" ++ kind ++ "' object is not iterable"
  | notHashable kind => "unhashable type: '" ++ kind ++ "'"

/-- Why settings are rejected. -/
inductive Rejection where
  /-- They do not have the right shape. -/
  | shape (fault : FieldFault)
  /-- A value does not satisfy a requirement. -/
  | value (key : String) (value : Value) (requirement : Requirement)
deriving Repr, Inhabited

/-- The first name that is not one of the known fields of a record. -/
def checkNames (record : String) (known : List String) (names : List String) :
    Except Rejection Unit :=
  match names.find? fun name => !known.contains name with
  | none => .ok ()
  | some "self" => .error (.shape (.repeatedField record "self"))
  | some name => .error (.shape (.unknownField record name))

end Settings

open Settings

/-- The families of failures, each with the wider family that it belongs to. -/
inductive FailureKind where
  | general
  | analysis
  | configuration
  | fileAccess
  | rootInaccessible
  | invalidSetting
deriving Repr, DecidableEq, Inhabited

/-- The wider family that a family belongs to. -/
def FailureKind.parent? : FailureKind → Option FailureKind
  | general => none
  | analysis => some general
  | configuration => some general
  | fileAccess => some analysis
  | rootInaccessible => some analysis
  | invalidSetting => some configuration

/-- A failure that is reported to the user. -/
inductive Failure where
  /-- A failure in words, of one of the wide families. -/
  | general (kind : FailureKind) (message : String) (details : List (String × String))
  /-- A component file cannot be read. -/
  | fileAccess (path : Path) (reason : String)
  /-- The root of a scan cannot be listed. -/
  | rootInaccessible (path : Path) (reason : String)
  /-- A setting does not satisfy a requirement. -/
  | invalidSetting (key : String) (value : Value) (requirement : Requirement)
  /-- The configuration file that was asked for does not exist. -/
  | configMissing (path : Path)
  /-- The configuration file of the project cannot be used. -/
  | projectUnusable (path : Path) (detail : String)
  /-- The configuration file that was asked for cannot be used. -/
  | configUnusable (path : Path) (detail : String)
  /-- The scoring table does not have the right shape. -/
  | badScoring (fault : FieldFault)
  /-- The settings do not have the right shape. -/
  | badSettings (fault : FieldFault)
deriving Repr, Inhabited

namespace Failure

/-- The family of a failure. -/
def kind : Failure → FailureKind
  | general kind _ _ => kind
  | fileAccess _ _ => .fileAccess
  | rootInaccessible _ _ => .rootInaccessible
  | invalidSetting _ _ _ => .invalidSetting
  | _ => .general

/-- The message of a failure. -/
def message : Failure → String
  | general _ message _ => message
  | fileAccess path _ => "Cannot access file: " ++ path.text
  | rootInaccessible path _ => "Cannot list scan root: " ++ path.text
  | invalidSetting key value _ => "Invalid configuration for " ++ key ++ ": " ++ value.message
  | configMissing path => "Config file not found: " ++ path.text
  | projectUnusable path detail => "Invalid project config '" ++ path.text ++ "': " ++ detail
  | configUnusable path detail => "Invalid config file '" ++ path.text ++ "': " ++ detail
  | badScoring fault => "Invalid [scoring] config: " ++ fault.message
  | badSettings fault => "Invalid configuration: " ++ fault.message

/-- The named details of a failure. -/
def details : Failure → List (String × String)
  | general _ _ details => details
  | fileAccess path reason => [("filepath", path.text), ("reason", reason)]
  | rootInaccessible path reason => [("path", path.text), ("reason", reason)]
  | invalidSetting key value requirement =>
    [("key", key), ("value", value.message), ("reason", requirement.text)]
  | _ => []

/-- The message of a failure with its details. -/
def text (f : Failure) : String :=
  match f.details with
  | [] => f.message
  | details =>
    f.message ++ " (" ++ String.intercalate ", " (details.map fun d => d.1 ++ "=" ++ d.2) ++ ")"

/-- The failure that a rejection of the settings as a whole leads to. -/
def ofRejection : Rejection → Failure
  | .shape fault => badSettings fault
  | .value key value requirement => invalidSetting key value requirement

/-- The failure that a rejection of the scoring table leads to. -/
def ofScoringRejection : Rejection → Failure
  | .shape fault => badScoring fault
  | .value key value requirement => invalidSetting key value requirement

end Failure
end ComponentCensus
