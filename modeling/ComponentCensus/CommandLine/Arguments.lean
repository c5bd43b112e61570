/-!
# Arguments

The command line scans a tree, or explains one component with the command `explain`.  Options
stand in front of the command.

* `Command`, `parse?` — what the arguments ask for; `none` if they make no sense.

Long options take their value after `=` or as the next argument, whatever that looks like.  Short
options may be put together, and the value of one may follow it directly.  Two hyphens end the
options.  Of an option that is given twice the last one counts.
-/

set_option autoImplicit false

namespace ComponentCensus
namespace CommandLine

/-- The options of a scan. -/
structure Options where
  /-- The root of the scan. -/
  folder : Option String := none
  /-- Further directories to skip, between commas. -/
  blacklist : Option String := none
  /-- Whether components are scored. -/
  complexity : Bool := false
  /-- Whether the report is for machines. -/
  json : Bool := false
  /-- Whether everything is logged. -/
  verbose : Bool := false
  /-- Whether only errors are logged. -/
  quiet : Bool := false
  /-- A configuration file. -/
  config : Option String := none
  /-- Whether the version is asked for. -/
  version : Bool := false
  /-- Whether help is asked for. -/
  help : Bool := false
deriving Repr, DecidableEq, Inhabited

/-- What the arguments ask for. -/
inductive Command where
  | help
  /-- A scan, or the version if it is asked for. -/
  | scan (options : Options)
  /-- The explanation of a file; of the options only the paths are looked at. -/
  | explain (options : Options) (file : String)
  /-- Help on the explanation of a file. -/
  | explainHelp (options : Options)
deriving Repr, DecidableEq, Inhabited

/-- What an option does. -/
inductive OptionKind where
  | flag (set : Options → Options)
  | valued (set : String → Options → Options)

/-- The options with a long name. -/
def longOptions : List (String × OptionKind) :=
  [("--folder", .valued fun v o => { o with folder := some v }),
    ("--blacklist", .valued fun v o => { o with blacklist := some v }),
    ("--complexity", .flag fun o => { o with complexity := true }),
    ("--json", .flag fun o => { o with json := true }),
    ("--verbose", .flag fun o => { o with verbose := true }),
    ("--quiet", .flag fun o => { o with quiet := true }),
    ("--config", .valued fun v o => { o with config := some v }),
    ("--version", .flag fun o => { o with version := true }),
    ("--help", .flag fun o => { o with help := true })]

/-- The options with a short name. -/
def shortOptions : List (Char × OptionKind) :=
  [('v', .flag fun o => { o with verbose := true }),
    ('q', .flag fun o => { o with quiet := true }),
    ('c', .valued fun v o => { o with config := some v })]

/-- A long option in two parts: its name, and the value after the first `=` if there is one. -/
def splitValue (arg : String) : String × Option String :=
  let cs := arg.toList
  match cs.dropWhile (· ≠ '=') with
  | [] => (arg, none)
  | _ :: value => (String.ofList (cs.takeWhile (· ≠ '=')), some (String.ofList value))

/-- Whether an argument is one or more options. -/
def isOption (arg : String) : Bool :=
  match arg.toList with
  | '-' :: _ :: _ => true
  | _ => false

/-- Whether an argument can only be a long option. -/
def isLong (arg : String) : Bool :=
  match arg.toList with
  | '-' :: '-' :: _ => true
  | _ => false

/-- The options after short options put together, and the arguments that are left; the value of
the last of them may be the next argument. -/
def readShort (o : Options) (rest : List String) : List Char → Option (Options × List String)
  | [] => some (o, rest)
  | c :: cs =>
    match shortOptions.lookup c with
    | none => none
    | some (.flag set) => readShort (set o) rest cs
    | some (.valued set) =>
      match cs, rest with
      | [], [] => none
      | [], v :: rest => some (set v o, rest)
      | cs, rest => some (set (String.ofList cs) o, rest)

/-- The options after one argument that is an option, and the arguments that are left. -/
def readOption (o : Options) (arg : String) (rest : List String) :
    Option (Options × List String) :=
  let (name, value) := splitValue arg
  match longOptions.lookup name with
  | some (.flag set) => if value.isSome then none else some (set o, rest)
  | some (.valued set) =>
    match value, rest with
    | some v, rest => some (set v o, rest)
    | none, v :: rest => some (set v o, rest)
    | none, [] => none
  | none => if isLong arg then none else readShort o rest (arg.toList.drop 1)

/-- The options at the front of some arguments, and the arguments after them. -/
def readOptions : (fuel : Nat) → Options → List String → Option (Options × List String)
  | 0, _, _ => none
  | _ + 1, o, [] => some (o, [])
  | fuel + 1, o, arg :: rest =>
    if arg = "--" then some (o, rest)
    else if isOption arg then
      match readOption o arg rest with
      | none => none
      | some (o, rest) => readOptions fuel o rest
    else some (o, arg :: rest)

/-- The arguments of a command that takes files only, and whether help is asked for. -/
def readFiles : List String → Option (List String × Bool)
  | [] => some ([], false)
  | arg :: rest =>
    if arg = "--" then some (rest, false)
    else if arg = "--help" then (readFiles rest).map fun r => (r.1, true)
    else if isOption arg then none
    else (readFiles rest).map fun r => (arg :: r.1, r.2)

/-- What some arguments ask for. -/
def parse? (args : List String) : Option Command :=
  match readOptions (args.length + 1) {} args with
  | none => none
  | some (o, rest) =>
    if o.help then some .help
    else
      match rest with
      | [] => some (.scan o)
      | command :: rest =>
        if command = "explain" then
          match readFiles rest with
          | some (_, true) => some (.explainHelp o)
          | some ([file], false) => some (.explain o file)
          | _ => none
        else none

end CommandLine
end ComponentCensus
