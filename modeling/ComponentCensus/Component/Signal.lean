import ComponentCensus.Pattern.Search

/-!
# Signals

A signal is a named pattern in the text of a component that hints at its authoring style.

* `Signal.firesIn` — the pattern occurs, and the pattern that would veto it does not.
* `compositionSignals`, `optionsSignals` — the two families of signals, in the order in which they
  are reported.
* `hasTemplate`, `hasScript` — whether the text opens a template or a script region.

All of these are looked for without regard to case, except for the veto of the signal
`computed_call`: only the options form as it is usually written suppresses it.
-/

set_option autoImplicit false

namespace ComponentCensus

/-- A named pattern. -/
structure Signal where
  /-- The name under which the signal is reported. -/
  name : String
  /-- What the signal looks like. -/
  pattern : Pattern
  /-- What must not be in the text for the signal to count. -/
  veto : Option Pattern := none
deriving Repr, DecidableEq

namespace Signal

/-- Whether the signal is present in a text. -/
def firesIn (s : Signal) (text : List Char) : Bool :=
  s.pattern.occursIn text && !s.veto.any fun v => v.occursIn text

end Signal

/-- The names of the signals of a family that are present in a text. -/
def firing (family : List Signal) (text : List Char) : List String :=
  (family.filter fun s => s.firesIn text).map Signal.name

/-! ## The shapes that signals share -/

/-- An entry of an options object whose value opens with the given bracket: `name: {`. -/
def entryPieces (name : List Piece) (bracket : Char) : List Piece :=
  name ++ gap ++ mark ':' ++ gap ++ mark bracket

/-- A method without parameters: `name() {`. -/
def methodPieces (name : List Piece) : List Piece :=
  name ++ gap ++ mark '(' ++ gap ++ mark ')' ++ gap ++ mark '{'

/-- An entry of an options object, its name in any case. -/
def entry (name : String) (bracket : Char) : Pattern := .of (entryPieces (anyCase name) bracket)

/-- An entry of an options object, its name as written. -/
def writtenEntry (name : String) (bracket : Char) : Pattern :=
  .of (entryPieces (asWritten name) bracket)

/-- A method without parameters, its name in any case. -/
def method (name : String) : Pattern := .of (methodPieces (anyCase name))

/-- A call of a function: its name as a word of its own, and an opening parenthesis. -/
def call (name : String) : Pattern := .ofWord (anyCase name ++ gap ++ mark '(')

/-- A call that may have type arguments in front of its parenthesis. -/
def typedCall (name : String) : Pattern :=
  .ofWord (anyCase name ++ gap ++ [.one (.among ['<', '('])])

/-! ## Regions -/

/-- The pieces of an opening tag. -/
def tagPieces (name : String) : List Piece := mark '<' ++ anyCase name ++ upToMark '>' ++ mark '>'

/-- The opening tag of a template region. -/
def templateTag : Pattern := .of (tagPieces "template")

/-- The opening tag of a script region. -/
def scriptTag : Pattern := .of (tagPieces "script")

/-- Whether the text opens a template region. -/
def hasTemplate (text : List Char) : Bool := templateTag.occursIn text

/-- Whether the text opens a script region. -/
def hasScript (text : List Char) : Bool := scriptTag.occursIn text

/-! ## The composition signals -/

/-- A script tag whose only attribute is `setup`. -/
def setupTag : Pattern :=
  .of (mark '<' ++ anyCase "script" ++ space ++ anyCase "setup" ++ gap ++ mark '>')

/-- A script tag with a language in double quotes and `setup` after it. -/
def languageSetupTag : Pattern :=
  .of (mark '<' ++ anyCase "script" ++ space ++ anyCase "lang" ++ mark '=' ++ mark '"' ++
    [.one (.except '"')] ++ upToMark '"' ++ mark '"' ++ space ++ anyCase "setup" ++ gap ++
    mark '>')

/-- A function named `setup` with its parameters and the start of its body. -/
def setupFunction : Pattern :=
  .ofWord (anyCase "setup" ++ gap ++ mark '(' ++ upToMark ')' ++ mark ')' ++ gap ++ mark '{')

/-- The block of computed entries of an options object, its name as written. -/
def computedOption : Pattern := writtenEntry "computed" '{'

/-- The signals of the composition style. -/
def compositionSignals : List Signal :=
  [{ name := "script_setup", pattern := setupTag },
    { name := "script_lang_setup", pattern := languageSetupTag },
    { name := "define_component", pattern := call "defineComponent" },
    { name := "setup_function", pattern := setupFunction },
    { name := "ref", pattern := call "ref" },
    { name := "reactive", pattern := call "reactive" },
    { name := "to_ref", pattern := call "toRef" },
    { name := "computed_call", pattern := call "computed", veto := some computedOption },
    { name := "define_props", pattern := typedCall "defineProps" },
    { name := "define_emits", pattern := typedCall "defineEmits" },
    { name := "with_defaults", pattern := call "withDefaults" }]

/-! ## The options signals -/

/-- A data entry whose value is a function, perhaps in a parenthesis. -/
def dataFunction : Pattern :=
  .of (anyCase "data" ++ gap ++ mark ':' ++ gap ++ [.maybe (.exactly '(')] ++
    methodPieces (anyCase "function"))

/-- An entry that gives the component a name between quotes. -/
def nameEntry : Pattern :=
  .of (anyCase "name" ++ gap ++ mark ':' ++ gap ++ [.one (.among ['\'', '"'])])

/-- An exported object literal. -/
def exportedObject : Pattern :=
  .of (anyCase "export" ++ space ++ anyCase "default" ++ gap ++ mark '{')

/-- The signals of the options style.  The last one catches every exported object literal. -/
def optionsSignals : List Signal :=
  [{ name := "data_method", pattern := method "data" },
    { name := "data_function", pattern := dataFunction },
    { name := "data_object", pattern := entry "data" '{' },
    { name := "methods", pattern := entry "methods" '{' },
    { name := "computed", pattern := entry "computed" '{' },
    { name := "watch", pattern := entry "watch" '{' },
    { name := "props_object", pattern := entry "props" '{' },
    { name := "props_array", pattern := entry "props" '[' },
    { name := "components", pattern := entry "components" '{' },
    { name := "filters", pattern := entry "filters" '{' },
    { name := "mixins", pattern := entry "mixins" '[' },
    { name := "created", pattern := method "created" },
    { name := "mounted", pattern := method "mounted" },
    { name := "before_mount", pattern := method "beforeMount" },
    { name := "before_create", pattern := method "beforeCreate" },
    { name := "name_field", pattern := nameEntry },
    { name := "export_default_object", pattern := exportedObject }]

end ComponentCensus
