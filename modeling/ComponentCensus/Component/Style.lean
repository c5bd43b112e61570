import ComponentCensus.Component.Signal

/-!
# Authoring styles

The style of a component is decided by an ordered list of rules, of which the first that holds
wins: a template without a script, any composition signal, any options signal, a script in which
nothing was recognised.  A text for which no rule holds has no style.

* `styleOf?` — the style of a text.
* `Trace`, `traceOf` — the style together with everything that was found, for people who tune the
  signals.
-/

set_option autoImplicit false

namespace ComponentCensus

/-- The authoring style of a component. -/
inductive Style where
  | templateOnly
  | composition
  | options
  | unclassified
deriving Repr, DecidableEq, Inhabited

namespace Style

/-- The name of a style. -/
def name : Style → String
  | templateOnly => "template_only"
  | composition => "composition"
  | options => "options"
  | unclassified => "unclassified"

end Style

/-- Whether the text has a template and no script. -/
def isTemplateOnly (text : List Char) : Bool := hasTemplate text && !hasScript text

/-- Whether the text has a composition signal. -/
def hasCompositionSignal (text : List Char) : Bool := compositionSignals.any (·.firesIn text)

/-- Whether the text has an options signal. -/
def hasOptionsSignal (text : List Char) : Bool := optionsSignals.any (·.firesIn text)

/-- The rules that decide the style, in the order in which they are tried. -/
def styleRules : List ((List Char → Bool) × Style) :=
  [(isTemplateOnly, .templateOnly), (hasCompositionSignal, .composition),
    (hasOptionsSignal, .options), (hasScript, .unclassified)]

/-- The style of a text: that of the first rule that holds. -/
def styleOf? (text : List Char) : Option Style :=
  (styleRules.find? fun rule => rule.1 text).map Prod.snd

/-- What the rules see in a text. -/
structure Trace where
  /-- The style of the text. -/
  style : Option Style
  /-- Whether the text opens a template region. -/
  hasTemplate : Bool
  /-- Whether the text opens a script region. -/
  hasScript : Bool
  /-- The composition signals that are present. -/
  composition : List String
  /-- The options signals that are present. -/
  options : List String
deriving Repr, DecidableEq

/-- The style of a text and all signals in it, also those that did not matter for the style. -/
def traceOf (text : List Char) : Trace :=
  { style := styleOf? text
    hasTemplate := hasTemplate text
    hasScript := hasScript text
    composition := firing compositionSignals text
    options := firing optionsSignals text }

end ComponentCensus
