import ComponentCensus.Component.Signal

/-!
# The script of a component

The text between the first opening script tag that is closed somewhere after it and the nearest
closing tag.

* `scriptText` — that text without blanks around it; empty if there is no such region.
-/

set_option autoImplicit false

namespace ComponentCensus

/-- The closing tag of a script region. -/
def scriptEnd : Pattern := .of (mark '<' ++ mark '/' ++ anyCase "script" ++ mark '>')

/-- The inner text of a script region whose opening tag is at the front of the text. -/
def regionAt? (text : List Char) : Option (List Char) :=
  (scriptTag.restsAt none text).findSome? fun inner => scriptEnd.textBefore? none inner

/-- The inner text of the first script region. -/
def firstRegion? : List Char → Option (List Char)
  | [] => none
  | c :: text => (regionAt? (c :: text)).or (firstRegion? text)

/-- The inner text of the first script region, without blanks around it. -/
def scriptText (text : List Char) : List Char :=
  ((firstRegion? text).map Text.trim).getD []

end ComponentCensus
