import ComponentCensus.Text.Quoted

/-!
# JSON texts

The values of reports and their text: printable ASCII, two blanks of indentation for each level, the
members of an object in their order.

* `Json` — the values that a report is made of.
* `Json.escape` — the characters of a text as they are written between double quotes.  What ASCII
  cannot show is written in units of sixteen bits, so a character above U+FFFF takes two escapes.
* `Json.render` — the text of a value.
-/

set_option autoImplicit false

namespace ComponentCensus

/-- A JSON value of a report. -/
inductive Json where
  | null
  | bool (b : Bool)
  | int (n : Int)
  | text (s : String)
  | list (vs : List Json)
  | object (members : List (String × Json))
deriving Repr, Inhabited

namespace Json

/-- The escape of a unit of sixteen bits. -/
def unitEscape (n : Nat) : List Char := '\\' :: 'u' :: Text.hexDigits 4 n

/-- A character as it is written between double quotes. -/
def escapeChar (c : Char) : List Char :=
  if c = '"' then ['\\', '"']
  else if c = '\\' then ['\\', '\\']
  else if c = '\n' then ['\\', 'n']
  else if c = '\r' then ['\\', 'r']
  else if c = '\t' then ['\\', 't']
  else if c = '\x0c' then ['\\', 'f']
  else if c = '\x08' then ['\\', 'b']
  else
    let n := c.toNat
    if 32 ≤ n && n < 127 then [c]
    else if n < 0x10000 then unitEscape n
    else unitEscape (0xD800 + (n - 0x10000) / 0x400) ++ unitEscape (0xDC00 + (n - 0x10000) % 0x400)

/-- The characters of a text as they are written between double quotes. -/
def escape (s : List Char) : List Char := s.flatMap escapeChar

/-- A text between double quotes. -/
def quote (s : String) : List Char := '"' :: escape s.toList ++ ['"']

/-- A new line, indented for the given level. -/
def newLine (level : Nat) : List Char := '\n' :: List.replicate (2 * level) ' '

/-- Written items between commas, each on a line of its own. -/
def itemLines (level : Nat) : List (List Char) → List Char
  | [] => []
  | [item] => newLine level ++ item
  | item :: items => newLine level ++ item ++ ',' :: itemLines level items

/-- Written items in brackets; the brackets of no items are put together. -/
def bracketed (level : Nat) (opening closing : Char) (items : List (List Char)) : List Char :=
  if items.isEmpty then [opening, closing]
  else opening :: itemLines (level + 1) items ++ newLine level ++ [closing]

mutual

/-- The text of a value on the given level of indentation. -/
def renderAt (level : Nat) : Json → List Char
  | null => "null".toList
  | bool b => (if b then "true" else "false").toList
  | int n => (toString n).toList
  | text s => quote s
  | list vs => bracketed level '[' ']' (renderItems (level + 1) vs)
  | object members => bracketed level '{' '}' (renderMembers (level + 1) members)

/-- The texts of the members of a list. -/
def renderItems (level : Nat) : List Json → List (List Char)
  | [] => []
  | v :: vs => renderAt level v :: renderItems level vs

/-- The texts of the members of an object. -/
def renderMembers (level : Nat) : List (String × Json) → List (List Char)
  | [] => []
  | (k, v) :: members =>
    (quote k ++ ':' :: ' ' :: renderAt level v) :: renderMembers level members

end

/-- The text of a value. -/
def render (v : Json) : String := String.ofList (renderAt 0 v)

end Json
end ComponentCensus
