import ComponentCensus.Text.Blank
import ComponentCensus.Text.SmallLetter

/-!
# Emoji codes

A code is a word between two colons, with no blank and no colon in it.  Where the word is the name
of an emoji, the console shows the emoji and not the code; a name that ends in `-emoji` or `-text`
asks for a variant of the emoji.  Which names there are depends on the console, so the table of
names is a parameter of whatever is printed.

* `EmojiTable` — the emoji of a console by their names.
* `codeAt?` — the word of the code at the front of a text.
* `EmojiTable.replace` — a text with emoji for its codes.  Codes are looked for from the left, and a
  code that names no emoji is left as it is.
-/

set_option autoImplicit false

namespace ComponentCensus
namespace Console

open Text

/-- The emoji of a console by their names. -/
structure EmojiTable where
  /-- The emoji of a name in small letters. -/
  find? : List Char → Option (List Char)
  /-- No name has a backslash in it. -/
  name_plain : ∀ {name emoji}, find? name = some emoji → '\\' ∉ name
  /-- No emoji has a colon, an opening bracket or a backslash in it. -/
  emoji_plain : ∀ {name emoji}, find? name = some emoji →
    ∀ c ∈ emoji, c ≠ ':' ∧ c ≠ '[' ∧ c ≠ '\\'

namespace EmojiTable

/-- The table of a console that has no emoji. -/
def empty : EmojiTable := { find? := fun _ => none, name_plain := nofun, emoji_plain := nofun }

instance : Inhabited EmojiTable := ⟨empty⟩

end EmojiTable

/-! ## Codes -/

/-- The characters up to the next colon, provided that none of them is a blank. -/
def wordOf? : List Char → Option (List Char)
  | [] => none
  | c :: s =>
    if c = ':' then some [] else if isBlank c then none else (wordOf? s).map (c :: ·)

/-- What stands between the colons of the code at the front of a text. -/
def codeAt? : List Char → Option (List Char)
  | ':' :: s => wordOf? s
  | _ => none

/-- A code with its colons. -/
def codeText (word : List Char) : List Char := ':' :: word ++ [':']

/-- The endings that ask for a variant, with the characters that select it. -/
def variants : List (List Char × Char) :=
  [("-emoji".toList, '\uFE0F'), ("-text".toList, '\uFE0E')]

/-- The word of a code in two parts: the name of an emoji, and the character that selects a variant
if the word asks for one. -/
def nameAndVariant (word : List Char) : List Char × List Char :=
  match variants.find? fun v => v.1.isSuffixOf word with
  | some v => (word.take (word.length - v.1.length), [v.2])
  | none => (word, [])

namespace EmojiTable

/-- The emoji that a code stands for, if there is one. -/
def ofWord? (t : EmojiTable) (word : List Char) : Option (List Char) :=
  let (name, variant) := nameAndVariant word
  (t.find? (lower name)).map (· ++ variant)

/-- What is shown for a code. -/
def shown (t : EmojiTable) (word : List Char) : List Char := (t.ofWord? word).getD (codeText word)

/-- A text with emoji for its codes, after `skip` characters that belong to a code found before. -/
def replaceFrom (t : EmojiTable) (skip : Nat) : List Char → List Char
  | [] => []
  | c :: s =>
    match skip with
    | skip + 1 => t.replaceFrom skip s
    | 0 =>
      match codeAt? (c :: s) with
      | none => c :: t.replaceFrom 0 s
      | some word => t.shown word ++ t.replaceFrom (word.length + 1) s

/-- A text with emoji for its codes. -/
def replace (t : EmojiTable) (s : List Char) : List Char := t.replaceFrom 0 s

end EmojiTable

end Console
end ComponentCensus
