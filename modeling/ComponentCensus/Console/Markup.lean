import ComponentCensus.Console.Emoji
import ComponentCensus.Console.Handler
import ComponentCensus.Console.Layout
import ComponentCensus.Console.StyleName

/-!
# Markup

The console takes texts with tags in square brackets that switch styles on and off.  Styles are
not part of what is printed, so rendering takes the tags out; what matters is which brackets are
tags, and that every closing tag has something to close.

* `tagAt?` — the tag at the front of a text, with the backslashes before it.
* `render` — the text without its tags, with emoji for the codes in it.  A tag behind an odd number
  of backslashes is no tag, and every pair of backslashes before a bracket stands for one.
* `escape` — a text written so that none of its brackets is a tag.
* `MarkupFault` — a closing tag that closes nothing, a handler whose parameters are no literal, or a
  style with a number that is none.  Every style is looked at twice: by its name where a tag stands,
  and with the parameters of its tag where the text is shown.

Texts are lists of scalar values; a name on disk that is no such text has none here.  The table of
emoji is a parameter, and what the styles look like on the screen is left out.
-/

set_option autoImplicit false

namespace ComponentCensus
namespace Console

/-- What can be wrong with markup. -/
inductive MarkupFault where
  /-- A closing tag names a style that is not open. -/
  | notOpen (tag : String) (position : Nat)
  /-- A closing tag without a name, where no style is open. -/
  | nothingToClose (position : Nat)
  /-- A number in the name of a style is none. -/
  | number (fault : NumberFault)
  /-- The parameters of a handler are no literal. -/
  | handler (fault : HandlerFault)
deriving Repr, DecidableEq, Inhabited

/-- What is wrong, in words. -/
def MarkupFault.message : MarkupFault → String
  | notOpen tag position =>
    "closing tag '" ++ tag ++ "' at position " ++ toString position ++ " doesn't match any open tag"
  | nothingToClose position =>
    "closing tag '[/]' at position " ++ toString position ++ " has nothing to close"
  | number fault => fault.message
  | handler fault => fault.message

/-- Whether a tag may begin with the character. -/
def startsTag (c : Char) : Bool := ('a' ≤ c && c ≤ 'z') || c = '#' || c = '/' || c = '@'

/-- A tag with the backslashes before it. -/
structure TagText where
  /-- The number of backslashes. -/
  backslashes : Nat
  /-- What stands between the brackets. -/
  inner : List Char
deriving Repr, DecidableEq

namespace TagText

/-- The tag with its brackets. -/
def bracketed (t : TagText) : List Char := '[' :: t.inner ++ [']']

/-- The number of characters that the tag takes with its backslashes. -/
def length (t : TagText) : Nat := t.backslashes + t.inner.length + 2

end TagText

/-- What stands in a bracket up to its end, provided that no bracket opens in it. -/
def innerOf? : List Char → Option (List Char)
  | [] => none
  | c :: s => if c = ']' then some [] else if c = '[' then none else (innerOf? s).map (c :: ·)

/-- The tag at the front of a text. -/
def tagAt? : List Char → Option TagText
  | '\\' :: s => (tagAt? s).map fun t => { t with backslashes := t.backslashes + 1 }
  | '[' :: c :: s =>
    if startsTag c then (innerOf? s).map fun inner => { backslashes := 0, inner := c :: inner }
    else none
  | _ => none

/-! ## Rendering -/

/-- A piece of a marked-up text. -/
inductive MarkupPiece where
  /-- Text between tags. -/
  | plain (text : List Char)
  /-- What stands in the brackets of a tag at a position. -/
  | tag (position : Nat) (inner : List Char)
deriving Repr, DecidableEq

/-- The piece with emoji for the codes in it.  No code goes from one piece to the next. -/
def MarkupPiece.withEmoji (emoji : EmojiTable) : MarkupPiece → MarkupPiece
  | plain text => .plain (emoji.replace text)
  | tag position inner => .tag position inner

/-- Text between tags, where a backslash before an opening bracket is not shown. -/
def plainText : List Char → List Char
  | '\\' :: '[' :: s => '[' :: plainText s
  | c :: s => c :: plainText s
  | [] => []

/-- What a tag with its backslashes stands for, at the position of the first of them. -/
def TagText.pieces (t : TagText) (position : Nat) : List MarkupPiece :=
  .plain (List.replicate (t.backslashes / 2) '\\') ::
    if t.backslashes % 2 = 1 then [.plain t.bracketed]
    else [.tag (position + t.backslashes) t.inner]

/-- The pieces of a text from a position on, after `skip` characters that belong to a tag found
before; `held` holds the text before the position that belongs to no tag, last character first. -/
def piecesFrom (position skip : Nat) (held : List Char) : List Char → List MarkupPiece
  | [] => [.plain (plainText held.reverse)]
  | c :: s =>
    match skip with
    | skip + 1 => piecesFrom (position + 1) skip held s
    | 0 =>
      match tagAt? (c :: s) with
      | none => piecesFrom (position + 1) 0 (c :: held) s
      | some t =>
        .plain (plainText held.reverse) ::
          (t.pieces position ++ piecesFrom (position + 1) (t.length - 1) [] s)

/-- What stands between the brackets of a tag in two parts: the name of a style, and what follows
the first `=` if there is one. -/
def nameAndParameters (inner : List Char) : List Char × Option (List Char) :=
  (inner.takeWhile (· ≠ '='), (inner.dropWhile (· ≠ '=')).tail?)

/-- A tag that is open. -/
structure OpenTag where
  /-- The representative of the name of its style. -/
  name : List Char
  /-- What follows the name. -/
  parameters : Option (List Char)
  /-- The number of characters in front of it. -/
  start : Nat
deriving Repr, DecidableEq

/-- A stretch of the text with the style that it is shown in. -/
structure Span where
  start : Nat
  stop : Nat
  /-- What the style lists. -/
  style : List Char
deriving Repr, DecidableEq

/-- The stretch from an open tag to the place where it is closed. -/
def OpenTag.spanTo (t : OpenTag) (stop : Nat) : Span :=
  { start := t.start, stop, style := t.name ++ (t.parameters.map (' ' :: ·)).getD [] }

/-- What is wrong with the parameters of an open tag, which are looked at when it is closed. -/
def OpenTag.handlerFault? (t : OpenTag) : Option HandlerFault :=
  if t.name.head? = some '@' then t.parameters.bind Console.handlerFault? else none

/-- The tags that are open when a tag is closed, and that tag. -/
def closed (opened : List OpenTag) (t : OpenTag) :
    Except MarkupFault (List OpenTag × Option OpenTag) :=
  match t.handlerFault? with
  | some fault => .error (.handler fault)
  | none => .ok (opened, some t)

/-- The open tags after a tag that stands behind `start` characters, and the tag that it closes if
it closes one. -/
def afterTag (opened : List OpenTag) (start position : Nat) (inner : List Char) :
    Except MarkupFault (List OpenTag × Option OpenTag) :=
  match nameAndParameters inner with
  | ('/' :: name, _) =>
    if Text.trim name = [] then
      match opened with
      | [] => .error (.nothingToClose position)
      | t :: opened => closed opened t
    else
      match canonical (Text.trim name) with
      | .error fault => .error (.number fault)
      | .ok style =>
        match opened.find? (·.name == style) with
        | some t => closed (opened.eraseP (·.name == style)) t
        | none => .error (.notOpen (String.ofList ('[' :: inner ++ [']'])) position)
  | (name, parameters) =>
    match canonical name with
    | .error fault => .error (.number fault)
    | .ok name => .ok ({ name, parameters, start } :: opened, none)

/-- A text without its tags. -/
structure Rendered where
  text : List Char
  /-- The stretches with a style, in the order in which they end. -/
  spans : List Span
deriving Repr, DecidableEq

/-- What some pieces are rendered as, given the tags that are open before them and the number of
characters in front of them. -/
def renderPieces (opened : List OpenTag) (start : Nat) :
    List MarkupPiece → Except MarkupFault Rendered
  | [] => .ok { text := [], spans := opened.map (·.spanTo start) }
  | .plain text :: pieces =>
    (renderPieces opened (start + text.length) pieces).map fun r =>
      { r with text := text ++ r.text }
  | .tag position inner :: pieces =>
    match afterTag opened start position inner with
    | .error fault => .error fault
    | .ok (opened, closed) =>
      (renderPieces opened start pieces).map fun r =>
        { r with spans := (closed.map (·.spanTo start)).toList ++ r.spans }

/-- Whether a stretch of a text is shown.  Of a text of several lines, and of a text with tabs, only
those stretches are that hold a character other than a line end. -/
def Span.isShown (s : Span) (text : List Char) : Bool :=
  let lines := withoutControls text
  !(lines.contains '\n' || lines.contains '\t') ||
    (withoutControls ((text.take s.stop).drop s.start)).any (· ≠ '\n')

/-- The first fault in the numbers of the styles of a text. -/
def Rendered.numberFault? (r : Rendered) : Option NumberFault :=
  let spans := r.spans.reverse.mergeSort fun a b => decide (a.start ≤ b.start)
  (spans.filter (·.isShown r.text)).findSome? fun s =>
    match StyleParts.ofText s.style with
    | .error (.number fault) => some fault
    | _ => none

/-- The text without its tags and with emoji for its codes, provided that its styles can be shown.
In a text without an opening bracket only codes are looked for. -/
def render (emoji : EmojiTable) (markup : List Char) : Except MarkupFault (List Char) :=
  if markup.contains '[' then
    match renderPieces [] 0 ((piecesFrom 0 0 [] markup).map (·.withEmoji emoji)) with
    | .error fault => .error fault
    | .ok r =>
      match r.numberFault? with
      | some fault => .error (.number fault)
      | none => .ok r.text
  else .ok (emoji.replace markup)

/-! ## Escaping -/

/-- A tag written so that it is shown: its backslashes twice, and one more. -/
def TagText.escaped (t : TagText) : List Char :=
  List.replicate (2 * t.backslashes + 1) '\\' ++ t.bracketed

/-- A text with all its tags escaped, after `skip` characters that belong to a tag found before. -/
def escapeTags (skip : Nat) : List Char → List Char
  | [] => []
  | c :: s =>
    match skip with
    | skip + 1 => escapeTags skip s
    | 0 =>
      match tagAt? (c :: s) with
      | none => c :: escapeTags 0 s
      | some t => t.escaped ++ escapeTags (t.length - 1) s

/-- Whether a text ends in exactly one backslash. -/
def endsInOneBackslash (s : List Char) : Bool :=
  match s.reverse with
  | '\\' :: '\\' :: _ => false
  | '\\' :: _ => true
  | _ => false

/-- A text written so that none of its brackets is a tag, whatever follows it. -/
def escape (s : List Char) : List Char :=
  let escaped := escapeTags 0 s
  if endsInOneBackslash escaped then escaped ++ ['\\'] else escaped

end Console
end ComponentCensus
