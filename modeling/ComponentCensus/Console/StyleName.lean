import ComponentCensus.Text.Blank
import ComponentCensus.Text.Digit
import ComponentCensus.Text.SmallLetter

/-!
# Names of styles

A markup tag names a style.  Two names mean the same style if they list the same attributes and
colours, in whatever order and with whatever abbreviations; a name that lists anything else stands
for itself, blanks at its ends and the case of its letters aside.

* `StyleParts.ofText` — the attributes and colours that a name lists.
* `StyleFault` — why a name lists none; a share of a colour that is no number is a fault of its
  own, for which no name can stand.
* `canonical` — the representative of all names of a style.
-/

set_option autoImplicit false

namespace ComponentCensus
namespace Console

/-- The attributes of a style in the order in which they are listed, with their abbreviations. -/
def attributes : List (String × List String) :=
  [("bold", ["b"]), ("dim", ["d"]), ("italic", ["i"]), ("underline", ["u"]), ("blink", []),
    ("blink2", []), ("reverse", ["r"]), ("conceal", ["c"]), ("strike", ["s"]),
    ("underline2", ["uu"]), ("frame", []), ("encircle", []), ("overline", ["o"])]

/-- The attribute that a word means. -/
def attributeOf? (word : List Char) : Option String :=
  let word := String.ofList word
  (attributes.find? fun a => a.1 == word || a.2.contains word).map Prod.fst

/-- The colours that have a name, line by line. -/
def colourNames : List (List Char) :=
  ["default black red green yellow blue magenta cyan white bright_black bright_red bright_green",
    "bright_yellow bright_blue bright_magenta bright_cyan bright_white grey0 gray0 navy_blue",
    "dark_blue blue3 blue1 dark_green deep_sky_blue4 dodger_blue3 dodger_blue2 green4",
    "spring_green4 turquoise4 deep_sky_blue3 dodger_blue1 green3 spring_green3 dark_cyan",
    "light_sea_green deep_sky_blue2 deep_sky_blue1 spring_green2 cyan3 dark_turquoise",
    "turquoise2 green1 spring_green1 medium_spring_green cyan2 cyan1 dark_red deep_pink4",
    "purple4 purple3 blue_violet orange4 grey37 gray37 medium_purple4 slate_blue3 royal_blue1",
    "chartreuse4 dark_sea_green4 pale_turquoise4 steel_blue steel_blue3 cornflower_blue",
    "chartreuse3 cadet_blue sky_blue3 steel_blue1 pale_green3 sea_green3 aquamarine3",
    "medium_turquoise chartreuse2 sea_green2 sea_green1 aquamarine1 dark_slate_gray2",
    "dark_magenta dark_violet purple light_pink4 plum4 medium_purple3 slate_blue1 yellow4",
    "wheat4 grey53 gray53 light_slate_grey light_slate_gray medium_purple light_slate_blue",
    "dark_olive_green3 dark_sea_green light_sky_blue3 sky_blue2 dark_sea_green3",
    "dark_slate_gray3 sky_blue1 chartreuse1 light_green pale_green1 dark_slate_gray1 red3",
    "medium_violet_red magenta3 dark_orange3 indian_red hot_pink3 medium_orchid3",
    "medium_orchid medium_purple2 dark_goldenrod light_salmon3 rosy_brown grey63 gray63",
    "medium_purple1 gold3 dark_khaki navajo_white3 grey69 gray69 light_steel_blue3",
    "light_steel_blue yellow3 dark_sea_green2 light_cyan3 light_sky_blue1 green_yellow",
    "dark_olive_green2 dark_sea_green1 pale_turquoise1 deep_pink3 magenta2 hot_pink2 orchid",
    "medium_orchid1 orange3 light_pink3 pink3 plum3 violet light_goldenrod3 tan misty_rose3",
    "thistle3 plum2 khaki3 light_goldenrod2 light_yellow3 grey84 gray84 light_steel_blue1",
    "yellow2 dark_olive_green1 honeydew2 light_cyan1 red1 deep_pink2 deep_pink1 magenta1",
    "orange_red1 indian_red1 hot_pink dark_orange salmon1 light_coral pale_violet_red1 orchid2",
    "orchid1 orange1 sandy_brown light_salmon1 light_pink1 pink1 plum1 gold1 light_goldenrod1",
    "navajo_white1 misty_rose1 thistle1 yellow1 khaki1 wheat1 cornsilk1 grey100 gray100 grey3",
    "gray3 grey7 gray7 grey11 gray11 grey15 gray15 grey19 gray19 grey23 gray23 grey27 gray27",
    "grey30 gray30 grey35 gray35 grey39 gray39 grey42 gray42 grey46 gray46 grey50 gray50",
    "grey54 gray54 grey58 gray58 grey62 gray62 grey66 gray66 grey70 gray70 grey74 gray74",
    "grey78 gray78 grey82 gray82 grey85 gray85 grey89 gray89 grey93 gray93"].flatMap fun line =>
      Text.splitOn ' ' line.toList

/-- Why a row of digits is no number. -/
inductive NumberFault where
  /-- There is no digit. -/
  | noDigit
  /-- There are more digits than are read. -/
  | tooLong (digits : Nat)
deriving Repr, DecidableEq, Inhabited

/-- The most digits of a number that is read. -/
def numberDigits : Nat := 4300

/-- Why a row of digits is no number, in words. -/
def NumberFault.message : NumberFault → String
  | noDigit => "invalid literal for int() with base 10: ''"
  | tooLong digits =>
    "Exceeds the limit (" ++ toString numberDigits ++ " digits) for integer string conversion: " ++
      "value has " ++ toString digits ++
      " digits; use sys.set_int_max_str_digits() to increase the limit"

/-- Why a text lists no attributes and colours. -/
inductive StyleFault where
  /-- A word has no meaning where it stands. -/
  | noMeaning
  /-- A share of a colour is no number. -/
  | number (fault : NumberFault)
deriving Repr, DecidableEq, Inhabited

/-! ## Colours -/

/-- A hexadecimal digit with small letters. -/
def isSmallHexDigit (c : Char) : Bool := c.isDigit || ('a' ≤ c && c ≤ 'f')

/-- What stands between a name with an opening parenthesis and a closing one. -/
def argumentsOf? (name : String) (word : List Char) : Option (List Char) :=
  if name.toList.isPrefixOf word && word.getLast? == some ')' then
    some ((word.drop name.length).dropLast)
  else none

/-- Whether a text is the number of a colour of the palette. -/
def isPaletteNumber (s : List Char) : Bool :=
  !s.isEmpty && s.length ≤ 3 && s.all Char.isDigit && Text.valueOfDigits s < 256

/-- The number that a row of digits stands for. -/
def numberOf (digits : List Char) : Except NumberFault Nat :=
  if digits.isEmpty then .error .noDigit
  else if numberDigits < digits.length then .error (.tooLong digits.length)
  else .ok (Text.valueOfDigits digits)

/-- Checks the shares of red, green and blue: there are three of them, all of them are numbers, and
none is above 255. -/
def checkShares (shares : List (List Char)) : Except StyleFault Unit :=
  if shares.length ≠ 3 then .error .noMeaning
  else
    match shares.mapM numberOf with
    | .error fault => .error (.number fault)
    | .ok ns => if ns.all (· < 256) then .ok () else .error .noMeaning

/-- The name of the colour that a word means: a name, six hexadecimal digits, a number of the
palette, or shares of red, green and blue. -/
def colourOf (word : List Char) : Except StyleFault (List Char) :=
  let word := Text.lower word
  let isPlain := colourNames.contains word ||
    (match word with
      | '#' :: digits => digits.length == 6 && digits.all isSmallHexDigit
      | _ => false) ||
    (argumentsOf? "color(" word).any isPaletteNumber
  if isPlain then .ok word
  else
    match argumentsOf? "rgb(" word with
    | none => .error .noMeaning
    | some s =>
      if s.isEmpty || !s.all fun c => c = ',' || Text.isDigit c then .error .noMeaning
      else (checkShares (Text.splitOn ',' s)).map fun _ => word

/-! ## Lists of words -/

/-- What a name of a style lists. -/
structure StyleParts where
  /-- The attributes, each switched on or off, the last mention first. -/
  flags : List (String × Bool) := []
  colour : Option (List Char) := none
  background : Option (List Char) := none
  link : Option (List Char) := none

/-- What the next word of a name of a style is. -/
inductive Expected where
  /-- An attribute, a colour or a word that announces the next one. -/
  | any
  /-- The colour of the background. -/
  | background
  /-- An attribute that is switched off. -/
  | switchedOff
  /-- The target of a link. -/
  | target
deriving DecidableEq

namespace StyleParts

/-- The parts with one more word.  A word after `not` has to be in small letters already, and the
target of a link keeps its letters. -/
def addWord (state : Expected × StyleParts) (word : List Char) :
    Except StyleFault (Expected × StyleParts) :=
  let (expected, parts) := state
  match expected with
  | .background => (colourOf word).map fun c => (.any, { parts with background := some c })
  | .target => .ok (.any, { parts with link := some word })
  | .switchedOff =>
    match attributeOf? word with
    | some a => .ok (.any, { parts with flags := (a, false) :: parts.flags })
    | none => .error .noMeaning
  | .any =>
    let word := Text.lower word
    if word = "on".toList then .ok (.background, parts)
    else if word = "not".toList then .ok (.switchedOff, parts)
    else if word = "link".toList then .ok (.target, parts)
    else
      match attributeOf? word with
      | some a => .ok (.any, { parts with flags := (a, true) :: parts.flags })
      | none => (colourOf word).map fun c => (.any, { parts with colour := some c })

/-- The parts that some words list. -/
def ofWords (words : List (List Char)) : Except StyleFault StyleParts := do
  let (expected, parts) ← words.foldlM addWord (.any, {})
  if expected = .any then return parts else throw .noMeaning

/-- The parts that a text lists, its words between blanks. -/
def ofText (s : List Char) : Except StyleFault StyleParts :=
  ofWords ((Text.splitOn ' ' (s.map fun c => if Text.isBlank c then ' ' else c)).filter (· ≠ []))

/-- The parts in their order, each in words. -/
def words (p : StyleParts) : List (List Char) :=
  (attributes.filterMap fun a =>
      (p.flags.lookup a.1).map fun isOn => (if isOn then a.1 else "not " ++ a.1).toList) ++
    p.colour.toList ++ (p.background.map ("on ".toList ++ ·)).toList ++
    (p.link.map ("link ".toList ++ ·)).toList

/-- The parts in words. -/
def text (p : StyleParts) : List Char :=
  match p.words with
  | [] => "none".toList
  | words => [' '].intercalate words

end StyleParts

/-- The representative of all names of a style. -/
def canonical (name : List Char) : Except NumberFault (List Char) :=
  match StyleParts.ofText name with
  | .ok parts => .ok parts.text
  | .error .noMeaning => .ok (Text.lower (Text.trim name))
  | .error (.number fault) => .error fault

end Console
end ComponentCensus
