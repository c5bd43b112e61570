import ComponentCensus.Text.Utf8
import ComponentCensus.Toml.Table

/-!
# Reading a configuration file

Configuration files are written in TOML, version 1.0.

* `Reader` — a step that takes characters from the front of a text.
* `value`, `statements` — values and statements.
* `tableOfText`, `tableOfBytes` — the table that a file makes.

A value can hold further values, and every one of them takes at least one character, so the
length of the text bounds the depth.
-/

set_option autoImplicit false

namespace ComponentCensus
namespace Toml

open Settings Number

/-- A step that takes characters from the front of a text. -/
abbrev Reader := StateT (List Char) (Except Fault)

/-- The next character, which is not taken. -/
def peek : Reader (Option Char) := do return (← get).head?

/-- The characters up to the first that is not of a class. -/
def takeClass (p : Char → Bool) : Reader (List Char) :=
  modifyGet fun s => (s.takeWhile p, s.dropWhile p)

/-- Whether the text goes on with the given characters, which are taken then. -/
def accept (cs : List Char) : Reader Bool :=
  modifyGet fun s => if cs.isPrefixOf s then (true, s.drop cs.length) else (false, s)

/-- Takes the given characters. -/
def expect (cs : List Char) (fault : Fault) : Reader Unit := do
  unless ← accept cs do throw fault

/-- A blank within a line. -/
def isSpace (c : Char) : Bool := c = ' ' || c = '\t'

/-- A blank within a line, or a line end. -/
def isSpaceOrLineEnd (c : Char) : Bool := isSpace c || c = '\n'

/-- Takes the blanks within a line. -/
def skipSpaces : Reader Unit := do let _ ← takeClass isSpace

/-- A control character, the tab aside. -/
def isControl (c : Char) : Bool := (c.toNat < 32 && c ≠ '\t') || c.toNat = 127

/-- A control character, the tab and the line end aside. -/
def isControlInLines (c : Char) : Bool := isControl c && c ≠ '\n'

/-- Takes a comment up to the end of its line. -/
def skipComment : Reader Unit := do
  if ← accept ['#'] then
    let comment ← takeClass (· ≠ '\n')
    if comment.any isControl then throw .badCharacter

/-- Takes blanks, line ends and comments. -/
def skipGap : (fuel : Nat) → Reader Unit
  | 0 => return
  | fuel + 1 => do
    let before := (← get).length
    let _ ← takeClass isSpaceOrLineEnd
    skipComment
    if (← get).length < before then skipGap fuel

/-- Takes blanks, line ends and comments. -/
def skipGaps : Reader Unit := do skipGap ((← get).length + 1)

/-! ## Texts -/

/-- A hexadecimal digit. -/
def isHexDigit (c : Char) : Bool :=
  c.isDigit || ('a' ≤ c && c ≤ 'f') || ('A' ≤ c && c ≤ 'F')

/-- The value of a digit of a base up to sixteen. -/
def digitValue (c : Char) : Nat :=
  if c.isDigit then c.toNat - 48 else c.toLower.toNat - 87

/-- The value of a row of digits. -/
def valueInBase (base : Nat) (ds : List Char) : Nat :=
  ds.foldl (fun n c => base * n + digitValue c) 0

/-- The character with a code point of `count` hexadecimal digits. -/
def codePoint (count : Nat) : Reader (List Char) := do
  let s ← get
  let ds := s.take count
  if ds.length ≠ count || !ds.all isHexDigit then throw .badEscape
  let n := valueInBase 16 ds
  if 0x10FFFF < n || (0xD800 ≤ n && n ≤ 0xDFFF) then throw .badEscape
  set (s.drop count)
  return [Char.ofNat n]

/-- The characters that have an escape of their own. -/
def simpleEscapes : List (Char × Char) :=
  [('b', '\x08'), ('t', '\t'), ('n', '\n'), ('f', '\x0c'), ('r', '\r'), ('"', '"'), ('\\', '\\')]

/-- The characters that an escape stands for, after its backslash.  In a text of several lines a
backslash at the end of a line takes the blanks up to the next character. -/
def escaped (lines : Bool) : Reader (List Char) := do
  match ← get with
  | [] => throw .badEscape
  | c :: s =>
    if lines && isSpaceOrLineEnd c then
      let blanks ← takeClass isSpace
      match ← get with
      | [] => return []
      | '\n' :: _ =>
        let _ ← takeClass isSpaceOrLineEnd
        return []
      | _ => if blanks.isEmpty then return [] else throw .badEscape
    else
      set s
      if c = 'u' then codePoint 4
      else if c = 'U' then codePoint 8
      else
        match simpleEscapes.lookup c with
        | some d => return [d]
        | none => throw .badEscape

/-- The characters up to the closing quotes, last character first. -/
def basicChars (lines : Bool) : (fuel : Nat) → List Char → Reader (List Char)
  | 0, _ => throw .openText
  | fuel + 1, taken => do
    if ← accept (if lines then ['"', '"', '"'] else ['"']) then return taken
    match ← get with
    | [] => throw .openText
    | '\\' :: s =>
      set s
      let cs ← escaped lines
      basicChars lines fuel (cs.reverse ++ taken)
    | c :: s =>
      if (if lines then isControlInLines c else isControl c) then throw .badCharacter
      set s
      basicChars lines fuel (c :: taken)

/-- The characters up to closing apostrophes, last character first. -/
def literalChars (lines : Bool) : (fuel : Nat) → List Char → Reader (List Char)
  | 0, _ => throw .openText
  | fuel + 1, taken => do
    if ← accept (if lines then ['\'', '\'', '\''] else ['\'']) then return taken
    match ← get with
    | [] => throw .openText
    | c :: s =>
      if (if lines then isControlInLines c else isControl c) then throw .badCharacter
      set s
      literalChars lines fuel (c :: taken)

/-- At most two more quotes in front of the closing quotes of a text of several lines. -/
def extraQuotes (quote : Char) : Reader (List Char) := do
  if ← accept [quote] then
    if ← accept [quote] then return [quote, quote]
    return [quote]
  return []

/-- The characters of a text that opens with the given quote. -/
def quotedChars (quote : Char) : Reader (List Char) := do
  let chars := fun (lines : Bool) => do
    let fuel := (← get).length + 1
    let taken ← if quote = '"' then basicChars lines fuel [] else literalChars lines fuel []
    return taken.reverse
  if ← accept [quote, quote, quote] then
    let _ ← accept ['\n']
    let cs ← chars true
    return cs ++ (← extraQuotes quote)
  expect [quote] .badValue
  chars false

/-! ## Keys -/

/-- A character of a key without quotes. -/
def isBare (c : Char) : Bool := c.isAlphanum || c = '-' || c = '_'

/-- A part of a key. -/
def keyPart : Reader String := do
  match ← peek with
  | some c =>
    if isBare c then return String.ofList (← takeClass isBare)
    let fuel := (← get).length + 1
    if ← accept ['\''] then return String.ofList (← literalChars false fuel []).reverse
    if ← accept ['"'] then return String.ofList (← basicChars false fuel []).reverse
    throw .badKey
  | none => throw .badKey

/-- The further parts of a key, each behind a point. -/
def keyParts : (fuel : Nat) → Reader (List String)
  | 0 => return []
  | fuel + 1 => do
    skipSpaces
    if ← accept ['.'] then
      skipSpaces
      let part ← keyPart
      return part :: (← keyParts fuel)
    return []

/-- A key. -/
def key : Reader (List String) := do
  let part ← keyPart
  return part :: (← keyParts ((← get).length + 1))

/-! ## Numbers, dates and times -/

/-- A row of digits in which single low lines may stand between two digits. -/
def digitRow (isDigit : Char → Bool) : List Char → List Char × List Char
  | [] => ([], [])
  | '_' :: c :: s =>
    if isDigit c then let (ds, rest) := digitRow isDigit s; (c :: ds, rest) else ([], '_' :: c :: s)
  | c :: s =>
    if isDigit c then let (ds, rest) := digitRow isDigit s; (c :: ds, rest) else ([], c :: s)

/-- A row of digits that starts with a digit. -/
def digitsIn (isDigit : Char → Bool) (s : List Char) : Option (List Char × List Char) :=
  match s with
  | c :: _ => if isDigit c then some (digitRow isDigit s) else none
  | [] => none

/-- The most digits that a decimal integer may have. -/
def integerDigits : Nat := 4300

/-- An integer in another base than ten. -/
def basedInteger? (s : List Char) : Option (Value × List Char) :=
  let read := fun (base : Nat) (isDigit : Char → Bool) (s : List Char) =>
    (digitsIn isDigit s).map fun (ds, rest) => (Value.int (valueInBase base ds), rest)
  match s with
  | '0' :: 'x' :: s => read 16 isHexDigit s
  | '0' :: 'b' :: s => read 2 (fun c => c = '0' || c = '1') s
  | '0' :: 'o' :: s => read 8 (fun c => '0' ≤ c && c ≤ '7') s
  | _ => none

/-- The fraction of a number, with its point. -/
def fractionOf (s : List Char) : List Char × List Char :=
  match s with
  | '.' :: t =>
    match digitsIn Char.isDigit t with
    | some (ds, rest) => ('.' :: ds, rest)
    | none => ([], s)
  | _ => ([], s)

/-- The exponent of a number, with its mark and its sign. -/
def exponentOf (s : List Char) : List Char × List Char :=
  match s with
  | e :: t =>
    if e = 'e' || e = 'E' then
      let (sign, t) := match t with
        | '+' :: t => (['+'], t)
        | '-' :: t => (['-'], t)
        | t => ([], t)
      match digitsIn Char.isDigit t with
      | some (ds, rest) => (e :: sign ++ ds, rest)
      | none => ([], s)
    else ([], s)
  | [] => ([], s)

/-- The digits in front of the point of a number: a single zero, or digits that start with
another one. -/
def wholePart? (s : List Char) : Option (List Char × List Char) :=
  match s with
  | '0' :: s => some (['0'], s)
  | s => digitsIn Char.isDigit s

/-- A decimal number. -/
def decimalNumber? (text : List Char) : Option (Except Fault Value × List Char) :=
  let (sign, s) := match text with
    | '+' :: s => (['+'], s)
    | '-' :: s => (['-'], s)
    | s => ([], s)
  (wholePart? s).map fun (whole, s) =>
    let (fraction, s) := fractionOf s
    let (exponent, s) := exponentOf s
    if fraction.isEmpty && exponent.isEmpty then
      let n : Int := valueInBase 10 whole
      if integerDigits < whole.length then (.error .longInteger, s)
      else (.ok (.int (if sign = ['-'] then -n else n)), s)
    else
      match Binary64.ofText? (sign ++ whole ++ fraction ++ exponent) with
      | some x => (.ok (.real x), s)
      | none => (.error .badValue, s)

/-- A number of two digits between bounds. -/
def twoDigits? (low high : Nat) (s : List Char) : Option (Nat × List Char) :=
  match s with
  | a :: b :: s =>
    let n := 10 * digitValue a + digitValue b
    if a.isDigit && b.isDigit && low ≤ n && n ≤ high then some (n, s) else none
  | _ => none

/-- What follows a given character. -/
def after? (c : Char) (s : List Char) : Option (List Char) :=
  match s with
  | d :: s => if c = d then some s else none
  | [] => none

/-- The microseconds of a fraction of a second, if there is one; further digits are dropped. -/
def microseconds (s : List Char) : Nat × List Char :=
  match s with
  | '.' :: t =>
    let ds := t.takeWhile Char.isDigit
    if ds.isEmpty then (0, s)
    else
      (valueInBase 10 ((ds ++ List.replicate 6 '0').take 6), t.dropWhile Char.isDigit)
  | _ => (0, s)

/-- A time of day. -/
def timeOfDay? (s : List Char) : Option (TimeOfDay × List Char) := do
  let (hour, s) ← twoDigits? 0 23 s
  let (minute, s) ← twoDigits? 0 59 (← after? ':' s)
  let (second, s) ← twoDigits? 0 59 (← after? ':' s)
  let (microsecond, s) := microseconds s
  return ({ hour, minute, second, microsecond }, s)

/-- A date; the day need not be one of its month. -/
def date? (s : List Char) : Option (Date × List Char) := do
  let (century, s) ← twoDigits? 0 99 s
  let (year, s) ← twoDigits? 0 99 s
  let (month, s) ← twoDigits? 1 12 (← after? '-' s)
  let (day, s) ← twoDigits? 1 31 (← after? '-' s)
  return ({ year := 100 * century + year, month, day }, s)

/-- A distance from universal time in minutes. -/
def offset? (s : List Char) : Option (Int × List Char) := do
  match s with
  | 'Z' :: s => return (0, s)
  | 'z' :: s => return (0, s)
  | sign :: s =>
    if sign ≠ '+' && sign ≠ '-' then failure
    let (hour, s) ← twoDigits? 0 23 s
    let (minute, s) ← twoDigits? 0 59 (← after? ':' s)
    let minutes : Int := 60 * hour + minute
    return (if sign = '-' then -minutes else minutes, s)
  | [] => failure

/-- A time of day behind a date. -/
def timeAfterDate? (s : List Char) : Option (TimeOfDay × List Char) :=
  match s with
  | c :: s => if c = 'T' || c = 't' || c = ' ' then timeOfDay? s else none
  | [] => none

/-- A date, a time of day, or both. -/
def moment? (s : List Char) : Option (Except Fault Value × List Char) :=
  match date? s with
  | some (d, s) =>
    let checked := fun (m : Moment) =>
      if d.isValid then Except.ok (Value.moment m) else .error Fault.badMoment
    match timeAfterDate? s with
    | none => some (checked (.date d), s)
    | some (t, s) =>
      match offset? s with
      | none => some (checked (.dateTime d t none), s)
      | some (minutes, s) => some (checked (.dateTime d t (some minutes)), s)
  | none => (timeOfDay? s).map fun (t, s) => (.ok (.moment (.time t)), s)

/-- The numbers that have a name. -/
def namedNumbers : List (String × Binary64) :=
  [("inf", .infinite false), ("nan", .nan), ("-inf", .infinite true), ("+inf", .infinite false),
    ("-nan", .nan), ("+nan", .nan)]

/-- A number with a name. -/
def namedNumber? (s : List Char) : Option (Value × List Char) :=
  (namedNumbers.find? fun n => n.1.toList.isPrefixOf s).map fun n =>
    (.real n.2, s.drop n.1.length)

/-- A date, a time or a number. -/
def scalar : Reader Value := do
  let s ← get
  let take := fun (result : Except Fault Value × List Char) => do
    set result.2
    liftM result.1
  match moment? s with
  | some result => take result
  | none =>
    match basedInteger? s with
    | some (v, rest) => take (.ok v, rest)
    | none =>
      match decimalNumber? s with
      | some result => take result
      | none =>
        match namedNumber? s with
        | some (v, rest) => take (.ok v, rest)
        | none => throw .badValue

/-! ## Values -/

/-- How deep values may be nested: an array counts two, a table between braces three. -/
def nesting : Nat := 980

/-- The depth that is left within a value. -/
def within (depth count : Nat) : Reader Nat :=
  if depth < count then throw .tooDeep else return depth - count

mutual

/-- A value; values within it are read with less fuel. -/
def value (depth : Nat) : (fuel : Nat) → Reader Value
  | 0 => throw .badValue
  | fuel + 1 => do
    match ← peek with
    | some '"' => return .text (String.ofList (← quotedChars '"'))
    | some '\'' => return .text (String.ofList (← quotedChars '\''))
    | some '[' =>
      let depth ← within depth 2
      expect ['['] .badValue
      skipGaps
      if ← accept [']'] then return .list []
      return .list (← arrayItems depth fuel)
    | some '{' =>
      let depth ← within depth 3
      expect ['{'] .badValue
      skipSpaces
      if ← accept ['}'] then return .table []
      return .table (← tablePairs depth fuel {}).entries
    | _ =>
      if ← accept "true".toList then return .bool true
      if ← accept "false".toList then return .bool false
      scalar

/-- The members of an array, of which there is at least one, and its closing bracket. -/
def arrayItems (depth : Nat) : (fuel : Nat) → Reader (List Value)
  | 0 => throw .badValue
  | fuel + 1 => do
    let v ← value depth fuel
    skipGaps
    if ← accept [']'] then return [v]
    expect [','] .openArray
    skipGaps
    if ← accept [']'] then return [v]
    return v :: (← arrayItems depth fuel)

/-- The table that is made of the pairs so far and the further pairs between braces, of which there
is at least one, and its closing brace. -/
def tablePairs (depth : Nat) : (fuel : Nat) → InlineTable → Reader InlineTable
  | 0, _ => throw .badValue
  | fuel + 1, t => do
    let (k, v) ← keyAndValue depth fuel
    let t ← liftM (t.add k v)
    skipSpaces
    if ← accept ['}'] then return t
    expect [','] .openTable
    skipSpaces
    tablePairs depth fuel t

/-- A key and its value. -/
def keyAndValue (depth : Nat) : (fuel : Nat) → Reader (List String × Value)
  | 0 => throw .badValue
  | fuel + 1 => do
    let k ← key
    expect ['='] .missingEquals
    skipSpaces
    return (k, ← value depth fuel)

end

/-! ## Statements -/

/-- A character that a key may begin with. -/
def beginsKey (c : Char) : Bool := isBare c || c = '\'' || c = '"'

/-- A header up to its closing brackets, after its first bracket. -/
def headerStatement : Reader Statement := do
  if ← accept ['['] then
    skipSpaces
    return .arrayTable (← key)
  skipSpaces
  return .table (← key)

/-- The statement at the front of a line up to its closing brackets, if there is one before a
comment or the end. -/
def statement? (c : Char) : Reader (Option Statement) := do
  if beginsKey c then
    let (k, v) ← keyAndValue nesting (2 * (← get).length + 2)
    return some (.pair k v)
  if ← accept ['['] then return some (← headerStatement)
  if c = '#' then return none
  throw .badStatement

/-- The document with the statement at the front of a line.  What is wrong with a statement is found
before what is wrong behind it. -/
def line (d : Document) (c : Char) : Reader Document := do
  match ← statement? c with
  | none => return d
  | some s =>
    let d ← liftM (d.add s)
    expect s.closing .missingBracket
    skipSpaces
    return d

/-- The document with the statements of a text, each on a line of its own. -/
def statements : (fuel : Nat) → Document → Reader Document
  | 0, d => return d
  | fuel + 1, d => do
    skipSpaces
    match ← peek with
    | none => return d
    | some c =>
      if ← accept ['\n'] then statements fuel d
      else
        let d ← line d c
        skipComment
        match ← peek with
        | none => return d
        | some _ =>
          expect ['\n'] .missingLineEnd
          statements fuel d

/-- The text with each carriage return in front of a line feed taken out. -/
def withoutReturns : List Char → List Char
  | '\r' :: '\n' :: s => '\n' :: withoutReturns s
  | c :: s => c :: withoutReturns s
  | [] => []

/-- The table that a text makes. -/
def tableOfText (text : List Char) : Except Fault Table := do
  let text := withoutReturns text
  let (d, _) ← (statements (text.length + 1) {}).run text
  return d.root

/-- The table that the bytes of a file make. -/
def tableOfBytes (bytes : List UInt8) : Except Fault Table :=
  match Text.Utf8.decodeStrict? bytes with
  | none => .error .notUtf8
  | some text => tableOfText text

end Toml
end ComponentCensus
