import ComponentCensus.Literal.Fault
import ComponentCensus.Text.Word

/-!
# Tokens of literals

* `Token` — a name, a number, a text, or a sign.
* `Placed` — a token with its line.
* `numberEnd` — what follows the number at the front of a text.
* `placedTokens` — the tokens of a text.

Brackets are matched while the text is cut into tokens, so what the tokens show is always properly
nested.  The last token tells what is wrong at the end of what can be cut: a bracket that is still
open, say.  Within brackets a line end is a blank; elsewhere it is a token, and so is the
indentation of the line behind it.
-/

set_option autoImplicit false

namespace ComponentCensus
namespace Literal

/-- A token. -/
inductive Token where
  | name (word : String)
  | number (isImaginary : Bool)
  /-- A text between quotes, with what is wrong with its characters. -/
  | text (isBytes : Bool) (fault : Option Fault)
  /-- A text between quotes in which values are filled in. -/
  | filledText (isRaw : Bool) (body : List Char)
  | sign (s : String)
  | lineEnd
  | indentation
  /-- The end of what can be read, with what is wrong there, and the innermost bracket that is open
  there with its line. -/
  | finish (fault : Option Fault) (opened : Option (Char × Nat))
deriving Repr, DecidableEq, Inhabited

/-- Whether a token is a text between quotes. -/
def Token.isText : Token → Bool
  | text _ _ => true
  | filledText _ _ => true
  | _ => false

/-- A token with the line that it begins on, whether a bracket is open behind it, and whether the
end of the text had to be seen to know where it ends. -/
structure Placed where
  token : Token
  line : Nat
  isInside : Bool := false
  meetsEnd : Bool := false
deriving Repr, DecidableEq, Inhabited

/-! ## Numbers -/

/-- A hexadecimal digit. -/
def isHex (c : Char) : Bool :=
  c.isDigit || ('a' ≤ c && c ≤ 'f') || ('A' ≤ c && c ≤ 'F')

/-- A character that a name can go on with, as far as names are told from numbers. -/
def continuesWord (c : Char) : Bool := c.isAlphanum || c = '_'

/-- What follows a row of digits, in which single low lines may stand between two digits. -/
def rowEnd (isDigit : Char → Bool) (fault : Fault) (needsDigit : Bool) :
    List Char → Except Fault (List Char)
  | [] => if needsDigit then .error fault else .ok []
  | c :: s =>
    if isDigit c then rowEnd isDigit fault false s
    else if needsDigit then .error fault
    else if c = '_' then rowEnd isDigit fault true s
    else .ok (c :: s)

/-- The words that may follow a number directly, if nothing goes on behind them. -/
def wordsAfterNumbers : List String := ["and", "else", "for", "or", "not"]

/-- The beginnings of words that may follow a number directly. -/
def beginningsAfterNumbers : List String := ["if", "in", "is"]

/-- A character that a name can go on with, as far as names are told from signs. -/
def continuesName (c : Char) : Bool := continuesWord c || 128 ≤ c.toNat

/-- Checks that a number ends here. -/
def checkEnd (kind : String) (rest : List Char) : Except Fault (List Char) :=
  let isWord := fun (w : String) =>
    w.toList.isPrefixOf rest && !(rest.drop w.length).head?.any continuesName
  if beginningsAfterNumbers.any (·.toList.isPrefixOf rest) || wordsAfterNumbers.any isWord then
    .ok rest
  else if rest.head?.any continuesWord then .error (.badNumber kind)
  else .ok rest

/-- What follows a number in another base than ten, after the mark of its base. -/
def basedEnd (kind : String) (isDigit : Char → Bool) (s : List Char) :
    Except Fault (List Char) := do
  let checkDigit := fun (s : List Char) =>
    match s.head? with
    | some c => if c.isDigit then Except.error (Fault.badDigit c kind) else .ok ()
    | none => .ok ()
  let start := if s.head? = some '_' then s.drop 1 else s
  if !start.head?.any isDigit then checkDigit start
  let rest ← rowEnd isDigit (.badNumber kind) true start
  checkDigit rest
  checkEnd kind rest

/-- What follows a row of decimal digits. -/
def decimalsEnd (s : List Char) : Except Fault (List Char) :=
  rowEnd Char.isDigit (.badNumber "decimal") false s

/-- What follows the mark of an imaginary number, or a number without it. -/
def suffixEnd : List Char → Except Fault (Token × List Char)
  | 'j' :: s => (checkEnd "imaginary" s).map fun rest => (.number true, rest)
  | 'J' :: s => (checkEnd "imaginary" s).map fun rest => (.number true, rest)
  | s => (checkEnd "decimal" s).map fun rest => (.number false, rest)

/-- What follows the exponent and the suffix of a number. -/
def exponentEnd (s : List Char) : Except Fault (Token × List Char) := do
  match s with
  | e :: t =>
    if e = 'e' || e = 'E' then
      let (hasSign, t) := match t with
        | '+' :: t => (true, t)
        | '-' :: t => (true, t)
        | t => (false, t)
      if t.head?.any Char.isDigit then suffixEnd (← decimalsEnd t)
      else if hasSign then throw (.badNumber "decimal")
      else
        let rest ← checkEnd "decimal" s
        return (.number false, rest)
    else suffixEnd s
  | [] => suffixEnd s

/-- What follows the fraction, the exponent and the suffix of a number. -/
def fractionEnd (s : List Char) : Except Fault (Token × List Char) := do
  match s with
  | '.' :: t => exponentEnd (← if t.head?.any Char.isDigit then decimalsEnd t else pure t)
  | s => exponentEnd s

/-- A number that begins with a zero which is followed by no mark of a base. -/
def zeroEnd (s : List Char) : Except Fault (Token × List Char) := do
  let rest ← decimalsEnd s
  let digits := s.take (s.length - rest.length)
  let goesOn := rest.head?.any fun c => ['.', 'e', 'E', 'j', 'J'].contains c
  if digits.any (fun c => c ≠ '0' && c ≠ '_') && !goesOn then throw .leadingZeros
  fractionEnd rest

/-- The number at the front of a text, and what follows it. -/
def numberEnd (s : List Char) : Except Fault (Token × List Char) :=
  let integer := fun (rest : List Char) => (Token.number false, rest)
  match s with
  | '0' :: c :: t =>
    if c = 'x' || c = 'X' then (basedEnd "hexadecimal" isHex t).map integer
    else if c = 'o' || c = 'O' then
      (basedEnd "octal" (fun d => '0' ≤ d && d ≤ '7') t).map integer
    else if c = 'b' || c = 'B' then (basedEnd "binary" (fun d => d = '0' || d = '1') t).map integer
    else zeroEnd (c :: t)
  | '.' :: _ => fractionEnd s
  | s => do fractionEnd (← decimalsEnd s)

/-! ## Texts -/

/-- How a text between quotes is to be read, as far as the letters in front of it tell. -/
structure TextKind where
  isBytes : Bool := false
  isRaw : Bool := false
  isMarked : Bool := false
  isFilled : Bool := false
deriving DecidableEq

/-- The kind with one more letter, if the letter may follow those before it. -/
def TextKind.add (k : TextKind) (c : Char) : Option TextKind :=
  match c.toLower with
  | 'b' => if k.isBytes || k.isMarked || k.isFilled then none else some { k with isBytes := true }
  | 'u' =>
    if k.isBytes || k.isMarked || k.isRaw || k.isFilled then none
    else some { k with isMarked := true }
  | 'r' => if k.isRaw || k.isMarked then none else some { k with isRaw := true }
  | 'f' => if k.isFilled || k.isBytes || k.isMarked then none else some { k with isFilled := true }
  | _ => none

/-- The kind of the text at the front, and the text from its first quote on, if there is one. -/
def textKindFrom (k : TextKind) : List Char → Option (TextKind × List Char)
  | [] => none
  | c :: s =>
    if c = '"' || c = '\'' then some (k, c :: s)
    else match k.add c with
      | none => none
      | some k => textKindFrom k s

/-- The characters of a text up to its closing quote, of which there is one or three, and what
follows; `none` if it is not closed. -/
def bodyFrom (quote : Char) (isLong : Bool) : List Char → Option (List Char × List Char)
  | [] => none
  | '\\' :: c :: s => (bodyFrom quote isLong s).map fun r => ('\\' :: c :: r.1, r.2)
  | c :: s =>
    if isLong then
      match c :: s with
      | a :: b :: d :: rest =>
        if a = quote && b = quote && d = quote then some ([], rest)
        else (bodyFrom quote isLong s).map fun r => (c :: r.1, r.2)
      | _ => none
    else if c = quote then some ([], s)
    else if c = '\n' then none
    else (bodyFrom quote isLong s).map fun r => (c :: r.1, r.2)

/-- The number of line ends in a text. -/
def lineEnds (s : List Char) : Nat := s.count '\n'

/-- The places that a character of a text takes where its escapes are counted. -/
def placesOf (c : Char) : Nat := if c.toNat < 128 then 1 else 10

/-- The places that the characters of a text take where its escapes are counted. -/
def placesOfAll (s : List Char) : Nat := s.foldl (fun n c => n + placesOf c) 0

/-- Names of characters are made of letters, digits, blanks and hyphens, and every text of these is
taken for the name of one. -/
def mayNameCharacter (name : List Char) : Bool :=
  !name.isEmpty && name.all fun c => c.isAlphanum || c = ' ' || c = '-'

/-- What is wrong with the name of a character in braces, given the place of the backslash in front
of it and what follows the letter of the escape. -/
def characterNameFault? (place : Nat) : List Char → Option Fault
  | '\x7b' :: s =>
    let name := s.takeWhile (· ≠ '\x7d')
    let last := place + 2 + placesOfAll name
    if name.length = s.length then some (.badEscape place last "malformed \\N character escape")
    else if name.isEmpty then some (.badEscape place last "malformed \\N character escape")
    else if mayNameCharacter name then none
    else some (.badEscape place (last + 1) "unknown Unicode character name")
  | _ => some (.badEscape place (place + 1) "malformed \\N character escape")

/-- The first wrong escape in a text, given the number of places before it.  After the letter of an
escape there have to be as many hexadecimal digits as it asks for. -/
def escapeFault? (place : Nat) : List Char → Option Fault
  | '\\' :: c :: s =>
    let digits := fun (count : Nat) (problem : String) =>
      let n := ((s.take count).takeWhile isHex).length
      if n < count then some (Fault.badEscape place (place + 1 + n) problem) else none
    let here :=
      match c with
      | 'x' => digits 2 "truncated \\xXX escape"
      | 'u' => digits 4 "truncated \\uXXXX escape"
      | 'U' =>
        (digits 8 "truncated \\UXXXXXXXX escape").or
          (if ['0', '0', '0'].isPrefixOf s || ['0', '0', '1', '0'].isPrefixOf s then none
          else some (.badEscape place (place + 9) "illegal Unicode character"))
      | 'N' => characterNameFault? place s
      | _ => none
    here.or (escapeFault? (place + (if c.toNat < 128 then 2 else 16)) s)
  | c :: s => escapeFault? (place + placesOf c) s
  | [] => none

/-- The first wrong escape in a text of bytes, given the number of bytes before it. -/
def byteEscapeFault? (place : Nat) : List Char → Option Fault
  | '\\' :: c :: s =>
    if c = 'x' && ((s.take 2).takeWhile isHex).length < 2 then some (.badByteEscape place)
    else byteEscapeFault? (place + 2) s
  | _ :: s => byteEscapeFault? (place + 1) s
  | [] => none

/-- The token of a text between quotes. -/
def TextKind.token (k : TextKind) (body : List Char) : Token :=
  if k.isFilled then .filledText k.isRaw body
  else if k.isBytes then
    .text true
      (if body.any fun c => 128 ≤ c.toNat then some .wideBytes
      else if k.isRaw then none else byteEscapeFault? 0 body)
  else .text false (if k.isRaw then none else escapeFault? 0 body)

/-! ## All tokens -/

/-- The signs of more than one character, longer ones first. -/
def longSigns : List String :=
  ["...", "**=", "//=", ">>=", "<<=", "**", "//", ">>", "<<", "<=", ">=", "==", "!=", "<>", "->",
    ":=", "+=", "-=", "*=", "/=", "%=", "&=", "|=", "^=", "@="]

/-- The columns that the indentation of a line takes, where a tab goes on to the next multiple of
eight, or is one column wide. -/
structure Margin where
  wide : Nat := 0
  narrow : Nat := 0
deriving Repr, DecidableEq, Inhabited

/-- Where the text has been read up to. -/
structure Position where
  /-- The number of the line. -/
  line : Nat := 1
  /-- The brackets that are open, each with its line, the innermost first. -/
  opened : List (Char × Nat) := []
  /-- The indentations of the lines so far, the deepest first, without the lines that are not
  indented. -/
  margins : List Margin := []

/-- The most brackets that may be open. -/
def bracketLimit : Nat := 200

/-- The bracket that a closing bracket closes. -/
def openingOf (c : Char) : Char := if c = ')' then '(' else if c = ']' then '[' else '\x7b'

/-- The position after an opening bracket. -/
def Position.enter (p : Position) (c : Char) : Except Fault Position :=
  if bracketLimit ≤ p.opened.length then .error .tooManyBrackets
  else .ok { p with opened := (c, p.line) :: p.opened }

/-- The position after a closing bracket. -/
def Position.leave (p : Position) (c : Char) : Except Fault Position :=
  match p.opened with
  | [] => .error (.unmatched c)
  | (opening, line) :: opened =>
    if opening = openingOf c then .ok { p with opened }
    else .error (.mismatched c opening (if line = p.line then none else some line))

/-- The end of what can be read. -/
def Position.finish (p : Position) (fault : Option Fault) : Placed :=
  { token := .finish fault p.opened.head?, line := p.line }

/-- A sign or a text at the front of a text, with the position after it and what follows. -/
def otherToken (p : Position) (s : List Char) : Except Fault (Token × Position × List Char) :=
  match textKindFrom {} s with
  | some (k, quote :: body) =>
    let isLong := [quote, quote].isPrefixOf body
    match bodyFrom quote isLong (if isLong then body.drop 2 else body) with
    | some (cs, rest) => .ok (k.token cs, { p with line := p.line + lineEnds cs }, rest)
    | none =>
      if isLong then .error (.openLongText (p.line + lineEnds body))
      else .error (.openText (p.line + lineEnds (body.takeWhile (· ≠ '\n'))))
  | _ =>
    match longSigns.find? fun w => w.toList.isPrefixOf s with
    | some w => .ok (.sign w, p, s.drop w.length)
    | none =>
      match s with
      | [] => .error .misplaced
      | c :: rest =>
        if c = '(' || c = '[' || c = '\x7b' then
          (p.enter c).map fun p => (.sign c.toString, p, rest)
        else if c = ')' || c = ']' || c = '\x7d' then
          (p.leave c).map fun p => (.sign c.toString, p, rest)
        else if c.toNat < 32 || c.toNat = 127 then .error (.badCharacter c)
        else .ok (.sign c.toString, p, rest)

/-- A character that a name can begin with, as far as names are told from signs. -/
def beginsName (c : Char) : Bool := c.isAlpha || c = '_' || 128 ≤ c.toNat

/-- A name at the front of a text, and what follows. -/
def nameToken (s : List Char) : Except Fault (Token × List Char) :=
  let word := s.takeWhile continuesName
  match word.find? fun c => !Text.isWord c with
  | some c => .error (.badCharacter c)
  | none => .ok (.name (String.ofList word), s.drop word.length)

/-- A name, a number, a text or a sign at the front of a text, with the position after it and what
follows. -/
def wordToken (p : Position) (s : List Char) : Except Fault (Token × Position × List Char) :=
  let c := s.headD ' '
  if c.isDigit || (c = '.' && (s.drop 1).head?.any Char.isDigit) then
    (numberEnd s).map fun r => (r.1, p, r.2)
  else if beginsName c && (textKindFrom {} s).isNone then
    (nameToken s).map fun r => (r.1, p, r.2)
  else otherToken p s

/-- What follows a backslash that ends a line. -/
def afterLineBackslash : List Char → Except Fault (List Char)
  | ['\n'] => .error .endAfterBackslash
  | '\n' :: s => .ok s
  | _ => .error .afterBackslash

/-- The columns that the blanks at the front of a line take, with the number of lines that end there
with a backslash, and what follows.  The columns in front of the first such backslash count, unless
there are none. -/
def marginFrom : (fuel : Nat) → Margin → (first : Nat) → (lines : Nat) → List Char →
    Except Fault (Margin × Nat × List Char)
  | 0, m, _, lines, s => .ok (m, lines, s)
  | fuel + 1, m, first, lines, s =>
    match s with
    | ' ' :: s => marginFrom fuel ⟨m.wide + 1, m.narrow + 1⟩ first lines s
    | '\t' :: s => marginFrom fuel ⟨(m.wide / 8 + 1) * 8, m.narrow + 1⟩ first lines s
    | '\x0c' :: s => marginFrom fuel ⟨0, 0⟩ first lines s
    | '\\' :: s =>
      match afterLineBackslash s with
      | .error fault => .error fault
      | .ok s => marginFrom fuel m (if first = 0 then m.wide else first) (lines + 1) s
    | s => .ok (if first = 0 then m else ⟨first, first⟩, lines, s)

/-- How the indentation of a line goes with those of the lines so far. -/
inductive Step where
  | same
  | deeper (margins : List Margin)
  | back (margins : List Margin)
  | uneven

/-- How the indentation of a line goes with those of the lines so far. -/
def Margin.step (m : Margin) (margins : List Margin) : Step :=
  let last := margins.headD ⟨0, 0⟩
  if m.wide = last.wide then if m.narrow = last.narrow then .same else .uneven
  else if last.wide < m.wide then
    if last.narrow < m.narrow then .deeper (m :: margins) else .uneven
  else
    let kept := margins.dropWhile fun n => m.wide < n.wide
    if kept.headD ⟨0, 0⟩ = m then .back kept else .uneven

/-- The tokens of a text from a position on, which is the start of a line or is behind a token. -/
def tokensFrom : (fuel : Nat) → (isLineStart : Bool) → Position → List Char → List Placed
  | 0, _, p, _ => [p.finish (some .misplaced)]
  | fuel + 1, true, p, s =>
    match marginFrom (s.length + 1) {} 0 0 s with
    | .error fault => [p.finish (some fault)]
    | .ok (m, lines, s) =>
      let p := { p with line := p.line + lines }
      match s with
      | '#' :: s =>
        match s.dropWhile (· ≠ '\n') with
        | [] => tokensFrom fuel false p []
        | _ :: s => tokensFrom fuel true { p with line := p.line + 1 } s
      | '\n' :: s => tokensFrom fuel true { p with line := p.line + 1 } s
      | s =>
        match m.step p.margins with
        | .same => tokensFrom fuel false p s
        | .back margins => tokensFrom fuel false { p with margins } s
        | .deeper margins =>
          { token := .indentation, line := p.line } ::
            tokensFrom fuel false { p with margins } s
        | .uneven => [p.finish (some .unevenIndentation)]
  | fuel + 1, false, p, s =>
    match s with
    | [] => [p.finish (p.opened.head?.map fun b => .notClosed b.1)]
    | c :: rest =>
      if c = ' ' || c = '\t' || c = '\x0c' then tokensFrom fuel false p rest
      else if c = '#' then tokensFrom fuel false p (rest.dropWhile (· ≠ '\n'))
      else if c = '\n' then
        let next := { p with line := p.line + 1 }
        if p.opened.isEmpty then
          { token := .lineEnd, line := p.line } :: tokensFrom fuel true next rest
        else tokensFrom fuel false next rest
      else if c = '\\' then
        match afterLineBackslash rest with
        | .error fault => [p.finish (some fault)]
        | .ok rest => tokensFrom fuel false { p with line := p.line + 1 } rest
      else
        match wordToken p s with
        | .error fault => [p.finish (some fault)]
        | .ok (token, next, rest) =>
          let meetsEnd := rest.isEmpty && !token.isText
          { token, line := p.line, isInside := !next.opened.isEmpty, meetsEnd } ::
            tokensFrom fuel false next rest

/-- A text in which every line ends with a line feed. -/
def withLineFeeds : List Char → List Char
  | '\r' :: '\n' :: s => '\n' :: withLineFeeds s
  | c :: s => (if c = '\r' then '\n' else c) :: withLineFeeds s
  | [] => []

/-- The tokens of a text.  The end of the text counts as a token. -/
def placedTokens (s : List Char) : List Placed :=
  tokensFrom (2 * s.length + 2) true {} (withLineFeeds s)

end Literal
end ComponentCensus
