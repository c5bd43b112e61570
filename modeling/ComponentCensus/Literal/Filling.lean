import ComponentCensus.Literal.Token

/-!
# Texts in which values are filled in

* `pieceFrom` — the characters in front of the next value.
* `valueFrom` — the text of a value, up to the sign that ends it.
* `fillingFault?` — what is wrong with a text in which values are filled in.

A value stands between braces; behind it may stand an equals sign, a conversion, and a format, in
which again values may be filled in.  Outside of formats a brace is written twice.
-/

set_option autoImplicit false

namespace ComponentCensus
namespace Literal

/-- The characters in front of the next value.  They end at a brace or, outside of formats, behind
the first of two braces. -/
structure Piece where
  characters : List Char
  isDoubled : Bool
  rest : List Char

/-- The characters in front of the next value, given those before them, the last one first.  An
escaped brace is a brace, unless it belongs to the name of a character. -/
def pieceFrom (isRaw isFormat : Bool) :
    (fuel : Nat) → (before : List Char) → List Char → Except Fault Piece
  | 0, before, s => .ok ⟨before.reverse, false, s⟩
  | fuel + 1, before, s =>
    let atBrace := fun (before : List Char) (c : Char) (s : List Char) =>
      if isFormat then Except.ok (Piece.mk before.reverse false (c :: s))
      else if s.head? = some c then .ok ⟨(c :: before).reverse, true, s.drop 1⟩
      else if c = '\x7d' then .error (Fault.filling .loneBrace)
      else .ok ⟨before.reverse, false, c :: s⟩
    let isBrace := fun (c : Char) => c = '\x7b' || c = '\x7d'
    match s with
    | [] => .ok ⟨before.reverse, false, []⟩
    | c :: s =>
      if c = '\\' && !isRaw then
        match s with
        | [] => .ok ⟨(c :: before).reverse, false, []⟩
        | 'N' :: '\x7b' :: s =>
          let name := s.takeWhile (· ≠ '\x7d')
          let count := name.length + 1
          pieceFrom isRaw isFormat fuel ((s.take count).reverse ++ '\x7b' :: 'N' :: c :: before)
            (s.drop count)
        | d :: s =>
          if isBrace d then atBrace (c :: before) d s
          else pieceFrom isRaw isFormat fuel (d :: c :: before) s
      else if isBrace c then atBrace before c s
      else pieceFrom isRaw isFormat fuel (c :: before) s

/-- A bracket that opens something within a value. -/
def opens (c : Char) : Bool := c = '(' || c = '[' || c = '\x7b'

/-- A bracket that closes something within a value. -/
def closes (c : Char) : Bool := c = ')' || c = ']' || c = '\x7d'

/-- The text of a value, up to the sign that ends it, given the characters before, the last one
first.  Some characters are passed over; within a text between quotes, of which there is one or
three, brackets and signs do not count. -/
def valueFrom : (passed : Nat) → (quote : Option (Char × Bool)) → (opened : List Char) →
    (before : List Char) → List Char → Except FillingFault (List Char × List Char)
  | _, quote, opened, _, [] =>
    match quote, opened with
    | some _, _ => .error .openText
    | none, bracket :: _ => .error (.unmatched bracket)
    | none, [] => .error .notEnded
  | passed + 1, quote, opened, before, c :: s => valueFrom passed quote opened (c :: before) s
  | 0, quote, opened, before, c :: s =>
    let isTriple := [c, c].isPrefixOf s
    if c = '\\' then .error .backslash
    else
      match quote with
      | some (q, isLong) =>
        if c = q && isLong && isTriple then valueFrom 2 none opened (c :: before) s
        else if c = q && !isLong then valueFrom 0 none opened (c :: before) s
        else valueFrom 0 quote opened (c :: before) s
      | none =>
        if c = '\'' || c = '"' then
          valueFrom (if isTriple then 2 else 0) (some (c, isTriple)) opened (c :: before) s
        else if opens c then
          if bracketLimit ≤ opened.length then .error .tooManyBrackets
          else valueFrom 0 none (c :: opened) (c :: before) s
        else if c = '#' then .error .comment
        else if opened.isEmpty && ['!', ':', '\x7d', '=', '<', '>'].contains c then
          if s.head? = some '=' && c ≠ ':' && c ≠ '\x7d' then
            valueFrom 1 none opened (c :: before) s
          else if c = '<' || c = '>' then valueFrom 0 none opened (c :: before) s
          else .ok (before.reverse, c :: s)
        else if closes c then
          match opened with
          | [] => .error (.unmatched c)
          | bracket :: opened =>
            if bracket = openingOf c then valueFrom 0 none opened (c :: before) s
            else .error (.mismatched c bracket)
        else valueFrom 0 none opened (c :: before) s

/-- What follows the equals sign behind a value, and the blanks behind it. -/
def afterEquals (s : List Char) : List Char :=
  match s with
  | '=' :: s => s.dropWhile fun c => [' ', '\t', '\n', '\x0b', '\x0c', '\r'].contains c
  | s => s

/-- What follows the conversion of a value. -/
def afterConversion (s : List Char) : Except FillingFault (List Char) :=
  match s with
  | ['!'] => .error .notEnded
  | '!' :: c :: s => if ['s', 'r', 'a'].contains c then .ok s else .error .badConversion
  | s => .ok s

/-- What is wrong with the text of a value, given the sign behind it. -/
def valueFault? (valueFault? : List Char → Option Fault) (value : List Char) (sign : Char) :
    Option Fault :=
  if value.all fun c => [' ', '\t', '\n', '\x0c'].contains c then
    some (.filling (if ['!', ':', '='].contains sign then .noValueBefore sign else .noValue))
  else valueFault? value

/-- The deepest that values may be filled in. -/
def fillingDepth : Nat := 2

/-- What follows the characters and values at the front of a text or of a format, up to its end or
to the brace that ends the format, given what is wrong with the text of a value. -/
def fillingsEnd (isRaw : Bool) (wrong? : List Char → Option Fault) :
    (fuel : Nat) → (depth : Nat) → List Char → Except Fault (List Char)
  | 0, _, _ => .error .misplaced
  | fuel + 1, depth, s => do
    let piece ← pieceFrom isRaw (depth ≠ 0) (s.length + 1) [] s
    if let some fault := if isRaw then none else escapeFault? 0 piece.characters then throw fault
    if piece.isDoubled then fillingsEnd isRaw wrong? fuel depth piece.rest
    else
      match piece.rest with
      | '\x7b' :: s =>
        if fillingDepth ≤ depth then throw (.filling .tooDeep)
        let (value, s) ← (valueFrom 0 none [] [] s).mapError .filling
        if let some fault := valueFault? wrong? value (s.headD ' ') then throw fault
        match (afterConversion (afterEquals s)).mapError .filling with
        | .error fault => throw fault
        | .ok s =>
          let rest ←
            match s with
            | [':'] => throw (.filling .notEnded)
            | ':' :: s => fillingsEnd isRaw wrong? fuel (depth + 1) s
            | s => pure s
          match rest with
          | '\x7d' :: s => fillingsEnd isRaw wrong? fuel depth s
          | _ => throw (.filling .notEnded)
      | [] => if depth = 0 then return [] else throw (.filling .notEnded)
      | rest => return rest

/-- What is wrong with a text in which values are filled in, given what is wrong with the text of a
value. -/
def fillingFault? (wrong? : List Char → Option Fault) (isRaw : Bool) (body : List Char) :
    Option Fault :=
  match fillingsEnd isRaw wrong? (2 * body.length + 2) 0 body with
  | .error fault => some fault
  | .ok _ => none

end Literal
end ComponentCensus
