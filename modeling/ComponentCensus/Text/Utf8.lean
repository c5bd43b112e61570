/-!
# Reading bytes as text

Bytes are read as UTF-8 by a machine that takes one byte at a time.  Where they are not UTF-8,
each longest piece that could have begun a character gives one replacement character.

* `Utf8.decode` — the characters of some bytes, with `none` for each faulty piece.
* `Utf8.decodeLossy`, `Utf8.decodeStrict?` — the text with replacement characters, and the text if
  nothing is faulty.
* `unifyLineEnds` — carriage returns become line feeds, a carriage return and a line feed one.
-/

set_option autoImplicit false

namespace ComponentCensus
namespace Text
namespace Utf8

/-- What the machine expects of the next byte: the beginning of a character, or a byte between two
bounds, after which `left` more are needed; `value` is made of the bits read so far. -/
inductive Expect where
  | start
  | more (left low high value : Nat)
deriving Repr, DecidableEq

/-- What a byte at the beginning of a character leads to: the character itself, more bytes, or
`none` if no character begins so. -/
def begin (b : Nat) : Option (Option Char × Expect) :=
  if b < 0x80 then some (some (Char.ofNat b), .start)
  else if b < 0xC2 then none
  else if b < 0xE0 then some (none, .more 0 0x80 0xBF (b - 0xC0))
  else if b = 0xE0 then some (none, .more 1 0xA0 0xBF 0)
  else if b = 0xED then some (none, .more 1 0x80 0x9F 0xD)
  else if b < 0xF0 then some (none, .more 1 0x80 0xBF (b - 0xE0))
  else if b = 0xF0 then some (none, .more 2 0x90 0xBF 0)
  else if b < 0xF4 then some (none, .more 2 0x80 0xBF (b - 0xF0))
  else if b = 0xF4 then some (none, .more 2 0x80 0x8F 4)
  else none

/-- What the machine puts out for a byte at the beginning of a character, and what it expects
then. -/
def beginStep (b : Nat) : List (Option Char) × Expect :=
  match begin b with
  | none => ([none], .start)
  | some (c, next) => ((c.map some).toList, next)

/-- What the machine puts out for a byte, and what it expects then. -/
def step (e : Expect) (b : Nat) : List (Option Char) × Expect :=
  match e with
  | .start => beginStep b
  | .more left low high value =>
    if low ≤ b && b ≤ high then
      let value := value * 64 + b % 64
      match left with
      | 0 => ([some (Char.ofNat value)], .start)
      | left + 1 => ([], .more left 0x80 0xBF value)
    else
      let (out, next) := beginStep b
      (none :: out, next)

/-- The characters of some bytes, given what is expected of the first of them. -/
def decodeFrom (e : Expect) : List UInt8 → List (Option Char)
  | [] => if e = .start then [] else [none]
  | b :: bs =>
    let (out, next) := step e b.toNat
    out ++ decodeFrom next bs

/-- The characters of some bytes, with `none` for each faulty piece. -/
def decode (bs : List UInt8) : List (Option Char) := decodeFrom .start bs

/-- The character that stands for a faulty piece. -/
def replacement : Char := '\uFFFD'

/-- The text of some bytes, with a replacement character for each faulty piece. -/
def decodeLossy (bs : List UInt8) : List Char := (decode bs).map (·.getD replacement)

/-- The text of some bytes, if none of them is faulty. -/
def decodeStrict? (bs : List UInt8) : Option (List Char) := (decode bs).mapM id

end Utf8

/-- The text with every line end written as a line feed. -/
def unifyLineEnds : List Char → List Char
  | '\r' :: '\n' :: s => '\n' :: unifyLineEnds s
  | c :: s => (if c = '\r' then '\n' else c) :: unifyLineEnds s
  | [] => []

end Text
end ComponentCensus
