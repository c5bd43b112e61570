import ComponentCensus.Json.Value

/-!
# The grammar of JSON texts

Which texts stand for a JSON value, whoever wrote them: blanks may stand between all tokens, and a
character of a string may be written as itself, with a short escape, or in units of sixteen bits.
Reports hold whole numbers only, so a number with a fraction or an exponent stands for nothing here.

* `Spells`, `Spelled` — a character of a string and all its characters, as they can be written.
* `WritesInt` — a number as it can be written.
* `Writes`, `IsTextOf` — a value as it can be written, without and with blanks around it.
-/

set_option autoImplicit false

namespace ComponentCensus
namespace Json

/-! ## Blanks -/

/-- Whether a character may stand between tokens. -/
def isBlank (c : Char) : Bool := c = ' ' || c = '\t' || c = '\n' || c = '\r'

/-- Nothing but blanks. -/
def Blanks (t : List Char) : Prop := ∀ c ∈ t, isBlank c = true

/-! ## Strings -/

/-- The value of a hexadecimal digit. -/
def hexValue? (c : Char) : Option Nat :=
  let n := c.toNat
  if 48 ≤ n && n ≤ 57 then some (n - 48)
  else if 97 ≤ n && n ≤ 102 then some (n - 87)
  else if 65 ≤ n && n ≤ 70 then some (n - 55)
  else none

/-- The unit of sixteen bits that four hexadecimal digits stand for. -/
def unitOf? : List Char → Option Nat
  | [a, b, c, d] => do
    let a ← hexValue? a
    let b ← hexValue? b
    let c ← hexValue? c
    let d ← hexValue? d
    return ((a * 16 + b) * 16 + c) * 16 + d
  | _ => none

/-- The short escapes: what follows the backslash, and the character that it stands for. -/
def shortEscapes : List (Char × Char) :=
  [('"', '"'), ('\\', '\\'), ('/', '/'), ('b', '\x08'), ('f', '\x0c'), ('n', '\n'), ('r', '\r'),
    ('t', '\t')]

/-- The character of two surrogates. -/
def pairValue (high low : Nat) : Nat := 0x10000 + (high - 0xD800) * 0x400 + (low - 0xDC00)

/-- How a character can be written in a string. -/
inductive Spells : List Char → Char → Prop
  | plain {c : Char} (hcontrol : 32 ≤ c.toNat) (hquote : c ≠ '"') (hescape : c ≠ '\\') :
      Spells [c] c
  | short {e c : Char} (h : (e, c) ∈ shortEscapes) : Spells ['\\', e] c
  | unit {t : List Char} {c : Char} (h : unitOf? t = some c.toNat) : Spells ('\\' :: 'u' :: t) c
  | pair {t u : List Char} {c : Char} {high low : Nat} (ht : unitOf? t = some high)
      (hu : unitOf? u = some low) (hhigh : 0xD800 ≤ high ∧ high < 0xDC00)
      (hlow : 0xDC00 ≤ low ∧ low < 0xE000) (hc : c.toNat = pairValue high low) :
      Spells ('\\' :: 'u' :: t ++ '\\' :: 'u' :: u) c

/-- How some characters can be written in a string. -/
inductive Spelled : List Char → List Char → Prop
  | nil : Spelled [] []
  | cons {t u : List Char} {c : Char} {cs : List Char} (hc : Spells t c) (hcs : Spelled u cs) :
      Spelled (t ++ u) (c :: cs)

/-- How a string can be written. -/
def WritesText (s : String) (t : List Char) : Prop :=
  ∃ u, t = '"' :: (u ++ ['"']) ∧ Spelled u s.toList

/-! ## Numbers -/

/-- Decimal digits without a leading zero. -/
def IsNumeral (ds : List Char) : Prop :=
  ds ≠ [] ∧ (∀ d ∈ ds, d.isDigit = true) ∧ (ds.head? = some '0' → ds = ['0'])

instance (ds : List Char) : Decidable (IsNumeral ds) :=
  decidable_of_iff (ds ≠ [] ∧ ds.all Char.isDigit = true ∧ (ds.head? = some '0' → ds = ['0']))
    (by rw [IsNumeral, List.all_eq_true])

/-- How a whole number can be written. -/
def WritesInt (n : Int) (t : List Char) : Prop :=
  (IsNumeral t ∧ n = Nat.ofDigitChars 10 t 0) ∨
    ∃ ds, t = '-' :: ds ∧ IsNumeral ds ∧ n = -(Nat.ofDigitChars 10 ds 0 : Int)

/-! ## Values -/

/-- How some parts can be written between brackets, with commas between them. -/
def Sequence : List (List Char → Prop) → List Char → Prop
  | [], t => Blanks t
  | part :: parts, t => ∃ a u b r, t = a ++ (u ++ (b ++ r)) ∧ Blanks a ∧ part u ∧ Blanks b ∧
      ((parts = [] ∧ r = []) ∨ (parts ≠ [] ∧ ∃ r', r = ',' :: r' ∧ Sequence parts r'))

mutual

/-- How a value can be written. -/
def Writes : Json → List Char → Prop
  | null => fun t => t = "null".toList
  | bool b => fun t => t = (if b then "true" else "false").toList
  | int n => WritesInt n
  | text s => WritesText s
  | list vs => fun t => ∃ u, t = '[' :: (u ++ [']']) ∧ Sequence (writesItems vs) u
  | object members => fun t => ∃ u, t = '{' :: (u ++ ['}']) ∧ Sequence (writesMembers members) u

/-- How each member of a list can be written. -/
def writesItems : List Json → List (List Char → Prop)
  | [] => []
  | v :: vs => Writes v :: writesItems vs

/-- How each member of an object can be written. -/
def writesMembers : List (String × Json) → List (List Char → Prop)
  | [] => []
  | (k, v) :: members =>
    (fun t => ∃ name a b u, t = name ++ (a ++ ':' :: (b ++ u)) ∧ WritesText k name ∧ Blanks a ∧
      Blanks b ∧ Writes v u) :: writesMembers members

end

/-- How a member of an object can be written. -/
def WritesMember (m : String × Json) (t : List Char) : Prop :=
  ∃ name a b u, t = name ++ (a ++ ':' :: (b ++ u)) ∧ WritesText m.1 name ∧ Blanks a ∧ Blanks b ∧
    Writes m.2 u

theorem writesItems_eq_map (vs : List Json) : writesItems vs = vs.map Writes := by
  induction vs with
  | nil => rfl
  | cons v vs ih => rw [writesItems, ih, List.map_cons]

theorem writesMembers_eq_map (members : List (String × Json)) :
    writesMembers members = members.map WritesMember := by
  induction members with
  | nil => rfl
  | cons m members ih =>
    obtain ⟨k, v⟩ := m
    rw [writesMembers, ih, List.map_cons]
    rfl

/-- The text stands for the value. -/
def IsTextOf (v : Json) (text : String) : Prop :=
  ∃ a t b, text.toList = a ++ (t ++ b) ∧ Blanks a ∧ Writes v t ∧ Blanks b

end Json
end ComponentCensus
