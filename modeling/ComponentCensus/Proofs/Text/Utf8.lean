import Mathlib.Data.List.Basic
import ComponentCensus.Text.Utf8

/-!
# UTF-8

Reading bytes as text, told without the machine that does it.  Bytes fall into the encodings of
characters and the faulty pieces between them; a faulty piece is as long as a beginning of a
character can be.

* `encode` — the bytes of a text.
* `Reads` — a text is read from bytes.  `reads_decodeLossy` says that the machine reads so, and
  `Reads.unique` that there is one such text only.
* `Reached` — what the machine knows of the bytes since the last character; `step_cases` is what one
  more byte can lead to, and everything about runs of the machine comes from it.
* `decodeLossy_encode` — an encoded text is read again.
-/

set_option autoImplicit false

namespace ComponentCensus
namespace Text
namespace Utf8

open String (utf8EncodeChar)

/-- The bytes of a text. -/
def encode (text : List Char) : List UInt8 := text.flatMap utf8EncodeChar

/-- Bytes that the encoding of a character begins with. -/
def Begins (piece : List UInt8) : Prop := ∃ c, piece <+: utf8EncodeChar c

/-- A piece in front of further bytes belongs to no character: none is encoded at this place, and
the piece is the longest there that the encoding of one could begin with, or one byte if there is no
such piece. -/
structure Faulty (piece rest : List UInt8) : Prop where
  no_char : ∀ c, ¬utf8EncodeChar c <+: piece ++ rest
  isPiece : piece.length = 1 ∨ piece ≠ [] ∧ Begins piece
  longest : ∀ other, other <+: piece ++ rest → Begins other → other.length ≤ piece.length

/-- A text is read from bytes. -/
inductive Reads : List UInt8 → List Char → Prop where
  | nil : Reads [] []
  | char {bs : List UInt8} {text : List Char} (c : Char) (h : Reads bs text) :
      Reads (utf8EncodeChar c ++ bs) (c :: text)
  | faulty {piece bs : List UInt8} {text : List Char} (hfaulty : Faulty piece bs)
      (h : Reads bs text) : Reads (piece ++ bs) (replacement :: text)

variable {b : UInt8} {bs piece tail : List UInt8} {c : Char} {text : List Char}

/-! ## Encoded characters -/

/-- These are the bytes of which strings are made. -/
theorem toByteArray_encode (s : String) : (encode s.toList).toByteArray = s.toUTF8 := by
  rw [encode, ← List.utf8Encode, String.utf8Encode_toList]
  rfl

/-- The numbers of characters leave out the surrogates. -/
def IsScalar (n : Nat) : Prop := n < 0xD800 ∨ 0xDFFF < n ∧ n < 0x110000

theorem isScalar_toNat (c : Char) : IsScalar c.toNat := c.valid

theorem IsScalar.toNat_ofNat {n : Nat} (h : IsScalar n) : (Char.ofNat n).toNat = n := by
  have hvalid : n.isValidChar := h
  rw [Char.ofNat, dif_pos hvalid]
  rfl

theorem IsScalar.eq_ofNat_iff {n : Nat} (h : IsScalar n) : c = Char.ofNat n ↔ c.toNat = n := by
  constructor
  · rintro rfl
    exact h.toNat_ofNat
  · rintro rfl
    exact (Char.ofNat_toNat c).symm

theorem map_toNat_utf8EncodeChar (c : Char) :
    (utf8EncodeChar c).map UInt8.toNat =
      if c.toNat ≤ 0x7F then [c.toNat]
      else if c.toNat ≤ 0x7FF then [c.toNat / 64 + 0xC0, c.toNat % 64 + 0x80]
      else if c.toNat ≤ 0xFFFF then
        [c.toNat / 4096 + 0xE0, c.toNat / 64 % 64 + 0x80, c.toNat % 64 + 0x80]
      else
        [c.toNat / 262144 + 0xF0, c.toNat / 4096 % 64 + 0x80, c.toNat / 64 % 64 + 0x80,
          c.toNat % 64 + 0x80] := by
  have hscalar := isScalar_toNat c
  unfold IsScalar at hscalar
  unfold utf8EncodeChar
  simp only [Char.toNat_val]
  generalize c.toNat = n at hscalar ⊢
  split
  · simp only [List.map_cons, List.map_nil, UInt8.toNat_ofNat']
    rw [Nat.mod_eq_of_lt (by omega)]
  split
  · simp only [List.map_cons, List.map_nil, UInt8.toNat_ofNat', List.cons.injEq, and_true]
    omega
  split
  · simp only [List.map_cons, List.map_nil, UInt8.toNat_ofNat', List.cons.injEq, and_true]
    omega
  · simp only [List.map_cons, List.map_nil, UInt8.toNat_ofNat', List.cons.injEq, and_true]
    omega

theorem utf8EncodeChar_eq_iff :
    utf8EncodeChar c = bs ↔ (utf8EncodeChar c).map UInt8.toNat = bs.map UInt8.toNat :=
  (List.map_injective_iff.2 fun _ _ => UInt8.toNat_inj.1).eq_iff.symm

/-! ## What the machine knows -/

/-- Bytes that end a character: the first is between two bounds, and `left` more follow. -/
def Completes : Nat → Nat → Nat → List UInt8 → Prop
  | 0, low, high, bs => ∃ x, bs = [x] ∧ low ≤ x.toNat ∧ x.toNat ≤ high
  | left + 1, low, high, bs => ∃ x rest, bs = x :: rest ∧ low ≤ x.toNat ∧ x.toNat ≤ high ∧
    Completes left 0x80 0xBF rest

/-- The number that further bytes make of the bits read so far. -/
def bits (value : Nat) (tail : List UInt8) : Nat :=
  tail.foldl (fun value b => value * 64 + b.toNat % 64) value

theorem bits_nil (value : Nat) : bits value [] = value := rfl

theorem bits_cons (value : Nat) (x : UInt8) (tail : List UInt8) :
    bits value (x :: tail) = bits (value * 64 + x.toNat % 64) tail := rfl

/-- What a machine that expects more knows of the bytes since the last character: the characters
that they begin are those that it can still put out. -/
structure Within (piece : List UInt8) (left low high value : Nat) : Prop where
  ne_nil : piece ≠ []
  le_low : 0x80 ≤ low
  low_le : low ≤ high
  le_high : high ≤ 0xBF
  not_prefix : ∀ c, ¬utf8EncodeChar c <+: piece
  encodes_iff : ∀ c tail, utf8EncodeChar c = piece ++ tail ↔
    Completes left low high tail ∧ c = Char.ofNat (bits value tail)

/-- The machine has come to expect something after the bytes since the last character. -/
def Reached (piece : List UInt8) : Expect → Prop
  | .start => piece = []
  | .more left low high value => Within piece left low high value

theorem not_completes_nil {left low high : Nat} : ¬Completes left low high [] := by
  cases left with
  | zero => simp [Completes]
  | succ left => simp [Completes]

/-- The character with the number `n` has the given first byte and the given further ones.  A number
is encoded in as few bytes as it can be. -/
def EncodedBy (n : Nat) (b : UInt8) (tail : List UInt8) : Prop :=
  b.toNat < 0x80 ∧ tail = [] ∧ n = b.toNat ∨
  (0xC2 ≤ b.toNat ∧ b.toNat < 0xE0) ∧ Completes 0 0x80 0xBF tail ∧ n = bits (b.toNat - 0xC0) tail ∨
  (0xE0 ≤ b.toNat ∧ b.toNat < 0xF0) ∧ Completes 1 0x80 0xBF tail ∧ 0x800 ≤ n ∧
    n = bits (b.toNat - 0xE0) tail ∨
  (0xF0 ≤ b.toNat ∧ b.toNat < 0xF5) ∧ Completes 2 0x80 0xBF tail ∧ 0x10000 ≤ n ∧
    n = bits (b.toNat - 0xF0) tail

theorem encodedBy_of_eq (h : utf8EncodeChar c = b :: tail) : EncodedBy c.toNat b tail := by
  have hscalar := isScalar_toNat c
  unfold IsScalar at hscalar
  rw [utf8EncodeChar_eq_iff, map_toNat_utf8EncodeChar] at h
  simp only [EncodedBy, Completes]
  generalize c.toNat = n at hscalar h ⊢
  split at h
  · obtain ⟨hb, htail⟩ := List.cons.inj h
    exact .inl ⟨by omega, List.map_eq_nil_iff.1 htail.symm, hb⟩
  split at h
  · obtain ⟨hb, htail⟩ := List.cons.inj h
    obtain ⟨x, rfl, hx⟩ : ∃ x, tail = [x] ∧ x.toNat = n % 64 + 0x80 := by
      simpa [List.map_eq_cons_iff, eq_comm] using htail
    refine .inr (.inl ⟨⟨by omega, by omega⟩, ⟨x, rfl, by omega, by omega⟩, ?_⟩)
    simp only [bits_cons, bits_nil]
    omega
  split at h
  · obtain ⟨hb, htail⟩ := List.cons.inj h
    obtain ⟨x, y, rfl, hx, hy⟩ : ∃ x y, tail = [x, y] ∧ x.toNat = n / 64 % 64 + 0x80 ∧
        y.toNat = n % 64 + 0x80 := by
      simpa [List.map_eq_cons_iff, eq_comm] using htail
    refine .inr (.inr (.inl ⟨⟨by omega, by omega⟩, ⟨x, _, rfl, by omega, by omega, y, rfl,
      by omega, by omega⟩, by omega, ?_⟩))
    simp only [bits_cons, bits_nil]
    omega
  · obtain ⟨hb, htail⟩ := List.cons.inj h
    obtain ⟨x, y, z, rfl, hx, hy, hz⟩ : ∃ x y z, tail = [x, y, z] ∧
        x.toNat = n / 4096 % 64 + 0x80 ∧ y.toNat = n / 64 % 64 + 0x80 ∧
          z.toNat = n % 64 + 0x80 := by
      simpa [List.map_eq_cons_iff, eq_comm] using htail
    refine .inr (.inr (.inr ⟨⟨by omega, by omega⟩, ⟨x, _, rfl, by omega, by omega, y, _, rfl,
      by omega, by omega, z, rfl, by omega, by omega⟩, by omega, ?_⟩))
    simp only [bits_cons, bits_nil]
    omega

theorem EncodedBy.eq (h : EncodedBy c.toNat b tail) : utf8EncodeChar c = b :: tail := by
  have hscalar := isScalar_toNat c
  unfold IsScalar at hscalar
  rw [utf8EncodeChar_eq_iff, map_toNat_utf8EncodeChar]
  simp only [EncodedBy, Completes] at h
  generalize c.toNat = n at hscalar h ⊢
  obtain ⟨hb, rfl, rfl⟩ | ⟨hb, ⟨x, rfl, hx⟩, hn⟩ | ⟨hb, ⟨x, _, rfl, hx, hx', y, rfl, hy⟩, hle, hn⟩ |
    ⟨hb, ⟨x, _, rfl, hx, hx', y, _, rfl, hy, hy', z, rfl, hz⟩, hle, hn⟩ := h
  · rw [if_pos (by omega)]
    rfl
  · simp only [bits_cons, bits_nil] at hn
    rw [if_neg (by omega), if_pos (by omega)]
    simp only [List.map_cons, List.map_nil, List.cons.injEq, and_true]
    omega
  · simp only [bits_cons, bits_nil] at hn
    rw [if_neg (by omega), if_neg (by omega), if_pos (by omega)]
    simp only [List.map_cons, List.map_nil, List.cons.injEq, and_true]
    omega
  · simp only [bits_cons, bits_nil] at hn
    rw [if_neg (by omega), if_neg (by omega), if_neg (by omega)]
    simp only [List.map_cons, List.map_nil, List.cons.injEq, and_true]
    omega

/-- The characters that begin with a byte, by the number of bytes that they have. -/
theorem utf8EncodeChar_eq_cons_iff :
    utf8EncodeChar c = b :: tail ↔ EncodedBy c.toNat b tail :=
  ⟨encodedBy_of_eq, EncodedBy.eq⟩

/-- A byte leads within a character if the machine then expects what ends the characters that it
begins. -/
theorem within_singleton {left low high value : Nat} (hlow : 0x80 ≤ low) (hle : low ≤ high)
    (hhigh : high ≤ 0xBF)
    (h : ∀ n tail, IsScalar n ∧ EncodedBy n b tail ↔
      Completes left low high tail ∧ n = bits value tail) :
    Within [b] left low high value := by
  have hencodes : ∀ c tail, utf8EncodeChar c = b :: tail ↔
      Completes left low high tail ∧ c = Char.ofNat (bits value tail) := by
    intro c tail
    have hiff : utf8EncodeChar c = b :: tail ↔
        Completes left low high tail ∧ c.toNat = bits value tail := by
      rw [utf8EncodeChar_eq_cons_iff, ← h, and_iff_right (isScalar_toNat c)]
    rw [hiff]
    refine and_congr_right fun htail => ?_
    exact ((h _ tail).2 ⟨htail, rfl⟩).1.eq_ofNat_iff.symm
  refine ⟨List.cons_ne_nil _ _, hlow, hle, hhigh, fun c hprefix => ?_, hencodes⟩
  obtain ⟨rest, hrest⟩ := hprefix
  cases hbytes : utf8EncodeChar c with
  | nil => exact String.utf8EncodeChar_ne_nil hbytes
  | cons x tail =>
    rw [hbytes, List.cons_append, List.cons.injEq, List.append_eq_nil_iff] at hrest
    obtain ⟨rfl, rfl, -⟩ := hrest
    exact not_completes_nil ((hencodes c []).1 hbytes).1

section
variable {low high value n : Nat}

theorem encodedBy_two (hb : 0xC2 ≤ b.toNat ∧ b.toNat < 0xE0) (hvalue : value = b.toNat - 0xC0) :
    IsScalar n ∧ EncodedBy n b tail ↔ Completes 0 0x80 0xBF tail ∧ n = bits value tail := by
  simp only [IsScalar, EncodedBy, Completes, ← hvalue]
  constructor
  · rintro ⟨-, h | ⟨-, htail, hn⟩ | h | h⟩
    · omega
    · exact ⟨htail, hn⟩
    · omega
    · omega
  · rintro ⟨⟨x, rfl, hx⟩, rfl⟩
    refine ⟨?_, .inr (.inl ⟨hb, ⟨x, rfl, hx⟩, rfl⟩)⟩
    simp only [bits_cons, bits_nil]
    omega

/-- The bounds of the second byte keep out the numbers with a shorter encoding, and the
surrogates. -/
theorem encodedBy_three (hb : 0xE0 ≤ b.toNat ∧ b.toNat < 0xF0) (hvalue : value = b.toNat - 0xE0)
    (hlow : b.toNat = 0xE0 ∧ low = 0xA0 ∨ b.toNat ≠ 0xE0 ∧ low = 0x80)
    (hhigh : b.toNat = 0xED ∧ high = 0x9F ∨ b.toNat ≠ 0xED ∧ high = 0xBF) :
    IsScalar n ∧ EncodedBy n b tail ↔ Completes 1 low high tail ∧ n = bits value tail := by
  simp only [IsScalar, EncodedBy, Completes, ← hvalue]
  constructor
  · rintro ⟨hscalar, h | h | ⟨-, ⟨x, _, rfl, hx, hx', y, rfl, hy⟩, hle, hn⟩ | h⟩
    · omega
    · omega
    · refine ⟨⟨x, _, rfl, ?_, ?_, y, rfl, hy⟩, hn⟩
      all_goals
        simp only [bits_cons, bits_nil] at hn
        omega
    · omega
  · rintro ⟨⟨x, _, rfl, hx, hx', y, rfl, hy⟩, rfl⟩
    refine ⟨?_, .inr (.inr (.inl ⟨hb, ⟨x, _, rfl, by omega, by omega, y, rfl, hy⟩, ?_, rfl⟩))⟩
    all_goals
      simp only [bits_cons, bits_nil]
      omega

/-- The bounds of the second byte keep out the numbers with a shorter encoding, and those beyond the
last character. -/
theorem encodedBy_four (hb : 0xF0 ≤ b.toNat ∧ b.toNat < 0xF5) (hvalue : value = b.toNat - 0xF0)
    (hlow : b.toNat = 0xF0 ∧ low = 0x90 ∨ b.toNat ≠ 0xF0 ∧ low = 0x80)
    (hhigh : b.toNat = 0xF4 ∧ high = 0x8F ∨ b.toNat ≠ 0xF4 ∧ high = 0xBF) :
    IsScalar n ∧ EncodedBy n b tail ↔ Completes 2 low high tail ∧ n = bits value tail := by
  simp only [IsScalar, EncodedBy, Completes, ← hvalue]
  constructor
  · rintro ⟨hscalar, h | h | h | ⟨-, ⟨x, _, rfl, hx, hx', y, _, rfl, hy, hy', z, rfl, hz⟩, hle, hn⟩⟩
    · omega
    · omega
    · omega
    · refine ⟨⟨x, _, rfl, ?_, ?_, y, _, rfl, hy, hy', z, rfl, hz⟩, hn⟩
      all_goals
        simp only [bits_cons, bits_nil] at hn
        omega
  · rintro ⟨⟨x, _, rfl, hx, hx', y, _, rfl, hy, hy', z, rfl, hz⟩, rfl⟩
    refine ⟨?_, .inr (.inr (.inr ⟨hb, ⟨x, _, rfl, by omega, by omega, y, _, rfl, hy, hy', z, rfl,
      hz⟩, ?_, rfl⟩))⟩
    all_goals
      simp only [bits_cons, bits_nil]
      omega

end

/-- The bytes that a character can begin with. -/
theorem lead_of_utf8EncodeChar_eq (h : utf8EncodeChar c = b :: tail) :
    b.toNat < 0x80 ∨ 0xC2 ≤ b.toNat ∧ b.toNat < 0xF5 := by
  rcases utf8EncodeChar_eq_cons_iff.1 h with ⟨hb, -⟩ | ⟨hb, -⟩ | ⟨hb, -⟩ | ⟨hb, -⟩
  · exact .inl hb
  · exact .inr ⟨hb.1, by omega⟩
  · exact .inr ⟨by omega, by omega⟩
  · exact .inr ⟨by omega, hb.2⟩

/-- What the machine may make of a byte at the beginning of a character: the character that is
encoded so, more that it expects, or nothing, if no character begins so. -/
def Makes (b : UInt8) : Option (Option Char × Expect) → Prop
  | none => ∀ c tail, utf8EncodeChar c ≠ b :: tail
  | some (none, .more left low high value) => Within [b] left low high value
  | some (none, .start) => False
  | some (some c, e) => utf8EncodeChar c = [b] ∧ e = .start

/-- Each range of first bytes is one row of the table of well-formed sequences. -/
theorem makes_begin (b : UInt8) : Makes b (begin b.toNat) := by
  have hb : b.toNat < 256 := b.toNat_lt
  unfold begin
  split
  · have hscalar : IsScalar b.toNat := .inl (by omega)
    exact ⟨utf8EncodeChar_eq_cons_iff.2 (.inl ⟨by omega, rfl, hscalar.toNat_ofNat⟩), rfl⟩
  split
  · intro c tail h
    have hlead := lead_of_utf8EncodeChar_eq h
    omega
  split
  · exact within_singleton (by omega) (by omega) (by omega)
      fun _ _ => encodedBy_two (by omega) rfl
  split
  · exact within_singleton (by omega) (by omega) (by omega)
      fun _ _ => encodedBy_three (by omega) (by omega) (by omega) (by omega)
  split
  · exact within_singleton (by omega) (by omega) (by omega)
      fun _ _ => encodedBy_three (by omega) (by omega) (by omega) (by omega)
  split
  · exact within_singleton (by omega) (by omega) (by omega)
      fun _ _ => encodedBy_three (by omega) (by omega) (by omega) (by omega)
  split
  · exact within_singleton (by omega) (by omega) (by omega)
      fun _ _ => encodedBy_four (by omega) (by omega) (by omega) (by omega)
  split
  · exact within_singleton (by omega) (by omega) (by omega)
      fun _ _ => encodedBy_four (by omega) (by omega) (by omega) (by omega)
  split
  · exact within_singleton (by omega) (by omega) (by omega)
      fun _ _ => encodedBy_four (by omega) (by omega) (by omega) (by omega)
  · intro c tail h
    have hlead := lead_of_utf8EncodeChar_eq h
    omega

/-! ## One byte -/

section
variable {left low high value : Nat} {e : Expect}

theorem exists_completes (hle : low ≤ high) (hhigh : high ≤ 0xBF) :
    ∃ tail, Completes left low high tail := by
  have hnat : (UInt8.ofNat low).toNat = low := by
    rw [UInt8.toNat_ofNat']
    omega
  induction left generalizing low high with
  | zero => exact ⟨_, UInt8.ofNat low, rfl, by omega, by omega⟩
  | succ left ih =>
    obtain ⟨rest, hrest⟩ := @ih 0x80 0xBF (by omega) (by omega) rfl
    exact ⟨_, UInt8.ofNat low, rest, rfl, by omega, by omega, hrest⟩

theorem Within.begins (h : Within piece left low high value) : Begins piece := by
  obtain ⟨tail, htail⟩ := @exists_completes left _ _ h.low_le h.le_high
  exact ⟨_, tail, ((h.encodes_iff _ tail).2 ⟨htail, rfl⟩).symm⟩

theorem completes_zero_cons {x : UInt8} :
    Completes 0 low high (x :: tail) ↔ low ≤ x.toNat ∧ x.toNat ≤ high ∧ tail = [] := by
  constructor
  · rintro ⟨y, hy, hlow, hhigh⟩
    cases hy
    exact ⟨hlow, hhigh, rfl⟩
  · rintro ⟨hlow, hhigh, rfl⟩
    exact ⟨x, rfl, hlow, hhigh⟩

theorem completes_succ_cons {x : UInt8} :
    Completes (left + 1) low high (x :: tail) ↔
      low ≤ x.toNat ∧ x.toNat ≤ high ∧ Completes left 0x80 0xBF tail := by
  constructor
  · rintro ⟨y, rest, hy, hrange⟩
    cases hy
    exact hrange
  · exact fun hrange => ⟨x, tail, rfl, hrange⟩

theorem Completes.head {x : UInt8} (h : Completes left low high (x :: tail)) :
    low ≤ x.toNat ∧ x.toNat ≤ high := by
  cases left with
  | zero =>
    obtain ⟨hlow, hhigh, -⟩ := completes_zero_cons.1 h
    exact ⟨hlow, hhigh⟩
  | succ left =>
    obtain ⟨hlow, hhigh, -⟩ := completes_succ_cons.1 h
    exact ⟨hlow, hhigh⟩

/-- A machine within a character gives up the bytes since the last one if the next byte does not go
on with it, or if there is none. -/
theorem Within.faulty (h : Within piece left low high value) {rest : List UInt8}
    (hrest : ∀ x ∈ rest.head?, ¬(low ≤ x.toNat ∧ x.toNat ≤ high)) : Faulty piece rest := by
  have hstuck : ∀ c tail x more, utf8EncodeChar c = piece ++ x :: tail → x :: more <+: rest →
      False := by
    rintro c tail x more hc ⟨_, rfl⟩
    exact hrest x rfl ((h.encodes_iff c _).1 hc).1.head
  refine ⟨fun c hchar => ?_, .inr ⟨h.ne_nil, h.begins⟩, fun other hother hbegins => ?_⟩
  · rcases List.prefix_or_prefix_of_prefix hchar (List.prefix_append piece rest) with hle | ⟨q, hq⟩
    · exact h.not_prefix c hle
    · rw [← hq, List.prefix_append_right_inj] at hchar
      cases q with
      | nil => exact not_completes_nil ((h.encodes_iff c []).1 hq.symm).1
      | cons x tail => exact hstuck c tail x tail hq.symm hchar
  · have hpiece := List.prefix_append piece rest
    rcases List.prefix_or_prefix_of_prefix hother hpiece with hle | ⟨q, rfl⟩
    · exact hle.length_le
    · rw [List.prefix_append_right_inj] at hother
      obtain ⟨c, tail, hc⟩ := hbegins
      cases q with
      | nil => simp
      | cons x more =>
        refine (hstuck c (more ++ tail) x more ?_ hother).elim
        rw [← hc, List.append_assoc, List.cons_append]

theorem faulty_singleton (h : ∀ c tail, utf8EncodeChar c ≠ b :: tail) (rest : List UInt8) :
    Faulty [b] rest := by
  refine ⟨fun c hchar => ?_, .inl rfl, fun other hother hbegins => ?_⟩
  · cases hbytes : utf8EncodeChar c with
    | nil => exact String.utf8EncodeChar_ne_nil hbytes
    | cons x tail =>
      rw [hbytes] at hchar
      obtain ⟨rfl, -⟩ := List.cons_prefix_cons.1 hchar
      exact h c tail hbytes
  · cases other with
    | nil => exact Nat.zero_le _
    | cons x more =>
      obtain ⟨rfl, -⟩ := List.cons_prefix_cons.1 hother
      obtain ⟨c, tail, hc⟩ := hbegins
      exact absurd hc.symm (h c (more ++ tail))

/-- What a byte leads to where a character is expected to begin. -/
theorem beginStep_cases (b : UInt8) :
    (∃ c, beginStep b.toNat = ([some c], .start) ∧ utf8EncodeChar c = [b]) ∨
      (∃ next, beginStep b.toNat = ([], next) ∧ next ≠ .start ∧ Reached [b] next) ∨
      beginStep b.toNat = ([none], .start) ∧ ∀ rest, Faulty [b] rest := by
  have hmakes := makes_begin b
  unfold beginStep
  generalize begin b.toNat = made at hmakes
  match made with
  | none => exact .inr (.inr ⟨rfl, faulty_singleton hmakes⟩)
  | some (none, .more left low high value) => exact .inr (.inl ⟨_, rfl, nofun, hmakes⟩)
  | some (some c, _) =>
    obtain ⟨hc, rfl⟩ := hmakes
    exact .inl ⟨c, rfl, hc⟩

/-- The last byte of a character. -/
theorem Within.last (h : Within piece 0 low high value) (hlow : low ≤ b.toNat)
    (hhigh : b.toNat ≤ high) :
    utf8EncodeChar (Char.ofNat (value * 64 + b.toNat % 64)) = piece ++ [b] :=
  (h.encodes_iff _ _).2 ⟨completes_zero_cons.2 ⟨hlow, hhigh, rfl⟩, rfl⟩

/-- A byte within a character that is not its last. -/
theorem Within.next (h : Within piece (left + 1) low high value) (hlow : low ≤ b.toNat)
    (hhigh : b.toNat ≤ high) :
    Within (piece ++ [b]) left 0x80 0xBF (value * 64 + b.toNat % 64) := by
  have hencodes : ∀ c tail, utf8EncodeChar c = piece ++ [b] ++ tail ↔
      Completes left 0x80 0xBF tail ∧ c = Char.ofNat (bits (value * 64 + b.toNat % 64) tail) := by
    intro c tail
    rw [List.append_assoc, List.singleton_append, h.encodes_iff, completes_succ_cons]
    simp only [hlow, hhigh, true_and]
    rfl
  refine ⟨by simp, by omega, by omega, by omega, fun c hprefix => ?_, hencodes⟩
  rcases List.prefix_concat_iff.1 hprefix with hall | hprefix
  · exact not_completes_nil ((hencodes c []).1 (by rw [hall, List.append_nil])).1
  · exact h.not_prefix c hprefix

/-- What a byte leads to, given the bytes since the last character. -/
theorem step_cases (h : Reached piece e) (b : UInt8) :
    (∃ c, step e b.toNat = ([some c], .start) ∧ utf8EncodeChar c = piece ++ [b]) ∨
      (∃ next, step e b.toNat = ([], next) ∧ next ≠ .start ∧ Reached (piece ++ [b]) next) ∨
      (e = .start ∧ step e b.toNat = ([none], .start) ∧ ∀ rest, Faulty [b] rest) ∨
      e ≠ .start ∧ (∀ rest, Faulty piece (b :: rest)) ∧
        step e b.toNat = (none :: (beginStep b.toNat).1, (beginStep b.toNat).2) := by
  match e, h with
  | .start, h =>
    obtain rfl : piece = [] := h
    rcases beginStep_cases b with hchar | hmore | hnone
    · exact .inl hchar
    · exact .inr (.inl hmore)
    · exact .inr (.inr (.inl ⟨rfl, hnone⟩))
  | .more left low high value, h =>
    replace h : Within piece left low high value := h
    by_cases hrange : low ≤ b.toNat ∧ b.toNat ≤ high
    · have hbool : (decide (low ≤ b.toNat) && decide (b.toNat ≤ high)) = true := by
        simpa using hrange
      cases left with
      | zero =>
        refine .inl ⟨_, ?_, h.last hrange.1 hrange.2⟩
        rw [step, if_pos hbool]
      | succ left =>
        have hnext := h.next hrange.1 hrange.2
        refine .inr (.inl ⟨.more left 0x80 0xBF _, ?_, nofun, hnext⟩)
        rw [step, if_pos hbool]
    · have hbool : ¬(decide (low ≤ b.toNat) && decide (b.toNat ≤ high)) = true := by
        simpa using hrange
      refine .inr (.inr (.inr ⟨nofun, fun rest => h.faulty ?_, ?_⟩))
      · rintro x ⟨⟩
        exact hrange
      · rw [step, if_neg hbool]

end

/-- After each byte the machine knows something. -/
theorem exists_reached_step {e : Expect} (h : Reached piece e) (b : UInt8) :
    ∃ piece', Reached piece' (step e b.toNat).2 := by
  have hstart : Reached [] .start := rfl
  rcases step_cases h b with ⟨c, hstep, -⟩ | ⟨next, hstep, -, hreached⟩ | ⟨-, hstep, -⟩ |
    ⟨-, -, hstep⟩
  · rw [hstep]
    exact ⟨_, hstart⟩
  · rw [hstep]
    exact ⟨_, hreached⟩
  · rw [hstep]
    exact ⟨_, hstart⟩
  · rw [hstep]
    rcases beginStep_cases b with ⟨c, hbegin, -⟩ | ⟨next, hbegin, -, hreached⟩ | ⟨hbegin, -⟩
    · rw [hbegin]
      exact ⟨_, hstart⟩
    · rw [hbegin]
      exact ⟨_, hreached⟩
    · rw [hbegin]
      exact ⟨_, hstart⟩

/-! ## A whole run -/

theorem decodeFrom_cons (e : Expect) (b : UInt8) (bs : List UInt8) :
    decodeFrom e (b :: bs) = (step e b.toNat).1 ++ decodeFrom (step e b.toNat).2 bs := rfl

/-- The text that the machine makes of bytes, given what it expects of the first of them. -/
def lossyFrom (e : Expect) (bs : List UInt8) : List Char :=
  (decodeFrom e bs).map (·.getD replacement)

theorem lossyFrom_cons {e next : Expect} {out : List (Option Char)}
    (h : step e b.toNat = (out, next)) :
    lossyFrom e (b :: bs) = out.map (·.getD replacement) ++ lossyFrom next bs := by
  rw [lossyFrom, decodeFrom_cons, h, List.map_append]
  rfl

/-- A machine that gives up goes on with the byte that did not fit. -/
theorem lossyFrom_cons_of_restart {e : Expect}
    (h : step e b.toNat = (none :: (beginStep b.toNat).1, (beginStep b.toNat).2)) :
    lossyFrom e (b :: bs) = replacement :: lossyFrom .start (b :: bs) := by
  rw [lossyFrom_cons h, @lossyFrom_cons _ _ .start _ _ rfl]
  rfl

/-- The machine reads the bytes, given those since the last character. -/
theorem reads_lossyFrom {e : Expect} (h : Reached piece e) (bs : List UInt8) :
    Reads (piece ++ bs) (lossyFrom e bs) := by
  induction bs generalizing piece e with
  | nil =>
    cases e with
    | start =>
      obtain rfl : piece = [] := h
      exact .nil
    | more left low high value =>
      have hfaulty : Faulty piece [] := Within.faulty h nofun
      exact .faulty hfaulty .nil
  | cons b bs ih =>
    have hrest : Reads bs (lossyFrom .start bs) := @ih [] .start rfl
    -- A machine that gives up begins anew, so what it reads from the beginning is needed.
    have hcases : ∀ {piece e}, Reached piece e →
        (e ≠ .start → Reads (b :: bs) (lossyFrom .start (b :: bs))) →
        Reads (piece ++ b :: bs) (lossyFrom e (b :: bs)) := by
      intro piece e h hanew
      rcases step_cases h b with ⟨c, hstep, hc⟩ | ⟨next, hstep, -, hreached⟩ |
        ⟨rfl, hstep, hfaulty⟩ | ⟨hne, hfaulty, hstep⟩
      · rw [lossyFrom_cons hstep, List.append_cons, ← hc]
        exact .char c hrest
      · rw [lossyFrom_cons hstep, List.append_cons]
        exact ih hreached
      · obtain rfl : piece = [] := h
        have hpiece : Reads ([b] ++ bs) (replacement :: lossyFrom .start bs) :=
          .faulty (hfaulty bs) hrest
        rwa [lossyFrom_cons hstep]
      · rw [lossyFrom_cons_of_restart hstep]
        exact .faulty (hfaulty bs) (hanew hne)
    exact hcases h fun _ => @hcases [] .start rfl (absurd rfl)

/-- The machine reads bytes as the encodings of characters and the faulty pieces between them. -/
theorem reads_decodeLossy (bs : List UInt8) : Reads bs (decodeLossy bs) :=
  @reads_lossyFrom [] .start rfl bs

/-- A machine goes on from an ASCII character as from the beginning. -/
theorem lossyFrom_cons_ascii {e : Expect} (h : Reached piece e) (hb : b.toNat < 0x80)
    (bs : List UInt8) :
    lossyFrom e (b :: bs) =
      (if e = .start then [] else [replacement]) ++ Char.ofNat b.toNat :: lossyFrom .start bs := by
  have hbegin : beginStep b.toNat = ([some (Char.ofNat b.toNat)], .start) := by
    rw [beginStep, begin, if_pos hb]
    rfl
  have hstart : lossyFrom .start (b :: bs) = Char.ofNat b.toNat :: lossyFrom .start bs :=
    @lossyFrom_cons _ _ .start _ _ hbegin
  cases e with
  | start => exact hstart
  | more left low high value =>
    have hlow : 0x80 ≤ low := Within.le_low h
    have hrange : ¬(decide (low ≤ b.toNat) && decide (b.toNat ≤ high)) = true := by
      simp only [Bool.and_eq_true, decide_eq_true_eq]
      omega
    rw [lossyFrom_cons_of_restart (by rw [step, if_neg hrange]), hstart]
    rfl

/-- Only the byte of an ASCII character leads to that character. -/
theorem eq_of_some_mem_step {e : Expect} (h : Reached piece e) (hc : utf8EncodeChar c = [b])
    {b' : UInt8} (hmem : some c ∈ (step e b'.toNat).1) : b' = b := by
  have hlast : ∀ {piece' : List UInt8} {c' : Char}, utf8EncodeChar c' = piece' ++ [b'] →
      some c ∈ [some c'] → b' = b := by
    intro piece' c' hc' hmem
    cases Option.some.inj (List.mem_singleton.1 hmem)
    have heq : piece' ++ [b'] = [] ++ [b] := hc'.symm.trans hc
    exact List.singleton_inj.1 (List.append_inj_right' heq rfl)
  rcases step_cases h b' with ⟨c', hstep, hc'⟩ | ⟨next, hstep, -⟩ | ⟨-, hstep, -⟩ | ⟨-, -, hstep⟩
  · rw [hstep] at hmem
    exact hlast hc' hmem
  · rw [hstep] at hmem
    cases hmem
  · rw [hstep] at hmem
    simp at hmem
  · rw [hstep] at hmem
    replace hmem : some c ∈ (beginStep b'.toNat).1 := by simpa using hmem
    rcases beginStep_cases b' with ⟨c', hbegin, hc'⟩ | ⟨next, hbegin, -⟩ | ⟨hbegin, -⟩
    · rw [hbegin] at hmem
      exact @hlast [] c' hc' hmem
    · rw [hbegin] at hmem
      cases hmem
    · rw [hbegin] at hmem
      simp at hmem

/-! ## There is one reading -/

/-- No encoding is the beginning of another. -/
theorem eq_of_encoded_prefix {c' : Char} {bs' : List UInt8}
    (h : utf8EncodeChar c ++ bs = utf8EncodeChar c' ++ bs') : c = c' := by
  have hdecode := congrArg (fun bytes => bytes.toByteArray.utf8DecodeChar? 0) h
  simp only [List.toByteArray_append, ByteArray.utf8DecodeChar?_utf8EncodeChar_append] at hdecode
  exact Option.some.inj hdecode

theorem Faulty.length_pos {rest : List UInt8} (h : Faulty piece rest) : 0 < piece.length := by
  rcases h.isPiece with hone | ⟨hne, -⟩
  · omega
  · exact List.length_pos_iff.2 hne

/-- Of two faulty pieces at the front of the same bytes none is longer. -/
theorem Faulty.length_le {piece' rest rest' : List UInt8} (h : Faulty piece rest)
    (h' : Faulty piece' rest') (heq : piece ++ rest = piece' ++ rest') :
    piece'.length ≤ piece.length := by
  rcases h'.isPiece with hone | ⟨-, hbegins⟩
  · rw [hone]
    exact h.length_pos
  · exact h.longest piece' (heq ▸ List.prefix_append piece' rest') hbegins

theorem Reads.unique_of_eq {bs' : List UInt8} {text' : List Char} (h : Reads bs text)
    (h' : Reads bs' text') (heq : bs = bs') : text = text' := by
  induction h generalizing bs' text' with
  | nil =>
    cases h' with
    | nil => rfl
    | char c h' => simp [String.utf8EncodeChar_ne_nil] at heq
    | faulty hfaulty h' =>
      have hpos := hfaulty.length_pos
      simp_all
  | char c h ih =>
    cases h' with
    | nil => simp [String.utf8EncodeChar_ne_nil] at heq
    | char c' h' =>
      obtain rfl := eq_of_encoded_prefix heq
      rw [ih h' (List.append_cancel_left heq)]
    | faulty hfaulty h' => exact absurd ⟨_, heq⟩ (hfaulty.no_char c)
  | faulty hfaulty h ih =>
    cases h' with
    | nil =>
      have hpos := hfaulty.length_pos
      simp_all
    | char c h' => exact absurd ⟨_, heq.symm⟩ (hfaulty.no_char c)
    | faulty hfaulty' h' =>
      have hlength := Nat.le_antisymm (hfaulty'.length_le hfaulty heq.symm)
        (hfaulty.length_le hfaulty' heq)
      rw [ih h' (List.append_inj heq hlength).2]

/-- Bytes are read in one way only. -/
theorem Reads.unique {text' : List Char} (h : Reads bs text) (h' : Reads bs text') :
    text = text' :=
  h.unique_of_eq h' rfl

/-- An encoded text is read as it was. -/
theorem reads_encode (text : List Char) : Reads (encode text) text := by
  induction text with
  | nil => exact .nil
  | cons c text ih => exact .char c ih

theorem decodeLossy_encode (text : List Char) : decodeLossy (encode text) = text :=
  (reads_decodeLossy _).unique (reads_encode text)

end Utf8
end Text
end ComponentCensus
