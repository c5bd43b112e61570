import Mathlib.Data.List.TakeWhile
import ComponentCensus.Proofs.Json.Grammar

/-!
# Decoding JSON texts

A decoder of JSON texts, and the proof that it is a decoder of JSON: it yields a value exactly for
the texts that stand for the value by the grammar.  So a text stands for one value at most.

* `char?`, `text?`, `number?`, `sequence?`, `value?` — what stands at the front of a text, and the
  text behind it.
* `decode?` — the value of a text.
* `decode?_eq_some_iff` — decoding is reading by the grammar.
-/

set_option autoImplicit false

namespace ComponentCensus
namespace Json

/-! ## The decoder -/

/-- The text without the blanks in front. -/
def skipBlanks (s : List Char) : List Char := s.dropWhile isBlank

/-- The unit of sixteen bits in four hexadecimal digits. -/
def unit? : List Char → Option (Nat × List Char)
  | a :: b :: c :: d :: s => (unitOf? [a, b, c, d]).map fun n => (n, s)
  | _ => none

/-- The character of a high surrogate and the low one in the escape that has to follow. -/
def pairChar? (high : Nat) : List Char → Option (Char × List Char)
  | '\\' :: 'u' :: s =>
    (unit? s).bind fun low =>
      if 0xDC00 ≤ low.1 ∧ low.1 < 0xE000 then some (Char.ofNat (pairValue high low.1), low.2)
      else none
  | _ => none

/-- The character of an escape in units of sixteen bits, given what is behind its first unit; a
surrogate stands for no character of its own. -/
def unitChar? (n : Nat) (s : List Char) : Option (Char × List Char) :=
  if 0xD800 ≤ n ∧ n < 0xDC00 then pairChar? n s
  else if 0xDC00 ≤ n ∧ n < 0xE000 then none
  else some (Char.ofNat n, s)

/-- The character of what follows a backslash. -/
def escaped? : List Char → Option (Char × List Char)
  | [] => none
  | e :: s =>
    if e = 'u' then (unit? s).bind fun n => unitChar? n.1 n.2
    else (shortEscapes.lookup e).map fun c => (c, s)

/-- A character of a string. -/
def char? : List Char → Option (Char × List Char)
  | [] => none
  | c :: s =>
    if c = '\\' then escaped? s
    else if c = '"' ∨ c.toNat < 32 then none
    else some (c, s)

/-- The characters of a string up to the quote that ends it. -/
def chars? : (fuel : Nat) → List Char → Option (List Char × List Char)
  | 0, _ => none
  | fuel + 1, s =>
    if s.head? = some '"' then some ([], s.tail)
    else (char? s).bind fun c => (chars? fuel c.2).map fun cs => (c.1 :: cs.1, cs.2)

/-- The string behind an opening quote. -/
def text? (s : List Char) : Option (String × List Char) :=
  (chars? (s.length + 1) s).map fun cs => (String.ofList cs.1, cs.2)

/-- A natural number. -/
def nat? (s : List Char) : Option (Nat × List Char) :=
  let ds := s.takeWhile Char.isDigit
  if IsNumeral ds then some (Nat.ofDigitChars 10 ds 0, s.dropWhile Char.isDigit) else none

/-- A whole number. -/
def number? (s : List Char) : Option (Int × List Char) :=
  if s.head? = some '-' then (nat? s.tail).map fun n => (-(n.1 : Int), n.2)
  else (nat? s).map fun n => ((n.1 : Int), n.2)

/-- A word. -/
def word? (word : List Char) (s : List Char) : Option (List Char) :=
  if word.isPrefixOf s then some (s.drop word.length) else none

section
variable {α : Type}

/-- Parts with commas between them, up to the bracket that closes them. -/
def parts? (read : List Char → Option (α × List Char)) (close : Char) :
    (fuel : Nat) → List Char → Option (List α × List Char)
  | 0, _ => none
  | fuel + 1, s =>
    (read (skipBlanks s)).bind fun x =>
      if (skipBlanks x.2).head? = some close then some ([x.1], (skipBlanks x.2).tail)
      else if (skipBlanks x.2).head? = some ',' then
        (parts? read close fuel (skipBlanks x.2).tail).map fun xs => (x.1 :: xs.1, xs.2)
      else none

/-- The parts behind an opening bracket. -/
def sequence? (read : List Char → Option (α × List Char)) (close : Char) (s : List Char) :
    Option (List α × List Char) :=
  if (skipBlanks s).head? = some close then some ([], (skipBlanks s).tail)
  else parts? read close (s.length + 1) s

end

/-- A member of an object. -/
def member? (read : List Char → Option (Json × List Char)) (s : List Char) :
    Option ((String × Json) × List Char) :=
  if s.head? = some '"' then
    (text? s.tail).bind fun k =>
      if (skipBlanks k.2).head? = some ':' then
        (read (skipBlanks (skipBlanks k.2).tail)).map fun v => ((k.1, v.1), v.2)
      else none
  else none

/-- A value; values within it are read with less fuel. -/
def value? : (fuel : Nat) → List Char → Option (Json × List Char)
  | 0, _ => none
  | _ + 1, [] => none
  | fuel + 1, c :: s =>
    if c = '"' then (text? s).map fun t => (text t.1, t.2)
    else if c = '[' then (sequence? (value? fuel) ']' s).map fun vs => (list vs.1, vs.2)
    else if c = '{' then
      (sequence? (member? (value? fuel)) '}' s).map fun members => (object members.1, members.2)
    else if c = 'n' then (word? "ull".toList s).map fun s => (null, s)
    else if c = 't' then (word? "rue".toList s).map fun s => (bool true, s)
    else if c = 'f' then (word? "alse".toList s).map fun s => (bool false, s)
    else (number? (c :: s)).map fun n => (int n.1, n.2)

/-- The value of a text. -/
def decode? (text : String) : Option Json :=
  (value? (text.toList.length + 1) (skipBlanks text.toList)).bind fun v =>
    if skipBlanks v.2 = [] then some v.1 else none

/-! ## Strings -/

section
variable {c : Char} {n : Nat} {s t r : List Char}

theorem hexValue?_lt {v : Nat} (h : hexValue? c = some v) : v < 16 := by
  simp only [hexValue?, Bool.and_eq_true, decide_eq_true_eq] at h
  split at h
  · cases h
    omega
  · split at h
    · cases h
      omega
    · split at h
      · cases h
        omega
      · cases h

/-- A unit is written in four digits. -/
theorem unitOf?_eq_some (h : unitOf? t = some n) :
    n < 0x10000 ∧ ∃ a b c d, t = [a, b, c, d] := by
  unfold unitOf? at h
  split at h
  · rename_i a b c d
    simp only [Option.bind_eq_bind, Option.bind_eq_some_iff, Option.pure_def,
      Option.some.injEq] at h
    obtain ⟨va, ha, vb, hb, vc, hc, vd, hd, rfl⟩ := h
    have ha := hexValue?_lt ha
    have hb := hexValue?_lt hb
    have hc := hexValue?_lt hc
    have hd := hexValue?_lt hd
    exact ⟨by omega, a, b, c, d, rfl⟩
  · cases h

theorem unit?_eq_some_iff : unit? s = some (n, r) ↔ ∃ t, s = t ++ r ∧ unitOf? t = some n := by
  constructor
  · intro h
    unfold unit? at h
    split at h
    · obtain ⟨m, hm, heq⟩ := Option.map_eq_some_iff.1 h
      cases heq
      exact ⟨_, rfl, hm⟩
    · cases h
  · rintro ⟨t, rfl, ht⟩
    obtain ⟨-, a, b, c, d, rfl⟩ := unitOf?_eq_some ht
    simp [unit?, ht]

theorem toNat_ofNat (h : n.isValidChar) : (Char.ofNat n).toNat = n := by
  rw [Char.ofNat, dif_pos h]
  rfl

/-- No character is a surrogate. -/
theorem toNat_cases (c : Char) : c.toNat < 0xD800 ∨ 0xE000 ≤ c.toNat ∧ c.toNat < 0x110000 := by
  have h := c.valid
  simp only [UInt32.isValidChar, Nat.isValidChar] at h
  simp only [Char.toNat]
  omega

theorem pairChar?_sound {u : List Char} (hu : unitOf? u = some n) (hhigh : 0xD800 ≤ n ∧ n < 0xDC00)
    (h : pairChar? n s = some (c, r)) :
    ∃ t, s = t ++ r ∧ Spells ('\\' :: 'u' :: u ++ t) c := by
  unfold pairChar? at h
  split at h
  · obtain ⟨⟨low, s'⟩, hlow, hchar⟩ := Option.bind_eq_some_iff.1 h
    obtain ⟨v, rfl, hv⟩ := unit?_eq_some_iff.1 hlow
    split at hchar
    · rename_i hrange
      obtain ⟨rfl, rfl⟩ := Prod.mk.inj (Option.some.inj hchar)
      refine ⟨'\\' :: 'u' :: v, rfl, .pair hu hv hhigh hrange (toNat_ofNat (.inr ?_))⟩
      unfold pairValue
      omega
    · cases hchar
  · cases h

theorem unitChar?_sound {u : List Char} (hu : unitOf? u = some n)
    (h : unitChar? n s = some (c, r)) :
    ∃ t, s = t ++ r ∧ Spells ('\\' :: 'u' :: u ++ t) c := by
  obtain ⟨hlt, -⟩ := unitOf?_eq_some hu
  unfold unitChar? at h
  split at h
  · rename_i hhigh
    exact pairChar?_sound hu hhigh h
  · rename_i hhigh
    split at h
    · cases h
    · rename_i hlow
      cases h
      refine ⟨[], rfl, ?_⟩
      rw [List.append_nil]
      exact .unit (by rw [toNat_ofNat (by simp only [Nat.isValidChar]; omega), hu])

theorem escaped?_sound (h : escaped? s = some (c, r)) : ∃ t, s = t ++ r ∧ Spells ('\\' :: t) c := by
  cases s with
  | nil => cases h
  | cons e s =>
    rw [escaped?] at h
    split at h
    · rename_i hu
      subst hu
      obtain ⟨⟨n, s'⟩, hn, hchar⟩ := Option.bind_eq_some_iff.1 h
      obtain ⟨u, rfl, hu⟩ := unit?_eq_some_iff.1 hn
      obtain ⟨t, rfl, hc⟩ := unitChar?_sound hu hchar
      exact ⟨'u' :: (u ++ t), by simp, hc⟩
    · obtain ⟨c', hc', heq⟩ := Option.map_eq_some_iff.1 h
      cases heq
      obtain ⟨l₁, l₂, hl, -⟩ := List.lookup_eq_some_iff.1 hc'
      exact ⟨[e], rfl, .short (hl ▸ by simp)⟩

theorem char?_sound (h : char? s = some (c, r)) : ∃ t, s = t ++ r ∧ Spells t c := by
  cases s with
  | nil => cases h
  | cons a s =>
    rw [char?] at h
    split at h
    · rename_i hescape
      subst hescape
      obtain ⟨t, rfl, ht⟩ := escaped?_sound h
      exact ⟨_, rfl, ht⟩
    · rename_i hescape
      split at h
      · cases h
      · rename_i hplain
        cases h
        rw [not_or, Nat.not_lt] at hplain
        exact ⟨[c], rfl, .plain hplain.2 hplain.1 hescape⟩

theorem char?_complete (h : Spells t c) (r : List Char) : char? (t ++ r) = some (c, r) := by
  have hvalid := toNat_cases c
  cases h with
  | plain hcontrol hquote hescape =>
    rw [List.singleton_append, char?, if_neg hescape, if_neg]
    rw [not_or, Nat.not_lt]
    exact ⟨hquote, hcontrol⟩
  | @short e _ h =>
    have hall : ∀ p ∈ shortEscapes, p.1 ≠ 'u' ∧ shortEscapes.lookup p.1 = some p.2 := by decide
    obtain ⟨he, hlookup⟩ := hall _ h
    simp only at he hlookup
    simp [char?, escaped?, he, hlookup]
  | @unit u _ h =>
    have hunit : unit? (u ++ r) = some (c.toNat, r) := unit?_eq_some_iff.2 ⟨u, rfl, h⟩
    have hchar : unitChar? c.toNat r = some (c, r) := by
      rw [unitChar?, if_neg (by omega), if_neg (by omega), Char.ofNat_toNat]
    simp [char?, escaped?, hunit, hchar]
  | @pair u v _ high low hu hv hhigh hlow hc =>
    have hunit : unit? (u ++ '\\' :: 'u' :: (v ++ r)) =
        some (high, '\\' :: 'u' :: (v ++ r)) := unit?_eq_some_iff.2 ⟨u, rfl, hu⟩
    have hunit' : unit? (v ++ r) = some (low, r) := unit?_eq_some_iff.2 ⟨v, rfl, hv⟩
    have hchar : unitChar? high ('\\' :: 'u' :: (v ++ r)) = some (c, r) := by
      simp [unitChar?, pairChar?, hhigh, hunit', hlow, ← hc, Char.ofNat_toNat]
    simp [char?, escaped?, hunit, hchar]

/-- A character of a string does not start with the quote that ends the string. -/
theorem Spells.head (h : Spells t c) : ∃ a u, t = a :: u ∧ a ≠ '"' := by
  cases h with
  | plain _ hquote _ => exact ⟨_, _, rfl, hquote⟩
  | short _ => exact ⟨_, _, rfl, by decide⟩
  | unit _ => exact ⟨_, _, rfl, by decide⟩
  | pair _ _ _ _ _ => exact ⟨_, _, rfl, by decide⟩

theorem chars?_sound {fuel : Nat} {cs : List Char} (h : chars? fuel s = some (cs, r)) :
    ∃ t, s = t ++ '"' :: r ∧ Spelled t cs := by
  induction fuel generalizing s cs with
  | zero => cases h
  | succ fuel ih =>
    rw [chars?] at h
    split at h
    · rename_i hquote
      cases h
      obtain ⟨s', rfl⟩ := List.head?_eq_some_iff.1 hquote
      exact ⟨[], rfl, .nil⟩
    · obtain ⟨⟨c, s'⟩, hc, htail⟩ := Option.bind_eq_some_iff.1 h
      obtain ⟨⟨cs', r'⟩, hcs, heq⟩ := Option.map_eq_some_iff.1 htail
      cases heq
      obtain ⟨t, rfl, ht⟩ := char?_sound hc
      obtain ⟨u, rfl, hu⟩ := ih hcs
      exact ⟨t ++ u, by simp, .cons ht hu⟩

theorem chars?_complete {fuel : Nat} {cs : List Char} (h : Spelled t cs) (hfuel : t.length < fuel)
    (r : List Char) : chars? fuel (t ++ '"' :: r) = some (cs, r) := by
  induction h generalizing fuel with
  | nil =>
    obtain ⟨fuel, rfl⟩ := Nat.exists_eq_add_of_lt hfuel
    simp [chars?]
  | @cons t u c cs hc _ ih =>
    obtain ⟨a, v, rfl, ha⟩ := hc.head
    cases fuel with
    | zero => omega
    | succ fuel =>
      simp only [List.cons_append, List.length_cons, List.length_append] at hfuel
      rw [chars?, if_neg (by simpa using ha), List.append_assoc, char?_complete hc,
        Option.bind_some, ih (by omega)]
      rfl

theorem text?_sound {x : String} (h : text? s = some (x, r)) :
    ∃ t, s = t ++ '"' :: r ∧ Spelled t x.toList := by
  obtain ⟨⟨cs, s'⟩, hcs, heq⟩ := Option.map_eq_some_iff.1 h
  cases heq
  rw [String.toList_ofList]
  exact chars?_sound hcs

theorem text?_complete {x : String} (h : Spelled t x.toList) (r : List Char) :
    text? (t ++ '"' :: r) = some (x, r) := by
  rw [text?, chars?_complete h (by simp only [List.length_append]; omega), Option.map_some]
  simp

end

/-! ## Numbers -/

/-- The text does not go on with a digit. -/
def Ends (r : List Char) : Prop := ∀ c ∈ r.head?, c.isDigit = false

section
variable {s t r : List Char}

theorem nat?_sound {n : Nat} (h : nat? s = some (n, r)) :
    ∃ ds, s = ds ++ r ∧ IsNumeral ds ∧ n = Nat.ofDigitChars 10 ds 0 := by
  unfold nat? at h
  dsimp only at h
  split at h
  · rename_i hnumeral
    cases h
    exact ⟨_, List.takeWhile_append_dropWhile.symm, hnumeral, rfl⟩
  · cases h

theorem nat?_complete {ds : List Char} (h : IsNumeral ds) (hr : Ends r) :
    nat? (ds ++ r) = some (Nat.ofDigitChars 10 ds 0, r) := by
  have hdigits : ∀ d ∈ ds, Char.isDigit d = true := h.2.1
  have htake : (ds ++ r).takeWhile Char.isDigit = ds := by
    rw [List.takeWhile_append_of_pos hdigits]
    cases r with
    | nil => simp
    | cons c r => simp [hr c rfl]
  have hdrop : (ds ++ r).dropWhile Char.isDigit = r := by
    rw [List.dropWhile_append_of_pos hdigits]
    cases r with
    | nil => rfl
    | cons c r => simp [hr c rfl]
  simp only [nat?, htake, hdrop, h, if_true]

theorem IsNumeral.head {ds : List Char} (h : IsNumeral ds) :
    ∃ d u, ds = d :: u ∧ d.isDigit = true := by
  obtain ⟨hne, hdigits, -⟩ := h
  cases ds with
  | nil => exact absurd rfl hne
  | cons d u => exact ⟨d, u, rfl, hdigits d List.mem_cons_self⟩

theorem number?_sound {n : Int} (h : number? s = some (n, r)) :
    ∃ t, s = t ++ r ∧ WritesInt n t := by
  unfold number? at h
  split at h
  · rename_i hminus
    obtain ⟨s', rfl⟩ := List.head?_eq_some_iff.1 hminus
    obtain ⟨⟨m, r'⟩, hm, heq⟩ := Option.map_eq_some_iff.1 h
    cases heq
    obtain ⟨ds, hs, hds, rfl⟩ := nat?_sound hm
    rw [List.tail_cons] at hs
    exact ⟨'-' :: ds, by rw [hs]; rfl, .inr ⟨ds, rfl, hds, rfl⟩⟩
  · obtain ⟨⟨m, r'⟩, hm, heq⟩ := Option.map_eq_some_iff.1 h
    cases heq
    obtain ⟨ds, rfl, hds, rfl⟩ := nat?_sound hm
    exact ⟨ds, rfl, .inl ⟨hds, rfl⟩⟩

theorem number?_complete {n : Int} (h : WritesInt n t) (hr : Ends r) :
    number? (t ++ r) = some (n, r) := by
  obtain ⟨hds, rfl⟩ | ⟨ds, rfl, hds, rfl⟩ := h
  · obtain ⟨d, u, rfl, hd⟩ := hds.head
    have hminus : d ≠ '-' := by
      rintro rfl
      exact absurd hd (by decide)
    rw [number?, if_neg (by simpa using hminus), nat?_complete hds hr]
    rfl
  · rw [List.cons_append, number?, List.head?_cons, if_pos rfl, List.tail_cons,
      nat?_complete hds hr]
    rfl

/-! ## Words -/

theorem word?_eq_some_iff {word : List Char} : word? word s = some r ↔ s = word ++ r := by
  unfold word?
  constructor
  · intro h
    split at h
    · rename_i hprefix
      obtain ⟨r', rfl⟩ := List.isPrefixOf_iff_prefix.1 hprefix
      cases h
      rw [List.drop_left]
    · cases h
  · rintro rfl
    rw [if_pos (List.isPrefixOf_iff_prefix.2 (List.prefix_append word r)), List.drop_left]

end

/-! ## Blanks -/

section
variable {a s r : List Char} {c : Char}

theorem exists_blanks (s : List Char) : ∃ a, s = a ++ skipBlanks s ∧ Blanks a :=
  ⟨s.takeWhile isBlank, List.takeWhile_append_dropWhile.symm, fun _ hc => List.mem_takeWhile_imp hc⟩

theorem skipBlanks_append (ha : Blanks a) (s : List Char) :
    skipBlanks (a ++ s) = skipBlanks s := by
  unfold skipBlanks
  exact List.dropWhile_append_of_pos ha

theorem skipBlanks_cons (hc : isBlank c = false) (s : List Char) :
    skipBlanks (c :: s) = c :: s := by
  rw [skipBlanks, List.dropWhile_cons, hc]
  rfl

theorem skipBlanks_eq_nil_iff : skipBlanks s = [] ↔ Blanks s := by
  simp [skipBlanks, Blanks, List.dropWhile_eq_nil_iff]

theorem isDigit_of_isBlank (h : isBlank c = true) : c.isDigit = false := by
  simp only [isBlank, Bool.or_eq_true, decide_eq_true_eq] at h
  rcases h with ((rfl | rfl) | rfl) | rfl <;> decide

theorem ends_append (ha : Blanks a) (hc : c.isDigit = false) (r : List Char) :
    Ends (a ++ c :: r) := by
  intro d hd
  cases a with
  | nil =>
    cases hd
    exact hc
  | cons b a =>
    cases hd
    exact isDigit_of_isBlank (ha d List.mem_cons_self)

end

/-! ## Sequences -/

/-- The text starts with no blank and with no closing bracket. -/
def Starts (t : List Char) : Prop :=
  ∃ c u, t = c :: u ∧ isBlank c = false ∧ c ≠ ']' ∧ c ≠ '}'

/-- A reader of what can be written as `R` says, up to a length. -/
structure Reads {α : Type} (read : List Char → Option (α × List Char))
    (R : α → List Char → Prop) (n : Nat) : Prop where
  sound : ∀ {s x r}, read s = some (x, r) → ∃ t, s = t ++ r ∧ R x t
  complete : ∀ {x t r}, R x t → t.length < n → Ends r → read (t ++ r) = some (x, r)
  starts : ∀ {x t}, R x t → Starts t

section
variable {α : Type} {read : List Char → Option (α × List Char)} {R : α → List Char → Prop}
  {n fuel : Nat} {close : Char} {s t r : List Char} {xs : List α}

theorem Reads.parts?_sound (hread : Reads read R n) (h : parts? read close fuel s = some (xs, r)) :
    ∃ t, s = t ++ close :: r ∧ Sequence (xs.map R) t ∧ xs ≠ [] := by
  induction fuel generalizing s xs with
  | zero => cases h
  | succ fuel ih =>
    obtain ⟨⟨x, s₁⟩, hx, hrest⟩ := Option.bind_eq_some_iff.1 h
    obtain ⟨a, hs, ha⟩ := exists_blanks s
    obtain ⟨u, hu, hR⟩ := hread.sound hx
    obtain ⟨b, hs₁, hb⟩ := exists_blanks s₁
    simp only at hrest
    split at hrest
    · rename_i hclose
      obtain ⟨s₂, hs₂⟩ := List.head?_eq_some_iff.1 hclose
      rw [hs₂, List.tail_cons] at hrest
      cases hrest
      refine ⟨a ++ (u ++ (b ++ [])), ?_, ⟨a, u, b, [], rfl, ha, hR, hb, .inl ⟨rfl, rfl⟩⟩, by simp⟩
      rw [hs, hu, hs₁, hs₂]
      simp
    · split at hrest
      · rename_i hcomma
        obtain ⟨s₂, hs₂⟩ := List.head?_eq_some_iff.1 hcomma
        obtain ⟨⟨ys, r'⟩, hys, heq⟩ := Option.map_eq_some_iff.1 hrest
        cases heq
        obtain ⟨t, ht, hsequence, hne⟩ := ih hys
        refine ⟨a ++ (u ++ (b ++ ',' :: t)), ?_, ⟨a, u, b, _, rfl, ha, hR, hb,
          .inr ⟨by simpa using hne, t, rfl, hsequence⟩⟩, by simp⟩
        rw [hs₂, List.tail_cons] at ht
        rw [hs, hu, hs₁, hs₂, ht]
        simp
      · cases hrest

theorem Reads.parts?_complete (hread : Reads read R n) (hclose : close = ']' ∨ close = '}')
    (h : Sequence (xs.map R) t) (hne : xs ≠ []) (ht : t.length < n) (hfuel : t.length < fuel)
    (r : List Char) : parts? read close fuel (t ++ close :: r) = some (xs, r) := by
  have hblank : isBlank close = false := by rcases hclose with rfl | rfl <;> rfl
  have hdigit : close.isDigit = false := by rcases hclose with rfl | rfl <;> rfl
  have hcomma : ',' ≠ close := by rcases hclose with rfl | rfl <;> decide
  induction xs generalizing t fuel with
  | nil => exact absurd rfl hne
  | cons x xs ih =>
    obtain ⟨a, u, b, rest, rfl, ha, hR, hb, htail⟩ := h
    obtain ⟨c, v, rfl, hc, -⟩ := hread.starts hR
    simp only [List.length_append] at ht hfuel
    cases fuel with
    | zero => omega
    | succ fuel =>
      have hskip : ∀ s, skipBlanks (a ++ (c :: v ++ s)) = c :: v ++ s := fun s => by
        rw [skipBlanks_append ha, List.cons_append, skipBlanks_cons hc]
      rw [parts?, List.append_assoc, List.append_assoc, List.append_assoc, hskip]
      obtain ⟨hxs, rfl⟩ | ⟨hxs, rest', rfl, hsequence⟩ := htail
      · obtain rfl := List.map_eq_nil_iff.1 hxs
        rw [List.nil_append, hread.complete hR (by omega) (ends_append hb hdigit r),
          Option.bind_some]
        simp only [skipBlanks_append hb, skipBlanks_cons hblank, List.head?_cons, List.tail_cons,
          if_true]
      · rw [List.length_cons (a := ',')] at ht hfuel
        have hx : read (c :: v ++ (b ++ ',' :: (rest' ++ close :: r))) =
            some (x, b ++ ',' :: (rest' ++ close :: r)) :=
          hread.complete hR (by omega) (ends_append hb (by decide) _)
        have hrest : parts? read close fuel (rest' ++ close :: r) = some (xs, r) :=
          ih hsequence (by simpa using hxs) (by omega) (by omega)
        rw [List.cons_append (a := ','), hx, Option.bind_some]
        simp only [skipBlanks_append hb, skipBlanks_cons (c := ',') (by decide), List.head?_cons,
          List.tail_cons, Option.some.injEq, hcomma, if_false, if_true, hrest, Option.map_some]

theorem Reads.sequence?_sound (hread : Reads read R n)
    (h : sequence? read close s = some (xs, r)) :
    ∃ t, s = t ++ close :: r ∧ Sequence (xs.map R) t := by
  unfold sequence? at h
  split at h
  · rename_i hclose
    obtain ⟨s', hs'⟩ := List.head?_eq_some_iff.1 hclose
    obtain ⟨a, hs, ha⟩ := exists_blanks s
    cases h
    exact ⟨a, by rw [hs', List.tail_cons]; rw [hs'] at hs; exact hs, ha⟩
  · obtain ⟨t, hs, hsequence, -⟩ := hread.parts?_sound h
    exact ⟨t, hs, hsequence⟩

theorem Reads.sequence?_complete (hread : Reads read R n) (hclose : close = ']' ∨ close = '}')
    (h : Sequence (xs.map R) t) (ht : t.length < n) (r : List Char) :
    sequence? read close (t ++ close :: r) = some (xs, r) := by
  have hblank : isBlank close = false := by rcases hclose with rfl | rfl <;> rfl
  cases xs with
  | nil =>
    rw [sequence?, skipBlanks_append h, skipBlanks_cons hblank, List.head?_cons, if_pos rfl,
      List.tail_cons]
  | cons x xs =>
    have hhead : (skipBlanks (t ++ close :: r)).head? ≠ some close := by
      obtain ⟨a, u, b, rest, rfl, ha, hR, -⟩ := h
      obtain ⟨c, v, rfl, hc, hbracket, hbrace⟩ := hread.starts hR
      rw [List.append_assoc, skipBlanks_append ha, List.cons_append, List.cons_append,
        skipBlanks_cons hc, List.head?_cons]
      rcases hclose with rfl | rfl
      · simpa using hbracket
      · simpa using hbrace
    rw [sequence?, if_neg hhead]
    refine hread.parts?_complete hclose h (by simp) ht ?_ r
    simp only [List.length_append]
    omega

end

/-! ## Values -/

theorem starts_of_digit {c : Char} (h : c.isDigit = true) (u : List Char) : Starts (c :: u) := by
  refine ⟨c, u, rfl, ?_, ?_, ?_⟩
  · by_contra hblank
    rw [Bool.not_eq_false] at hblank
    exact absurd (isDigit_of_isBlank hblank) (by simp [h])
  · rintro rfl
    exact absurd h (by decide)
  · rintro rfl
    exact absurd h (by decide)

theorem starts_of_writes {v : Json} {t : List Char} (h : Writes v t) : Starts t := by
  cases v with
  | null =>
    rw [Writes] at h
    exact ⟨'n', _, h, by decide⟩
  | bool b =>
    rw [Writes] at h
    cases b with
    | true => exact ⟨'t', _, h, by decide⟩
    | false => exact ⟨'f', _, h, by decide⟩
  | int n =>
    rw [Writes] at h
    obtain ⟨hds, -⟩ | ⟨ds, rfl, -⟩ := h
    · obtain ⟨d, u, rfl, hd⟩ := hds.head
      exact starts_of_digit hd u
    · exact ⟨'-', ds, rfl, by decide⟩
  | text s =>
    rw [Writes] at h
    obtain ⟨u, rfl, -⟩ := h
    exact ⟨'"', _, rfl, by decide⟩
  | list vs =>
    rw [Writes] at h
    obtain ⟨u, rfl, -⟩ := h
    exact ⟨'[', _, rfl, by decide⟩
  | object members =>
    rw [Writes] at h
    obtain ⟨u, rfl, -⟩ := h
    exact ⟨'\x7b', _, rfl, by decide⟩

section
variable {read : List Char → Option (Json × List Char)} {n : Nat}

theorem Reads.member? (hread : Reads read Writes n) : Reads (member? read) WritesMember n where
  sound := by
    intro s m r h
    unfold Json.member? at h
    split at h
    · rename_i hquote
      obtain ⟨s₁, rfl⟩ := List.head?_eq_some_iff.1 hquote
      obtain ⟨⟨k, s₂⟩, hk, hrest⟩ := Option.bind_eq_some_iff.1 h
      obtain ⟨u, hs₁, hu⟩ := text?_sound hk
      obtain ⟨a, hs₂, ha⟩ := exists_blanks s₂
      split at hrest
      · rename_i hcolon
        obtain ⟨s₃, hs₃⟩ := List.head?_eq_some_iff.1 hcolon
        obtain ⟨⟨v, r'⟩, hv, heq⟩ := Option.map_eq_some_iff.1 hrest
        cases heq
        simp only [hs₃, List.tail_cons] at hs₁ hs₂ hv
        obtain ⟨b, hb, hblanks⟩ := exists_blanks s₃
        obtain ⟨w, hw, hwrites⟩ := hread.sound hv
        refine ⟨'"' :: (u ++ ['"']) ++ (a ++ ':' :: (b ++ w)), ?_,
          _, a, b, w, rfl, ⟨u, rfl, hu⟩, ha, hblanks, hwrites⟩
        rw [hs₁, hs₂, hb, hw]
        simp
      · cases hrest
    · cases h
  complete := by
    intro m t r h ht hr
    obtain ⟨name, a, b, w, rfl, ⟨u, rfl, hu⟩, ha, hb, hw⟩ := h
    obtain ⟨c, v, rfl, hc, -⟩ := starts_of_writes hw
    simp only [List.length_append, List.length_cons] at ht
    have hvalue : read (c :: v ++ r) = some (m.2, r) :=
      hread.complete hw (by simp only [List.length_cons]; omega) hr
    have hskip : skipBlanks (c :: v ++ r) = c :: v ++ r := skipBlanks_cons hc _
    have htext : '"' :: (u ++ ['"']) ++ (a ++ ':' :: (b ++ c :: v)) ++ r =
        '"' :: (u ++ '"' :: (a ++ ':' :: (b ++ (c :: v ++ r)))) := by simp
    rw [htext, Json.member?, List.head?_cons, if_pos rfl, List.tail_cons, text?_complete hu,
      Option.bind_some, skipBlanks_append ha, skipBlanks_cons (by decide), List.head?_cons,
      if_pos rfl, List.tail_cons, skipBlanks_append hb, hskip, hvalue]
    rfl
  starts := by
    rintro m t ⟨name, a, b, w, rfl, ⟨u, rfl, -⟩, -⟩
    exact ⟨'"', _, rfl, by decide⟩

end

theorem map_word?_sound {c : Char} {word s r : List Char} {w v : Json} (hw : Writes w (c :: word))
    (h : (word? word s).map (fun s => (w, s)) = some (v, r)) :
    ∃ t, c :: s = t ++ r ∧ Writes v t := by
  obtain ⟨r', hr', heq⟩ := Option.map_eq_some_iff.1 h
  cases heq
  rw [word?_eq_some_iff.1 hr']
  exact ⟨c :: word, rfl, hw⟩

theorem map_word?_complete (word : List Char) (w : Json) (r : List Char) :
    (word? word (word ++ r)).map (fun s => (w, s)) = some (w, r) := by
  rw [word?_eq_some_iff.2 rfl, Option.map_some]

theorem value?_sound {fuel : Nat} (hread : Reads (value? fuel) Writes fuel) {s r : List Char}
    {v : Json} (h : value? (fuel + 1) s = some (v, r)) : ∃ t, s = t ++ r ∧ Writes v t := by
  cases s with
  | nil => cases h
  | cons c s =>
    rw [value?] at h
    split at h
    · rename_i hc
      subst hc
      obtain ⟨⟨x, r'⟩, hx, heq⟩ := Option.map_eq_some_iff.1 h
      cases heq
      obtain ⟨u, rfl, hu⟩ := text?_sound hx
      exact ⟨'"' :: (u ++ ['"']), by simp, u, rfl, hu⟩
    split at h
    · rename_i hc
      subst hc
      obtain ⟨⟨vs, r'⟩, hvs, heq⟩ := Option.map_eq_some_iff.1 h
      cases heq
      obtain ⟨u, rfl, hu⟩ := hread.sequence?_sound hvs
      rw [← writesItems_eq_map] at hu
      exact ⟨'[' :: (u ++ [']']), by simp, u, rfl, hu⟩
    split at h
    · rename_i hc
      subst hc
      obtain ⟨⟨members, r'⟩, hmembers, heq⟩ := Option.map_eq_some_iff.1 h
      cases heq
      obtain ⟨u, rfl, hu⟩ := hread.member?.sequence?_sound hmembers
      rw [← writesMembers_eq_map] at hu
      exact ⟨'\x7b' :: (u ++ ['\x7d']), by simp, u, rfl, hu⟩
    split at h
    · rename_i hc
      subst hc
      exact map_word?_sound (w := null) rfl h
    split at h
    · rename_i hc
      subst hc
      exact map_word?_sound (w := bool true) rfl h
    split at h
    · rename_i hc
      subst hc
      exact map_word?_sound (w := bool false) rfl h
    · obtain ⟨⟨n, r'⟩, hn, heq⟩ := Option.map_eq_some_iff.1 h
      cases heq
      exact number?_sound hn

/-- What starts with a sign or a digit is read as a number. -/
theorem value?_of_number {fuel : Nat} {c : Char} (hc : c = '-' ∨ c.isDigit = true)
    (s : List Char) :
    value? (fuel + 1) (c :: s) = (number? (c :: s)).map fun n => (int n.1, n.2) := by
  have hne : ∀ d ∈ ['"', '[', '\x7b', 'n', 't', 'f'], c ≠ d := by
    rintro d hd rfl
    have hother : ∀ d ∈ ['"', '[', '\x7b', 'n', 't', 'f'], ¬(d = '-' ∨ d.isDigit = true) := by
      simp
    exact hother c hd hc
  simp only [List.forall_mem_cons] at hne
  obtain ⟨h₁, h₂, h₃, h₄, h₅, h₆, -⟩ := hne
  rw [value?, if_neg h₁, if_neg h₂, if_neg h₃, if_neg h₄, if_neg h₅, if_neg h₆]

theorem value?_complete {fuel : Nat} (hread : Reads (value? fuel) Writes fuel) {t r : List Char}
    {v : Json} (h : Writes v t) (ht : t.length < fuel + 1) (hr : Ends r) :
    value? (fuel + 1) (t ++ r) = some (v, r) := by
  cases v with
  | null =>
    rw [Writes] at h
    subst h
    exact map_word?_complete "ull".toList null r
  | bool b =>
    rw [Writes] at h
    subst h
    cases b with
    | true => exact map_word?_complete "rue".toList (bool true) r
    | false => exact map_word?_complete "alse".toList (bool false) r
  | int n =>
    rw [Writes] at h
    have hn := number?_complete h hr
    obtain ⟨c, u, rfl, hc⟩ : ∃ c u, t = c :: u ∧ (c = '-' ∨ c.isDigit = true) := by
      obtain ⟨hds, -⟩ | ⟨ds, rfl, -⟩ := h
      · obtain ⟨d, u, rfl, hd⟩ := hds.head
        exact ⟨d, u, rfl, .inr hd⟩
      · exact ⟨'-', ds, rfl, .inl rfl⟩
    rw [List.cons_append] at hn ⊢
    rw [value?_of_number hc, hn, Option.map_some]
  | text x =>
    rw [Writes] at h
    obtain ⟨u, rfl, hu⟩ := h
    have htext : '"' :: (u ++ ['"']) ++ r = '"' :: (u ++ '"' :: r) := by simp
    rw [htext, value?, if_pos rfl, text?_complete hu]
    rfl
  | list vs =>
    rw [Writes, writesItems_eq_map] at h
    obtain ⟨u, rfl, hu⟩ := h
    have htext : '[' :: (u ++ [']']) ++ r = '[' :: (u ++ ']' :: r) := by simp
    simp only [List.length_cons, List.length_append] at ht
    rw [htext, value?, if_neg (by decide), if_pos rfl,
      hread.sequence?_complete (.inl rfl) hu (by omega)]
    rfl
  | object members =>
    rw [Writes, writesMembers_eq_map] at h
    obtain ⟨u, rfl, hu⟩ := h
    have htext : '\x7b' :: (u ++ ['\x7d']) ++ r = '\x7b' :: (u ++ '\x7d' :: r) := by simp
    simp only [List.length_cons, List.length_append] at ht
    rw [htext, value?, if_neg (by decide), if_neg (by decide), if_pos rfl,
      hread.member?.sequence?_complete (.inr rfl) hu (by omega)]
    rfl

theorem reads_value? (fuel : Nat) : Reads (value? fuel) Writes fuel := by
  induction fuel with
  | zero => exact ⟨nofun, fun _ ht => absurd ht (Nat.not_lt_zero _), starts_of_writes⟩
  | succ fuel ih => exact ⟨value?_sound ih, value?_complete ih, starts_of_writes⟩

/-- **A text decodes to a value exactly if it stands for the value.** -/
theorem decode?_eq_some_iff {text : String} {v : Json} :
    decode? text = some v ↔ IsTextOf v text := by
  have hread := reads_value? (text.toList.length + 1)
  constructor
  · intro h
    obtain ⟨⟨w, r⟩, hw, hrest⟩ := Option.bind_eq_some_iff.1 h
    split at hrest
    · rename_i hblank
      cases hrest
      obtain ⟨a, ha, hblanks⟩ := exists_blanks text.toList
      obtain ⟨t, ht, hwrites⟩ := hread.sound hw
      exact ⟨a, t, r, by rw [← ht, ← ha], hblanks, hwrites, skipBlanks_eq_nil_iff.1 hblank⟩
    · cases hrest
  · rintro ⟨a, t, b, htext, ha, hwrites, hb⟩
    obtain ⟨c, u, rfl, hc, -⟩ := starts_of_writes hwrites
    have hends : Ends b := fun d hd =>
      isDigit_of_isBlank (hb d (List.mem_of_mem_head? hd))
    have hlength : (c :: u).length < text.toList.length + 1 := by
      rw [htext, List.length_append, List.length_append]
      omega
    have hskip : skipBlanks text.toList = c :: u ++ b := by
      rw [htext, skipBlanks_append ha]
      exact skipBlanks_cons hc _
    rw [decode?, hskip, hread.complete hwrites hlength hends, Option.bind_some,
      if_pos (skipBlanks_eq_nil_iff.2 hb)]

/-- A text stands for one value at most. -/
theorem IsTextOf.unique {text : String} {v w : Json} (hv : IsTextOf v text)
    (hw : IsTextOf w text) : v = w :=
  Option.some.inj ((decode?_eq_some_iff.2 hv).symm.trans (decode?_eq_some_iff.2 hw))

end Json
end ComponentCensus
