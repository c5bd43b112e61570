import Mathlib.Tactic.ByContra
import ComponentCensus.Proofs.Text.Letters

/-!
# Words in any case, and their places

* `Spells` — a text is a word, but for the case of its letters.
* `standsAt`, `placeFrom?` — whether a word stands at a place of a text, and the first place from a
  given one on where it does.
* `placeFrom?_eq_some_iff`, `placeFrom?_eq_none_iff` — what it means to be the first place.
* `placeFrom?_append` — the search in a text goes on in what is left of the text.
* `placeFrom?_append_spelled` — a word that is put behind a text without it stands right there, if
  its first character does not come again in it.
-/

set_option autoImplicit false

namespace ComponentCensus
namespace Text

/-! ## Words -/

/-- The text is the word, but for the case of its letters. -/
def Spells (word t : List Char) : Prop := t.map foldCase = word.map foldCase

instance (word t : List Char) : Decidable (Spells word t) :=
  inferInstanceAs (Decidable (_ = _))

theorem Spells.refl (word : List Char) : Spells word word := rfl

theorem Spells.length_eq {word t : List Char} (h : Spells word t) : t.length = word.length := by
  simpa using congrArg List.length h

theorem spells_append {u v t : List Char} :
    Spells (u ++ v) t ↔ ∃ a b, t = a ++ b ∧ Spells u a ∧ Spells v b := by
  rw [Spells, List.map_append, List.map_eq_append_iff]
  rfl

/-- The character is no letter and the only one that counts as itself. -/
def IsMark (c : Char) : Prop := c.isAlpha = false ∧ foldCase c = c

instance (c : Char) : Decidable (IsMark c) := inferInstanceAs (Decidable (_ ∧ _))

theorem spells_mark {c : Char} (hc : IsMark c) {t : List Char} : Spells [c] t ↔ t = [c] := by
  rw [Spells, List.map_singleton, hc.2, List.map_eq_singleton_iff]
  simp only [foldCase_eq_iff hc.1 hc.2, exists_eq_right]

/-- A word that does not have a mark is not spelled with it. -/
theorem Spells.not_mem {word t : List Char} (h : Spells word t) {c : Char} (hc : IsMark c)
    (hword : c ∉ word.map foldCase) : c ∉ t := by
  intro hmem
  refine hword (h ▸ ?_)
  exact List.mem_map.2 ⟨c, hmem, hc.2⟩

/-! ## Places -/

/-- Whether the word stands at a place of the text, in any case of its letters. -/
def standsAt (word s : List Char) (i : Nat) : Bool :=
  decide (Spells word ((s.drop i).take word.length))

/-- The first place of the text, from `start` on, where the word stands. -/
def placeFrom? (word : String) (start : Nat) (s : List Char) : Option Nat :=
  (List.range s.length).find? fun i => decide (start ≤ i) && standsAt word.toList s i

theorem standsAt_iff {word s : List Char} {i : Nat} :
    standsAt word s i = true ↔ ∃ o z, s.drop i = o ++ z ∧ Spells word o := by
  rw [standsAt, decide_eq_true_eq]
  constructor
  · intro h
    exact ⟨_, _, (List.take_append_drop word.length (s.drop i)).symm, h⟩
  · rintro ⟨o, z, hdrop, ho⟩
    rwa [hdrop, List.take_left' ho.length_eq]

theorem standsAt_zero_append {word o : List Char} (ho : Spells word o) (z : List Char) :
    standsAt word (o ++ z) 0 = true :=
  standsAt_iff.2 ⟨o, z, rfl, ho⟩

/-- Where the word stands, it still stands if the text goes on. -/
theorem standsAt_append {word s : List Char} {i : Nat} (h : standsAt word s i = true)
    (z : List Char) : standsAt word (s ++ z) i = true := by
  obtain ⟨o, y, hdrop, ho⟩ := standsAt_iff.1 h
  exact standsAt_iff.2 ⟨o, _, by rw [List.drop_append, hdrop, List.append_assoc], ho⟩

/-- Behind a first part of the text, the places are those of the rest. -/
theorem standsAt_append_length_add (word a z : List Char) (i : Nat) :
    standsAt word (a ++ z) (a.length + i) = standsAt word z i := by
  rw [standsAt, standsAt, List.drop_length_add_append]

theorem standsAt_append_length (word a z : List Char) :
    standsAt word (a ++ z) a.length = standsAt word z 0 :=
  standsAt_append_length_add word a z 0

/-- A word with characters stands within the text. -/
theorem lt_length_of_standsAt {word s : List Char} (hword : word ≠ []) {i : Nat}
    (h : standsAt word s i = true) : i < s.length := by
  obtain ⟨o, z, hdrop, ho⟩ := standsAt_iff.1 h
  have hlength := congrArg List.length hdrop
  have hpos : 0 < word.length := List.length_pos_iff.2 hword
  rw [List.length_drop, List.length_append, ho.length_eq] at hlength
  omega

section
variable {word : String} (hword : word.toList ≠ [])
include hword

/-- The first place is the one before which the word stands at no place. -/
theorem placeFrom?_eq_some_iff {start i : Nat} {s : List Char} :
    placeFrom? word start s = some i ↔
      start ≤ i ∧ standsAt word.toList s i = true ∧
        ∀ j, start ≤ j → j < i → standsAt word.toList s j = false := by
  rw [placeFrom?, List.find?_range_eq_some]
  simp only [Bool.and_eq_true, decide_eq_true_eq, List.mem_range, Bool.not_eq_true',
    Bool.and_eq_false_iff, decide_eq_false_iff_not]
  constructor
  · rintro ⟨⟨hstart, hstands⟩, -, hfirst⟩
    refine ⟨hstart, hstands, fun j hj hji => ?_⟩
    exact (hfirst j hji).resolve_left (by omega)
  · rintro ⟨hstart, hstands, hfirst⟩
    refine ⟨⟨hstart, hstands⟩, lt_length_of_standsAt hword hstands, fun j hji => ?_⟩
    by_cases hj : start ≤ j
    · exact .inr (hfirst j hj hji)
    · exact .inl hj

/-- There is no first place if the word stands at no place. -/
theorem placeFrom?_eq_none_iff {start : Nat} {s : List Char} :
    placeFrom? word start s = none ↔
      ∀ j, start ≤ j → standsAt word.toList s j = false := by
  rw [placeFrom?, List.find?_eq_none]
  simp only [List.mem_range, Bool.and_eq_true, decide_eq_true_eq, not_and, Bool.not_eq_true]
  constructor
  · intro h j hj
    by_contra hstands
    rw [Bool.not_eq_false] at hstands
    rw [h j (lt_length_of_standsAt hword hstands) hj] at hstands
    exact absurd hstands (by decide)
  · intro h j _ hj
    exact h j hj

/-- A search that starts behind a first part of the text is a search in the rest. -/
theorem placeFrom?_append (a z : List Char) (n : Nat) :
    placeFrom? word (a.length + n) (a ++ z) =
      (placeFrom? word n z).map (a.length + ·) := by
  cases hplace : placeFrom? word n z with
  | none =>
    rw [Option.map_none, placeFrom?_eq_none_iff hword]
    intro j hj
    obtain ⟨i, rfl⟩ := Nat.exists_eq_add_of_le (Nat.le_trans (Nat.le_add_right ..) hj)
    rw [standsAt_append_length_add]
    exact (placeFrom?_eq_none_iff hword).1 hplace i (by omega)
  | some i =>
    obtain ⟨hstart, hstands, hfirst⟩ := (placeFrom?_eq_some_iff hword).1 hplace
    rw [Option.map_some, placeFrom?_eq_some_iff hword]
    refine ⟨by omega, by rwa [standsAt_append_length_add], fun j hj hji => ?_⟩
    obtain ⟨k, rfl⟩ := Nat.exists_eq_add_of_le (Nat.le_trans (Nat.le_add_right ..) hj)
    rw [standsAt_append_length_add]
    exact hfirst k (by omega) (by omega)

/-- A search passes over a place where the word does not stand. -/
theorem placeFrom?_of_not {start : Nat} {s : List Char}
    (hnot : standsAt word.toList s start = false) :
    placeFrom? word start s = placeFrom? word (start + 1) s := by
  refine Option.ext fun i => ?_
  rw [placeFrom?_eq_some_iff hword, placeFrom?_eq_some_iff hword]
  constructor
  · rintro ⟨hstart, hstands, hfirst⟩
    have hne : start ≠ i := by
      rintro rfl
      exact absurd (hnot.symm.trans hstands) (by decide)
    exact ⟨by omega, hstands, fun j hj hji => hfirst j (by omega) hji⟩
  · rintro ⟨hstart, hstands, hfirst⟩
    refine ⟨by omega, hstands, fun j hj hji => ?_⟩
    rcases Nat.eq_or_lt_of_le hj with rfl | hlt
    · exact hnot
    · exact hfirst j hlt hji

theorem placeFrom?_cons_of_not {c : Char} {s : List Char}
    (hnot : standsAt word.toList (c :: s) 0 = false) :
    placeFrom? word 0 (c :: s) = (placeFrom? word 0 s).map (1 + ·) :=
  (placeFrom?_of_not hword hnot).trans (placeFrom?_append hword [c] s 0)

theorem placeFrom?_of_standsAt_zero {s : List Char} (h : standsAt word.toList s 0 = true) :
    placeFrom? word 0 s = some 0 :=
  (placeFrom?_eq_some_iff hword).2 ⟨Nat.le_refl 0, h, fun j _ hj => absurd hj (Nat.not_lt_zero j)⟩

/-- Where a word stands nowhere, it stands in no part of the text. -/
theorem placeFrom?_infix_eq_none {a s z : List Char}
    (h : placeFrom? word 0 (a ++ (s ++ z)) = none) : placeFrom? word 0 s = none := by
  refine (placeFrom?_eq_none_iff hword).2 fun j _ => ?_
  have hnot := (placeFrom?_eq_none_iff hword).1 h (a.length + j) (Nat.zero_le _)
  rw [standsAt_append_length_add] at hnot
  by_contra hstands
  rw [standsAt_append (by simpa using hstands) z] at hnot
  exact absurd hnot (by decide)

/-- In front of the first place, the word stands nowhere. -/
theorem placeFrom?_take_eq_none {s : List Char} {i : Nat} (h : placeFrom? word 0 s = some i) :
    placeFrom? word 0 (s.take i) = none := by
  refine (placeFrom?_eq_none_iff hword).2 fun j _ => ?_
  by_contra hstands
  rw [Bool.not_eq_false] at hstands
  have hj : j < (s.take i).length := lt_length_of_standsAt hword hstands
  have hlater := standsAt_append hstands (s.drop i)
  rw [List.take_append_drop, ((placeFrom?_eq_some_iff hword).1 h).2.2 j (Nat.zero_le j)
    (by rw [List.length_take] at hj; omega)] at hlater
  exact absurd hlater (by decide)

/-- Where the first place cuts the text. -/
theorem exists_append_of_placeFrom?_zero {s : List Char} {i : Nat}
    (h : placeFrom? word 0 s = some i) :
    ∃ a o z, s = a ++ (o ++ z) ∧ a.length = i ∧ Spells word.toList o ∧
      ∀ j < a.length, standsAt word.toList s j = false := by
  obtain ⟨-, hstands, hfirst⟩ := (placeFrom?_eq_some_iff hword).1 h
  obtain ⟨o, z, hdrop, ho⟩ := standsAt_iff.1 hstands
  have hi : (s.take i).length = i :=
    List.length_take_of_le (Nat.le_of_lt (lt_length_of_standsAt hword hstands))
  refine ⟨s.take i, o, z, ?_, hi, ho, fun j hj => hfirst j (Nat.zero_le j) (hi ▸ hj)⟩
  rw [← hdrop, List.take_append_drop]

end

/-! ## Marks -/

section
variable {word : String} {c : Char} (hword : word.toList = [c]) (hc : IsMark c)
include hword hc

theorem standsAt_mark_iff {s : List Char} {i : Nat} :
    standsAt word.toList s i = true ↔ s[i]? = some c := by
  rw [standsAt_iff, hword, ← List.head?_drop, List.head?_eq_some_iff]
  simp only [spells_mark hc]
  constructor
  · rintro ⟨_, z, hdrop, rfl⟩
    exact ⟨z, hdrop⟩
  · rintro ⟨z, hdrop⟩
    exact ⟨[c], z, hdrop, rfl⟩

/-- A mark has no place exactly if the text does not have it. -/
theorem placeFrom?_mark_eq_none_iff {s : List Char} : placeFrom? word 0 s = none ↔ c ∉ s := by
  rw [placeFrom?_eq_none_iff (by simp [hword]), List.mem_iff_getElem?]
  simp only [← standsAt_mark_iff hword hc, not_exists, Bool.not_eq_true, Nat.zero_le, true_imp_iff]

end

/-! ## Words that begin with a mark -/

/-- The places of a word that begins with a mark and has it nowhere else: where a text ends and the
mark comes next, no place is in both. -/
theorem standsAt_of_append_mark {c : Char} (hc : IsMark c) {w : List Char}
    (hw : c ∉ w.map foldCase) {a z : List Char} {i : Nat} (hi : i < a.length)
    (h : standsAt (c :: w) (a ++ c :: z) i = true) : standsAt (c :: w) a i = true := by
  obtain ⟨o, y, hdrop, ho⟩ := standsAt_iff.1 h
  rw [List.drop_append_of_le_length (Nat.le_of_lt hi)] at hdrop
  rcases List.append_eq_append_iff.1 hdrop with ⟨m, rfl, hy⟩ | ⟨m, hm, -⟩
  · -- the word would go on into what comes behind the text
    cases m with
    | nil => exact standsAt_iff.2 ⟨a.drop i, [], (List.append_nil _).symm, by simpa using ho⟩
    | cons d m =>
      obtain ⟨rfl, -⟩ := List.cons.inj hy
      obtain ⟨b, q, hq⟩ := List.exists_cons_of_ne_nil
        (List.ne_nil_of_length_pos (by simpa using Nat.sub_pos_of_lt hi) : a.drop i ≠ [])
      rw [hq, List.cons_append, Spells, List.map_cons, List.map_cons, List.cons.injEq] at ho
      exact absurd (List.mem_append_right q List.mem_cons_self)
        (Spells.not_mem (show Spells w (q ++ c :: m) from ho.2) hc hw)
  · exact standsAt_iff.2 ⟨o, m, hm, ho⟩

/-- A word that begins with a mark and has it nowhere else, put behind a text in which it does not
stand, stands there for the first time. -/
theorem placeFrom?_append_spelled {word : String} {c : Char} {w : List Char}
    (hword : word.toList = c :: w) (hc : IsMark c) (hw : c ∉ w.map foldCase) {a o : List Char}
    (ha : placeFrom? word 0 a = none) (ho : Spells word.toList o) (z : List Char) :
    placeFrom? word 0 (a ++ (o ++ z)) = some a.length := by
  have hne : word.toList ≠ [] := by simp [hword]
  refine (placeFrom?_eq_some_iff hne).2 ⟨Nat.zero_le _, ?_, fun j _ hj => ?_⟩
  · rw [standsAt_append_length]
    exact standsAt_zero_append ho z
  · rw [hword] at ho ⊢
    obtain ⟨b, q, rfl, hb, hq⟩ := spells_append.1 (show Spells ([c] ++ w) o from ho)
    obtain rfl := (spells_mark hc).1 hb
    by_contra hstands
    have hin := standsAt_of_append_mark hc hw hj (by simpa using hstands)
    rw [← hword, (placeFrom?_eq_none_iff hne).1 ha j (Nat.zero_le j)] at hin
    exact absurd hin (by decide)

end Text
end ComponentCensus
