import Mathlib.Data.List.Forall2
import ComponentCensus.Proofs.Pattern.Segment
import ComponentCensus.Proofs.Pattern.Layout

/-!
# The places where a pattern fits

A search from left to right goes on behind the stretch it found, so it may pass over places where
the pattern fits as well.  For a pattern that begins a word this cannot happen if its stretches are
some word characters and then none: inside of such a stretch, every place has a word character in
front of it or no word character at it.

* `charBefore`, `Pattern.fitsAt`, `Pattern.placesAfter` — the places of a text where a pattern fits.
* `wordThenMarks`, `Pattern.leadsWithWord` — the test on pieces.
* `placesAfter_append_of_fits` — no place is inside of a stretch.
* `forall₂_matchesAfter_placesAfter` — the stretches that are found are those at all the places,
  one by one.
* `occursAfter_append`, `length_placesAfter_append` — what a longer text has.
-/

set_option autoImplicit false

namespace ComponentCensus

open Text

/-! ## Places -/

/-- The character in front of a place of a text that comes after the character `x`. -/
def charBefore (x : Option Char) (s : List Char) : Nat → Option Char
  | 0 => x
  | i + 1 => s[i]?

@[simp] theorem charBefore_zero (x : Option Char) (s : List Char) : charBefore x s 0 = x := rfl

@[simp] theorem charBefore_succ (x : Option Char) (s : List Char) (i : Nat) :
    charBefore x s (i + 1) = s[i]? := rfl

theorem charBefore_cons_succ (x : Option Char) (c : Char) (s : List Char) (i : Nat) :
    charBefore x (c :: s) (i + 1) = charBefore (some c) s i := by
  cases i <;> simp

/-- In front of a place, only what is in front of it counts. -/
theorem charBefore_append (x : Option Char) {s : List Char} {i : Nat} (hi : i ≤ s.length)
    (y : List Char) : charBefore x (s ++ y) i = charBefore x s i := by
  cases i with
  | zero => rfl
  | succ i => rw [charBefore_succ, charBefore_succ, List.getElem?_append_left hi]

/-- Behind a stretch, its last character is the one in front of the next place. -/
theorem charBefore_append_length_add (x : Option Char) (t z : List Char) (i : Nat) :
    charBefore x (t ++ z) (t.length + i) = charBefore (t.getLast?.or x) z i := by
  induction t generalizing x with
  | nil => simp
  | cons c t ih =>
    rw [List.cons_append, List.length_cons, Nat.add_right_comm, charBefore_cons_succ, ih,
      getLast?_cons_or]

namespace Pattern

/-- Whether the pattern fits at a place of a text that comes after the character `x`. -/
def fitsAt (p : Pattern) (x : Option Char) (s : List Char) (i : Nat) : Bool :=
  !(p.restsAt (charBefore x s i) (s.drop i)).isEmpty

/-- The places of a text where the pattern fits, in order. -/
def placesAfter (p : Pattern) (x : Option Char) (s : List Char) : List Nat :=
  (List.range s.length).filter (p.fitsAt x s)

theorem fitsAt_iff {p : Pattern} {x : Option Char} {s : List Char} {i : Nat} :
    p.fitsAt x s i = true ↔ ∃ t z, s.drop i = t ++ z ∧ p.Fits (charBefore x s i) t := by
  rw [fitsAt, Bool.not_eq_true', isEmpty_restsAt_iff]

theorem fitsAt_append_length_add (p : Pattern) (x : Option Char) (t z : List Char) (i : Nat) :
    p.fitsAt x (t ++ z) (t.length + i) = p.fitsAt (t.getLast?.or x) z i := by
  rw [fitsAt, fitsAt, charBefore_append_length_add, List.drop_append, List.drop_of_length_le
    (Nat.le_add_right ..), List.nil_append, Nat.add_sub_cancel_left]

/-- The places of a text are those of its first part, and then those of the rest. -/
theorem placesAfter_append (p : Pattern) (x : Option Char) (t z : List Char) :
    p.placesAfter x (t ++ z) = (List.range t.length).filter (p.fitsAt x (t ++ z)) ++
      (p.placesAfter (t.getLast?.or x) z).map (t.length + ·) := by
  rw [placesAfter, List.length_append, List.range_add, List.filter_append, List.filter_map,
    placesAfter]
  congr 3
  funext i
  exact fitsAt_append_length_add p x t z i

end Pattern

/-! ## Words and what comes behind them -/

namespace CharSet

/-- Whether the test finds all characters of a set to be word characters. -/
def onlyWord : CharSet → Bool
  | exactly c => isWord c
  | among cs => cs.all isWord
  | _ => false

/-- Whether the test finds no character of a set to be a word character. -/
def noWord : CharSet → Bool
  | exactly c => !isWord c
  | among cs => cs.all fun c => !isWord c
  | blank => true
  | _ => false

theorem isWord_of_onlyWord {K : CharSet} (hK : K.onlyWord = true) {c : Char}
    (hc : K.has c = true) : isWord c = true := by
  cases K with
  | exactly d => rwa [← beq_iff_eq.1 hc]
  | among cs => exact List.all_eq_true.1 hK c (List.contains_iff_mem.1 hc)
  | letter d => cases hK
  | blank => cases hK
  | except d => cases hK

theorem isWord_of_noWord {K : CharSet} (hK : K.noWord = true) {c : Char}
    (hc : K.has c = true) : isWord c = false := by
  cases K with
  | exactly d => rwa [← beq_iff_eq.1 hc, ← Bool.not_eq_true']
  | among cs => simpa using List.all_eq_true.1 hK c (List.contains_iff_mem.1 hc)
  | blank => exact isWord_of_isBlank hc
  | letter d => cases hK
  | except d => cases hK

end CharSet

/-- Whether the pieces take at least one word character, and then no more of them. -/
def wordThenMarks : List Piece → Bool
  | .one K :: ps => K.onlyWord && (wordThenMarks ps || ps.all fun p => p.set.noWord)
  | _ => false

/-- A text that starts with a word and has no more word characters behind it. -/
def IsWordThenMarks (t : List Char) : Prop :=
  ∃ w m, t = w ++ m ∧ w ≠ [] ∧ (∀ c ∈ w, isWord c = true) ∧ ∀ c ∈ m, isWord c = false

theorem isWord_of_fits_marks {ps : List Piece} (hps : (ps.all fun p => p.set.noWord) = true)
    {t : List Char} (ht : Fits ps t) : ∀ c ∈ t, isWord c = false := by
  induction ht with
  | nil => simp
  | cons hp _ ih =>
    rw [List.all_cons, Bool.and_eq_true] at hps
    intro c hc
    rcases List.mem_append.1 hc with hc | hc
    · exact CharSet.isWord_of_noWord hps.1 (hp.has hc)
    · exact ih hps.2 c hc

theorem isWordThenMarks_of_fits {ps : List Piece} (hps : wordThenMarks ps = true) {t : List Char}
    (ht : Fits ps t) : IsWordThenMarks t := by
  fun_induction wordThenMarks ps generalizing t with
  | case1 K ps ih =>
    obtain ⟨c, u, rfl, hc, hu⟩ := fits_one_cons.1 ht
    rw [Bool.and_eq_true, Bool.or_eq_true] at hps
    have hword : isWord c = true := CharSet.isWord_of_onlyWord hps.1 hc
    rcases hps.2 with hps | hps
    · obtain ⟨w, m, rfl, -, hw, hm⟩ := ih hps hu
      exact ⟨c :: w, m, rfl, List.cons_ne_nil c w, List.forall_mem_cons.2 ⟨hword, hw⟩, hm⟩
    · exact ⟨[c], u, rfl, List.cons_ne_nil c [], by simpa using hword,
        isWord_of_fits_marks hps hu⟩
  | case2 => simp at hps

namespace IsWordThenMarks

variable {t : List Char}

theorem ne_nil (h : IsWordThenMarks t) : t ≠ [] := by
  obtain ⟨w, m, rfl, hw, -⟩ := h
  exact List.append_ne_nil_of_left_ne_nil hw m

theorem isWord_head (h : IsWordThenMarks t) : ∃ c u, t = c :: u ∧ isWord c = true := by
  obtain ⟨w, m, rfl, hne, hw, -⟩ := h
  obtain ⟨c, w, rfl⟩ := List.exists_cons_of_ne_nil hne
  exact ⟨c, w ++ m, rfl, hw c List.mem_cons_self⟩

/-- Behind its first character, a word character has another one in front of it. -/
theorem isWord_getElem? (h : IsWordThenMarks t) {i : Nat} {c : Char} (hc : t[i + 1]? = some c)
    (hword : isWord c = true) : ∃ d, t[i]? = some d ∧ isWord d = true := by
  obtain ⟨w, m, rfl, -, hw, hm⟩ := h
  have hi : i + 1 < w.length := by
    by_contra hge
    rw [List.getElem?_append_right (by omega)] at hc
    rw [hm c (List.mem_of_getElem? hc)] at hword
    exact absurd hword (by decide)
  have hi' : i < w.length := by omega
  exact ⟨w[i], List.getElem?_append_left hi' ▸ List.getElem?_eq_getElem hi',
    hw _ (List.getElem_mem hi')⟩

end IsWordThenMarks

namespace Pattern

/-- Whether the pattern begins a word, and its stretches hold this word and no more of them. -/
def leadsWithWord (p : Pattern) : Bool := p.startsWord && p.choices.all wordThenMarks

section
variable {p : Pattern} {x : Option Char} {t : List Char}

theorem isWordThenMarks (hp : p.leadsWithWord = true) (ht : p.Fits x t) : IsWordThenMarks t := by
  rw [leadsWithWord, Bool.and_eq_true] at hp
  obtain ⟨-, ps, hps, ht⟩ := ht
  exact isWordThenMarks_of_fits (List.all_eq_true.1 hp.2 ps hps) ht

/-- Inside of a stretch, the pattern does not fit. -/
theorem fitsAt_inside (hp : p.leadsWithWord = true) (ht : p.Fits x t) (z : List Char) {i : Nat}
    (hi : i + 1 < t.length) : p.fitsAt x (t ++ z) (i + 1) = false := by
  by_contra hfits
  obtain ⟨u, r, hdrop, hu⟩ := fitsAt_iff.1 (Bool.not_eq_false _ ▸ hfits)
  -- what would fit there starts with a word character, so there is one in front of it
  obtain ⟨c, v, rfl, hword⟩ := (isWordThenMarks hp hu).isWord_head
  have hc : t[i + 1]? = some c := by
    have hfront : (t ++ z)[i + 1]? = some c := by
      rw [← List.head?_drop, hdrop]
      rfl
    rwa [List.getElem?_append_left hi] at hfront
  obtain ⟨d, hd, hword⟩ := (isWordThenMarks hp ht).isWord_getElem? hc hword
  rw [leadsWithWord, Bool.and_eq_true] at hp
  have hmay := hu.1 hp.1
  rw [charBefore_succ, List.getElem?_append_left (by omega), hd, wordMayStart] at hmay
  simp [hword] at hmay

/-- The places of a text that starts with a stretch: its front, and those behind the stretch. -/
theorem placesAfter_of_fits (hp : p.leadsWithWord = true) (ht : p.Fits x t) (z : List Char) :
    p.placesAfter x (t ++ z) =
      0 :: (p.placesAfter (t.getLast?.or x) z).map (t.length + ·) := by
  rw [placesAfter_append]
  obtain ⟨c, u, rfl⟩ := List.exists_cons_of_ne_nil (isWordThenMarks hp ht).ne_nil
  have hfront : p.fitsAt x (c :: u ++ z) 0 = true := fitsAt_iff.2 ⟨c :: u, z, rfl, ht⟩
  have hinside : ∀ i ∈ (List.range u.length).map Nat.succ,
      ¬ p.fitsAt x (c :: u ++ z) i = true := by
    intro i hi
    obtain ⟨j, hj, rfl⟩ := List.mem_map.1 hi
    rw [fitsAt_inside hp ht z (by simpa using hj)]
    exact Bool.false_ne_true
  rw [List.length_cons, List.range_succ_eq_map, List.filter_cons_of_pos hfront,
    List.filter_eq_nil_iff.2 hinside, List.singleton_append]

end

theorem placesAfter_cons_of_not {p : Pattern} {x : Option Char} {c : Char} {s : List Char}
    (h : ∀ t z, c :: s = t ++ z → ¬ p.Fits x t) :
    p.placesAfter x (c :: s) = (p.placesAfter (some c) s).map (1 + ·) := by
  have hfront : ¬ p.fitsAt x ([c] ++ s) 0 = true := by
    intro hfits
    obtain ⟨t, z, heq, ht⟩ := fitsAt_iff.1 hfits
    exact h t z heq ht
  have hplaces := placesAfter_append p x [c] s
  rwa [List.length_singleton, List.range_one, List.filter_cons_of_neg hfront, List.filter_nil,
    List.nil_append] at hplaces

/-- A stretch of a text at a place. -/
def FoundAt (p : Pattern) (x : Option Char) (s : List Char) (t : List Char) (i : Nat) : Prop :=
  t <+: s.drop i ∧ p.Fits (charBefore x s i) t

theorem FoundAt.behind {p : Pattern} {x : Option Char} {t z u : List Char} {i : Nat}
    (h : p.FoundAt (t.getLast?.or x) z u i) : p.FoundAt x (t ++ z) u (t.length + i) := by
  rw [FoundAt, charBefore_append_length_add, List.drop_length_add_append]
  exact h

/-- **The search passes over no place**: the stretches that are found from left to right are those
at the places where the pattern fits, one for each and in order. -/
theorem forall₂_matchesAfter_placesAfter {p : Pattern} (hd : p.definite = true)
    (hp : p.leadsWithWord = true) (x : Option Char) (s : List Char) :
    List.Forall₂ (p.FoundAt x s) (p.matchesAfter x 0 s) (p.placesAfter x s) := by
  induction x, s using induction_on_search fun _ _ ht => (isWordThenMarks hp ht).ne_nil with
  | nil x => exact .nil
  | fits x t z ht ih =>
    have hne : t ≠ [] := (isWordThenMarks hp ht).ne_nil
    rw [matchesAfter_of_fits hd hne ht, placesAfter_of_fits hp ht]
    refine .cons ⟨List.prefix_append t z, ht⟩ (List.forall₂_map_right_iff.2 ?_)
    exact ih.imp fun _ _ => FoundAt.behind
  | step x c s hnot ih =>
    rw [matchesAfter_cons_of_not hnot, placesAfter_cons_of_not hnot]
    exact List.forall₂_map_right_iff.2 (ih.imp fun _ _ => FoundAt.behind (t := [c]))

/-! ## Longer texts -/

/-- What occurs in a text occurs in every text that goes on from it. -/
theorem occursAfter_append {p : Pattern} {x : Option Char} {s : List Char}
    (h : p.occursAfter x s = true) (y : List Char) : p.occursAfter x (s ++ y) = true := by
  obtain ⟨a, t, z, rfl, ht⟩ := occursAfter_iff.1 h
  exact occursAfter_iff.2 ⟨a, t, z ++ y, by simp, ht⟩

theorem fitsAt_append {p : Pattern} {x : Option Char} {s : List Char} {i : Nat}
    (hi : i ≤ s.length) (h : p.fitsAt x s i = true) (y : List Char) :
    p.fitsAt x (s ++ y) i = true := by
  obtain ⟨t, z, heq, ht⟩ := fitsAt_iff.1 h
  refine fitsAt_iff.2 ⟨t, z ++ y, ?_, ?_⟩
  · rw [List.drop_append_of_le_length hi, heq, List.append_assoc]
  · rwa [charBefore_append x hi]

/-- A text that goes on has at least as many places. -/
theorem length_placesAfter_append_le (p : Pattern) (x : Option Char) (s y : List Char) :
    (p.placesAfter x s).length ≤ (p.placesAfter x (s ++ y)).length := by
  rw [placesAfter_append, List.length_append, placesAfter, ← List.countP_eq_length_filter,
    ← List.countP_eq_length_filter]
  refine Nat.le_trans (List.countP_mono_left ?_) (Nat.le_add_right ..)
  intro i hi h
  exact fitsAt_append (Nat.le_of_lt (List.mem_range.1 hi)) h y

end Pattern
end ComponentCensus
