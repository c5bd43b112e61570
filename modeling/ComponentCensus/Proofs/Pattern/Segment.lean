import Mathlib.Data.List.Forall2
import ComponentCensus.Proofs.Pattern.Occurrence
import ComponentCensus.Proofs.Text.Splitting

/-!
# Patterns between separators

A pattern that takes no separator can only fit within one segment of a text, that is, between two
separators that follow each other.  A pattern that goes on to the next separator fits at most once
in a segment, at the first place where it can begin, and not at all in the last segment, which no
separator ends.

* `avoids` — a test on pieces for stretches without a given character.
* `Pattern.textBehind?` — the text behind the first place where a pattern fits.
* `Follows` — two rows of pieces that fit one behind the other; `occursIn_through_iff` says that
  looking for both with no separator between them is looking for them in a segment.
* `closing`, `forall₂_matchesAfter_closing` — a pattern that goes on to the next separator, and the
  stretches that are found for it.
-/

set_option autoImplicit false

namespace ComponentCensus

open Text

/-! ## Pieces that leave a character out -/

/-- The characters of a piece. -/
def Piece.set : Piece → CharSet
  | one K => K
  | run K => K
  | maybe K => K

/-- Whether no piece takes the character. -/
def avoids (c : Char) (ps : List Piece) : Bool := ps.all fun p => !p.set.has c

theorem Piece.Fits.has {p : Piece} {t : List Char} (h : p.Fits t) {c : Char} (hc : c ∈ t) :
    p.set.has c = true := by
  cases p with
  | one K =>
    obtain ⟨d, rfl, hd⟩ := h
    rwa [List.mem_singleton.1 hc]
  | run K => exact h c hc
  | maybe K =>
    rcases h with rfl | ⟨d, rfl, hd⟩
    · cases hc
    · rwa [List.mem_singleton.1 hc]

theorem not_mem_of_fits {c : Char} {ps : List Piece} (hps : avoids c ps = true) {t : List Char}
    (ht : Fits ps t) : c ∉ t := by
  induction ht with
  | nil => exact List.not_mem_nil
  | cons hp _ ih =>
    rw [avoids, List.all_cons, Bool.and_eq_true, Bool.not_eq_true'] at hps
    rw [List.mem_append, not_or]
    refine ⟨fun hc => ?_, ih hps.2⟩
    rw [hp.has hc] at hps
    exact absurd hps.1 (by decide)

/-- A row of pieces that goes through anything but a separator. -/
theorem fits_through {ps qs : List Piece} {sep : Char} {t : List Char} :
    Fits (ps ++ upToMark sep ++ qs) t ↔
      ∃ o b u, t = o ++ (b ++ u) ∧ Fits ps o ∧ sep ∉ b ∧ Fits qs u := by
  rw [List.append_assoc, fits_append]
  refine exists_congr fun o => ?_
  constructor
  · rintro ⟨v, rfl, ho, hv⟩
    obtain ⟨b, u, rfl, hb, hu⟩ := fits_run_cons.1 hv
    refine ⟨b, u, rfl, ho, fun hmem => ?_, hu⟩
    exact absurd (hb sep hmem) (by simp [CharSet.has])
  · rintro ⟨b, u, rfl, ho, hb, hu⟩
    refine ⟨b ++ u, rfl, ho, fits_run_cons.2 ⟨b, u, rfl, fun c hc => ?_, hu⟩⟩
    have hne : sep ≠ c := fun heq => hb (heq ▸ hc)
    simpa [CharSet.has] using hne

namespace Pattern

theorem fits_of {ps : List Piece} {x : Option Char} {t : List Char} :
    (Pattern.of ps).Fits x t ↔ ComponentCensus.Fits ps t := by
  simp [Fits, Pattern.of]

/-- A row of pieces occurs in a text if a part of the text fits it. -/
theorem occursIn_of_iff {ps : List Piece} {s : List Char} :
    (Pattern.of ps).occursIn s = true ↔ ∃ t, t <:+: s ∧ ComponentCensus.Fits ps t := by
  simp only [occursIn, occursAfter_iff, fits_of]
  constructor
  · rintro ⟨a, t, z, rfl, ht⟩
    exact ⟨t, ⟨a, z, List.append_assoc ..⟩, ht⟩
  · rintro ⟨t, ⟨a, z, rfl⟩, ht⟩
    exact ⟨a, t, z, List.append_assoc .., ht⟩

/-! ## The first place -/

/-- The text behind the first place where the pattern fits. -/
def textBehind? (p : Pattern) (before : Option Char) : List Char → Option (List Char)
  | [] => (p.lengthAt? before []).map fun _ => []
  | c :: s =>
    match p.lengthAt? before (c :: s) with
    | some n => some ((c :: s).drop n)
    | none => p.textBehind? (some c) s

theorem textBehind?_nil (p : Pattern) (x : Option Char) :
    p.textBehind? x [] = (p.lengthAt? x []).map fun _ => [] := rfl

theorem textBehind?_cons (p : Pattern) (x : Option Char) (c : Char) (s : List Char) :
    p.textBehind? x (c :: s) =
      match p.lengthAt? x (c :: s) with
      | some n => some ((c :: s).drop n)
      | none => p.textBehind? (some c) s := rfl

theorem textBehind?_of_fits {p : Pattern} (hp : p.definite = true) {x : Option Char}
    {t : List Char} (ht : p.Fits x t) (z : List Char) : p.textBehind? x (t ++ z) = some z := by
  have hlength := lengthAt?_of_fits hp ht z
  have hdrop : (t ++ z).drop t.length = z := List.drop_left
  generalize t ++ z = s at hlength hdrop
  cases s with
  | nil =>
    rw [textBehind?_nil, hlength, ← hdrop, List.drop_nil]
    rfl
  | cons c s => simp only [textBehind?_cons, hlength, hdrop]

theorem textBehind?_nil_of_not {p : Pattern} {x : Option Char}
    (h : ∀ t z, [] = t ++ z → ¬ p.Fits x t) : p.textBehind? x [] = none := by
  rw [textBehind?_nil, lengthAt?_eq_none h, Option.map_none]

theorem textBehind?_cons_of_not {p : Pattern} {x : Option Char} {c : Char} {s : List Char}
    (h : ∀ t z, c :: s = t ++ z → ¬ p.Fits x t) :
    p.textBehind? x (c :: s) = p.textBehind? (some c) s := by
  simp only [textBehind?_cons, lengthAt?_eq_none h]

/-- There is a first place exactly if the pattern occurs. -/
theorem isSome_textBehind? (p : Pattern) (x : Option Char) (s : List Char) :
    (p.textBehind? x s).isSome = p.occursAfter x s := by
  have hempty : ∀ y u, (p.lengthAt? y u).isSome = !(p.restsAt y u).isEmpty := by
    intro y u
    rw [lengthAt?, Option.isSome_map]
    cases p.restsAt y u <;> rfl
  induction s generalizing x with
  | nil => rw [textBehind?_nil, Option.isSome_map, occursAfter, hempty]
  | cons c s ih =>
    rw [occursAfter, ← hempty, ← ih, textBehind?_cons]
    cases p.lengthAt? x (c :: s) <;> simp

end Pattern

/-! ## One behind the other -/

/-- A part of the text fits the first pieces, and another part behind it the second ones. -/
def Follows (ps qs : List Piece) (s : List Char) : Prop :=
  ∃ o b u, o ++ (b ++ u) <:+: s ∧ Fits ps o ∧ Fits qs u

theorem occursIn_through_iff {ps qs : List Piece} {sep : Char} (hps : avoids sep ps = true)
    (hqs : avoids sep qs = true) {s : List Char} :
    (Pattern.of (ps ++ upToMark sep ++ qs)).occursIn s = true ↔
      ∃ segment ∈ splitOn sep s, Follows ps qs segment := by
  simp only [Pattern.occursIn_of_iff, fits_through]
  constructor
  · rintro ⟨_, hpart, o, b, u, rfl, ho, hb, hu⟩
    have hsep : sep ∉ o ++ (b ++ u) := by
      simp [not_mem_of_fits hps ho, hb, not_mem_of_fits hqs hu]
    obtain ⟨segment, hsegment, hpart⟩ := (isInfix_iff_exists_splitOn hsep).1 hpart
    exact ⟨segment, hsegment, o, b, u, hpart, ho, hu⟩
  · rintro ⟨segment, hsegment, o, b, u, hpart, ho, hu⟩
    -- a segment holds no separator, so none is between the two parts
    have hsep : sep ∉ o ++ (b ++ u) := fun hmem =>
      not_mem_of_mem_splitOn hsegment (hpart.mem hmem)
    have hb : sep ∉ b := fun hmem =>
      hsep (List.mem_append_right o (List.mem_append_left u hmem))
    exact ⟨_, (isInfix_iff_exists_splitOn hsep).2 ⟨segment, hsegment, hpart⟩, o, b, u, rfl, ho,
      hb, hu⟩

/-! ## Up to the next separator -/

/-- The pieces, anything up to the next separator, and the separator. -/
def closing (ps : List Piece) (sep : Char) : Pattern := .of (ps ++ upToMark sep ++ mark sep)

theorem fits_closing {ps : List Piece} {sep : Char} {x : Option Char} {t : List Char} :
    (closing ps sep).Fits x t ↔ ∃ o b, t = o ++ (b ++ [sep]) ∧ Fits ps o ∧ sep ∉ b := by
  simp only [closing, Pattern.fits_of, fits_through, fits_mark]
  constructor
  · rintro ⟨o, b, u, rfl, ho, hb, rfl⟩
    exact ⟨o, b, rfl, ho, hb⟩
  · rintro ⟨o, b, rfl, ho, hb⟩
    exact ⟨o, b, [sep], rfl, ho, hb, rfl⟩

/-- A stretch that ends with the separator, and what is in it behind the pieces. -/
def Closes (ps : List Piece) (sep : Char) (t b : List Char) : Prop :=
  ∃ o, t = o ++ (b ++ [sep]) ∧ Fits ps o

section
variable {ps : List Piece} {sep : Char}

/-- Up to the separator that ends a segment, a stretch is what the pieces take there and the rest of
the segment. -/
theorem exists_fits_of_fits_closing (hps : avoids sep ps = true) {x : Option Char}
    {segment s t z : List Char} (hsegment : sep ∉ segment) (ht : (closing ps sep).Fits x t)
    (heq : segment ++ sep :: s = t ++ z) : ∃ o b, segment = o ++ b ∧ Fits ps o := by
  obtain ⟨o, b, rfl, ho, hb⟩ := fits_closing.1 ht
  have hcut : segment ++ sep :: s = (o ++ b) ++ sep :: z := by
    rw [heq]
    simp
  have hall : ∀ {l : List Char}, sep ∉ l → ∀ c ∈ l, (c != sep) = true := by
    intro l hl c hc
    simpa using fun hsep : c = sep => hl (hsep ▸ hc)
  have hstretch : sep ∉ o ++ b := by simp [not_mem_of_fits hps ho, hb]
  exact ⟨o, b, (run_eq_of_append_eq (hall hsegment) (hall hstretch) (by simp) (by simp) hcut).1, ho⟩

/-- In a segment that a separator ends, one stretch is found if the pieces occur there, from the
first place where they do. -/
theorem matchesAfter_segment (hp : (closing ps sep).definite = true)
    (hstart : (Pattern.of ps).definite = true) (hps : avoids sep ps = true) (x : Option Char)
    {segment : List Char} (hsegment : sep ∉ segment) (s : List Char) :
    ∃ found, (closing ps sep).matchesAfter x 0 (segment ++ sep :: s) =
        found.toList ++ (closing ps sep).matchesAfter (some sep) 0 s ∧
      Option.Rel (Closes ps sep) found ((Pattern.of ps).textBehind? x segment) := by
  by_cases hfits : ∃ o b, segment = o ++ b ∧ Fits ps o
  · obtain ⟨o, b, rfl, ho⟩ := hfits
    have hb : sep ∉ b := fun hmem => hsegment (List.mem_append_right o hmem)
    have ht : (closing ps sep).Fits x (o ++ (b ++ [sep])) := fits_closing.2 ⟨o, b, rfl, ho, hb⟩
    refine ⟨some (o ++ (b ++ [sep])), ?_, ?_⟩
    · have hmatches := Pattern.matchesAfter_of_fits hp (by simp) ht s
      simpa using hmatches
    · rw [Pattern.textBehind?_of_fits hstart (Pattern.fits_of.2 ho)]
      exact .some ⟨o, rfl, ho⟩
  · have hnot : ∀ t z, segment = t ++ z → ¬ (Pattern.of ps).Fits x t :=
      fun t z heq ht => hfits ⟨t, z, heq, Pattern.fits_of.1 ht⟩
    have hnone : ∀ t z, segment ++ sep :: s = t ++ z → ¬ (closing ps sep).Fits x t :=
      fun t z heq ht => hfits (exists_fits_of_fits_closing hps hsegment ht heq)
    cases segment with
    | nil =>
      rw [Pattern.textBehind?_nil_of_not hnot]
      exact ⟨none, Pattern.matchesAfter_cons_of_not hnone, .none⟩
    | cons c segment =>
      rw [List.cons_append] at hnone ⊢
      rw [Pattern.textBehind?_cons_of_not hnot, Pattern.matchesAfter_cons_of_not hnone]
      exact matchesAfter_segment hp hstart hps (some c)
        (fun hmem => hsegment (List.mem_cons_of_mem c hmem)) s
termination_by segment.length

/-- In a segment that no separator ends, nothing is found. -/
theorem matchesAfter_of_not_mem (x : Option Char) {s : List Char} (hs : sep ∉ s) :
    (closing ps sep).matchesAfter x 0 s = [] := by
  induction s generalizing x with
  | nil => rfl
  | cons c s ih =>
    rw [Pattern.matchesAfter_cons_of_not fun t z heq ht => ?_]
    · exact ih (some c) fun hmem => hs (List.mem_cons_of_mem c hmem)
    · obtain ⟨o, b, rfl, -⟩ := fits_closing.1 ht
      rw [heq] at hs
      exact hs (by simp)

/-- **What is found for a pattern that goes on to the next separator**: one stretch for each segment
that a separator ends and in which the pieces occur, in order; behind what the pieces take at the
first place it is the rest of the segment. -/
theorem forall₂_matchesAfter_closing (hp : (closing ps sep).definite = true)
    (hstart : (Pattern.of ps).definite = true) (hps : avoids sep ps = true) (x : Option Char)
    (s : List Char) :
    List.Forall₂ (Closes ps sep) ((closing ps sep).matchesAfter x 0 s)
      ((splitOn sep s).dropLast.filterMap ((Pattern.of ps).textBehind? none)) := by
  -- without a word to begin, the pieces occur at the same places after any character
  have hbefore : ∀ y u, (Pattern.of ps).textBehind? y u = (Pattern.of ps).textBehind? none u := by
    intro y u
    cases u <;> rfl
  induction s using induction_on_pieces sep generalizing x with
  | last segment hsegment =>
    rw [matchesAfter_of_not_mem x hsegment, splitOn_of_not_mem hsegment]
    exact .nil
  | cons segment s hsegment ih =>
    obtain ⟨found, hmatches, hfound⟩ := matchesAfter_segment hp hstart hps x hsegment s
    rw [hmatches, splitOn_append_cons hsegment, List.dropLast_cons_of_ne_nil (splitOn_ne_nil sep s),
      List.filterMap_cons]
    rw [hbefore] at hfound
    generalize (Pattern.of ps).textBehind? none segment = first at hfound
    cases hfound with
    | none => exact ih (some sep)
    | some hcloses => exact .cons hcloses (ih (some sep))

end

end ComponentCensus
