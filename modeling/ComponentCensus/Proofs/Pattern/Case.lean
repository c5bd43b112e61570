import ComponentCensus.Proofs.Pattern.Layout
import ComponentCensus.Proofs.Pattern.Segment
import ComponentCensus.Proofs.Text.Letters

/-!
# Patterns that do not see the case of letters

If no set of a pattern tells a letter of ASCII from its small letter, then the search goes the same
way in a text and in the text with all letters small: what may follow at a place is the same but for
case, and a letter is a word character in either case.

* `smallLetters` — the text with all its letters small.
* `CharSet.caseFree`, `Pattern.caseFree` — the test on sets and on patterns.
* `Pattern.restsAt_smallLetters` — what may follow at a place.
* `Pattern.occursIn_smallLetters` — whether the pattern occurs.
-/

set_option autoImplicit false

namespace ComponentCensus

open Text

namespace Text

/-- The text with its ASCII capitals replaced by their small letters. -/
def smallLetters (s : List Char) : List Char := s.map Char.toLower

/-- A letter is a word character in either case. -/
theorem isWord_toLower (c : Char) : isWord c.toLower = isWord c := by
  have hletter : ∀ {d : Char}, d.isAlpha = true → isWord d = true := by
    intro d hd
    simp [isWord, Char.isAlphanum, hd]
  by_cases hc : c.isAlpha = true
  · rw [hletter hc, hletter (isAlpha_toLower hc)]
  · rw [toLower_of_isAlpha_eq_false (by simpa using hc)]

/-- A letter is no blank in either case. -/
theorem isBlank_toLower (c : Char) : isBlank c.toLower = isBlank c := by
  have hletter : ∀ {d : Char}, d.isAlpha = true → isBlank d = false := by
    intro d hd
    by_contra hblank
    have hword := isWord_of_isBlank (by simpa using hblank)
    simp [isWord, Char.isAlphanum, hd] at hword
  by_cases hc : c.isAlpha = true
  · rw [hletter hc, hletter (isAlpha_toLower hc)]
  · rw [toLower_of_isAlpha_eq_false (by simpa using hc)]

end Text

/-! ## Sets of characters -/

namespace CharSet

/-- Whether a set does not tell a letter from its small letter: it asks for a letter in either case,
or for a character that is no letter. -/
def caseFree : CharSet → Bool
  | exactly c => !c.isAlpha
  | letter _ => true
  | blank => true
  | except c => !c.isAlpha
  | among cs => cs.all fun c => !c.isAlpha

theorem has_toLower {K : CharSet} (hK : K.caseFree = true) (c : Char) :
    K.has c.toLower = K.has c := by
  have hmark : ∀ {d : Char}, d.isAlpha = false → (d == c.toLower) = (d == c) := by
    intro d hd
    rw [Bool.eq_iff_iff, beq_iff_eq, beq_iff_eq, eq_comm, toLower_eq_iff hd, eq_comm]
  cases K with
  | exactly d => exact hmark (by simpa [caseFree] using hK)
  | letter d => exact congrArg (foldCase d == ·) (foldCase_toLower c)
  | blank => exact isBlank_toLower c
  | except d => exact congrArg (!·) (hmark (by simpa [caseFree] using hK))
  | among ds =>
    have hds : ∀ d ∈ ds, d.isAlpha = false := by simpa [caseFree] using hK
    rw [has, has, Bool.eq_iff_iff, List.contains_iff_mem, List.contains_iff_mem]
    constructor
    · intro hc
      rwa [(toLower_eq_iff (hds _ hc)).1 rfl]
    · intro hc
      rwa [toLower_of_isAlpha_eq_false (hds c hc)]

end CharSet

/-! ## Rows of pieces -/

section
variable {K : CharSet} (hK : K.caseFree = true)
include hK

theorem afterRun_smallLetters (s : List Char) :
    afterRun K (smallLetters s) = (afterRun K s).map smallLetters := by
  induction s with
  | nil => rfl
  | cons c s ih =>
    change afterRun K (c.toLower :: smallLetters s) = _
    rw [afterRun, afterRun, CharSet.has_toLower hK, List.map_cons, ih]
    cases K.has c <;> rfl

theorem afterOne_smallLetters (s : List Char) :
    afterOne K (smallLetters s) = (afterOne K s).map smallLetters := by
  cases s with
  | nil => rfl
  | cons c s =>
    change afterOne K (c.toLower :: smallLetters s) = _
    rw [afterOne, afterOne, CharSet.has_toLower hK]
    cases K.has c <;> rfl

end

theorem Piece.rests_smallLetters {p : Piece} (hp : p.set.caseFree = true) (s : List Char) :
    p.rests (smallLetters s) = (p.rests s).map smallLetters := by
  cases p with
  | one K => exact afterOne_smallLetters hp s
  | run K => exact afterRun_smallLetters hp s
  | maybe K => exact congrArg (smallLetters s :: ·) (afterOne_smallLetters hp s)

theorem restsOf_smallLetters {ps : List Piece} (hps : ∀ p ∈ ps, p.set.caseFree = true)
    (s : List Char) : restsOf ps (smallLetters s) = (restsOf ps s).map smallLetters := by
  induction ps generalizing s with
  | nil => rfl
  | cons p ps ih =>
    obtain ⟨hp, hps⟩ := List.forall_mem_cons.1 hps
    simp only [restsOf, Piece.rests_smallLetters hp, List.flatMap_map, ih hps, List.map_flatMap]

/-! ## Patterns -/

namespace Pattern

/-- Whether no set of a pattern tells a letter from its small letter. -/
def caseFree (p : Pattern) : Bool := p.choices.all fun ps => ps.all fun q => q.set.caseFree

section
variable {p : Pattern} (hp : p.caseFree = true)
include hp

/-- What may follow in the text with all letters small is what may follow in the text. -/
theorem restsAt_smallLetters (x : Option Char) (s : List Char) :
    p.restsAt (x.map Char.toLower) (smallLetters s) = (p.restsAt x s).map smallLetters := by
  have hmay : wordMayStart (x.map Char.toLower) = wordMayStart x := by
    cases x with
    | none => rfl
    | some c => exact congrArg (!·) (isWord_toLower c)
  have hchoices : ∀ ps ∈ p.choices, restsOf ps (smallLetters s) = (restsOf ps s).map smallLetters :=
    fun ps hps => restsOf_smallLetters (List.all_eq_true.1 (List.all_eq_true.1 hp ps hps)) s
  rw [restsAt, restsAt, hmay]
  split
  · rfl
  · rw [List.map_flatMap, List.flatMap_congr hchoices]

theorem occursAfter_smallLetters (x : Option Char) (s : List Char) :
    p.occursAfter (x.map Char.toLower) (smallLetters s) = p.occursAfter x s := by
  induction s generalizing x with
  | nil =>
    have hrests := restsAt_smallLetters hp x []
    change (!(p.restsAt _ (smallLetters [])).isEmpty) = !(p.restsAt x []).isEmpty
    rw [hrests, List.isEmpty_map]
  | cons c s ih =>
    have hrests := restsAt_smallLetters hp x (c :: s)
    change (!(p.restsAt _ (smallLetters (c :: s))).isEmpty ||
      p.occursAfter ((some c).map Char.toLower) (smallLetters s)) = _
    rw [hrests, List.isEmpty_map, ih, occursAfter]

/-- The pattern occurs in a text exactly if it occurs in the text with all letters small. -/
theorem occursIn_smallLetters (s : List Char) : p.occursIn (smallLetters s) = p.occursIn s :=
  occursAfter_smallLetters hp none s

/-- The pattern occurs in both of two texts that differ in the case of letters, or in neither. -/
theorem occursIn_recased {s t : List Char} (h : smallLetters s = smallLetters t) :
    p.occursIn s = p.occursIn t := by
  rw [← occursIn_smallLetters hp s, h, occursIn_smallLetters hp]

end

end Pattern
end ComponentCensus
