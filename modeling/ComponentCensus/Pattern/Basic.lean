import ComponentCensus.Text.Blank
import ComponentCensus.Text.AnyCase

/-!
# Patterns

A pattern says what a stretch of source text looks like.  It is plain data: a few ways of writing
it, each a list of pieces, and each piece asks for characters of one set.

* `CharSet` — a set of characters, with membership `CharSet.has`.
* `Piece` — one character of a set, any number of them, or at most one.
* `Pattern` — the ways of writing a stretch, and whether it has to begin a word.
* `restsOf` — what a text may go on with after a stretch that fits the pieces, the shortest
  stretch first.  All stretches that can be taken are listed, so a pattern fits a text somewhere
  as soon as one choice of lengths succeeds.
* `Fits` — the same notion as a relation between pieces and the stretch alone, and `mem_restsOf`,
  which says that the two agree.
-/

set_option autoImplicit false

namespace ComponentCensus

open Text

/-- A set of characters. -/
inductive CharSet where
  /-- The character itself. -/
  | exactly (c : Char)
  /-- The letter in either case. -/
  | letter (c : Char)
  /-- The blank characters. -/
  | blank
  /-- Every character but one. -/
  | except (c : Char)
  /-- The listed characters. -/
  | among (cs : List Char)
deriving Repr, DecidableEq

namespace CharSet

/-- Membership in a set of characters. -/
def has : CharSet → Char → Bool
  | exactly a, c => a == c
  | letter a, c => sameLetter a c
  | blank, c => isBlank c
  | except a, c => a != c
  | among cs, c => cs.contains c

end CharSet

/-- A piece of a pattern. -/
inductive Piece where
  /-- One character of the set. -/
  | one (set : CharSet)
  /-- Any number of characters of the set, none included. -/
  | run (set : CharSet)
  /-- One character of the set, or nothing. -/
  | maybe (set : CharSet)
deriving Repr, DecidableEq

/-- What may follow after some characters of the set, the fewest first. -/
def afterRun (set : CharSet) : List Char → List (List Char)
  | [] => [[]]
  | c :: s => (c :: s) :: if set.has c then afterRun set s else []

/-- What may follow after one character of the set. -/
def afterOne (set : CharSet) : List Char → List (List Char)
  | [] => []
  | c :: s => if set.has c then [s] else []

namespace Piece

/-- What a text may go on with after the piece, the shortest stretch first. -/
def rests : Piece → List Char → List (List Char)
  | one set, s => afterOne set s
  | run set, s => afterRun set s
  | maybe set, s => s :: afterOne set s

/-- The stretches of text that fit a piece. -/
def Fits : Piece → List Char → Prop
  | one set, t => ∃ c, t = [c] ∧ set.has c = true
  | run set, t => ∀ c ∈ t, set.has c = true
  | maybe set, t => t = [] ∨ ∃ c, t = [c] ∧ set.has c = true

end Piece

/-- What a text may go on with after the pieces in a row. -/
def restsOf : List Piece → List Char → List (List Char)
  | [], s => [s]
  | p :: ps, s => (p.rests s).flatMap (restsOf ps)

/-- The stretches of text that fit some pieces in a row. -/
inductive Fits : List Piece → List Char → Prop where
  | nil : Fits [] []
  | cons {p : Piece} {ps : List Piece} {t u : List Char} :
      p.Fits t → Fits ps u → Fits (p :: ps) (t ++ u)

/-- A pattern: the ways of writing a stretch of text. -/
structure Pattern where
  /-- Whether the character before the stretch must not be a word character. -/
  startsWord : Bool := false
  /-- The ways of writing the stretch. -/
  choices : List (List Piece)
deriving Repr, DecidableEq

theorem mem_afterRun {set : CharSet} {s r : List Char} :
    r ∈ afterRun set s ↔ ∃ t, s = t ++ r ∧ ∀ c ∈ t, set.has c = true := by
  induction s with
  | nil =>
    simp only [afterRun, List.mem_singleton]
    constructor
    · rintro rfl; exact ⟨[], rfl, by simp⟩
    · rintro ⟨t, ht, -⟩; exact (List.append_eq_nil_iff.1 ht.symm).2
  | cons c s ih =>
    simp only [afterRun, List.mem_cons]
    constructor
    · rintro (rfl | h)
      · exact ⟨[], rfl, by simp⟩
      · by_cases hc : set.has c = true
        · rw [if_pos hc] at h
          obtain ⟨t, rfl, ht⟩ := ih.1 h
          exact ⟨c :: t, rfl, by simpa [hc] using ht⟩
        · rw [if_neg hc] at h; simp at h
    · rintro ⟨t, ht, hall⟩
      cases t with
      | nil => exact Or.inl ht.symm
      | cons d t =>
        obtain ⟨rfl, rfl⟩ := List.cons.inj ht
        have hc : set.has c = true := hall c (by simp)
        rw [if_pos hc]
        exact Or.inr (ih.2 ⟨t, rfl, fun x hx => hall x (by simp [hx])⟩)

theorem mem_afterOne {set : CharSet} {s r : List Char} :
    r ∈ afterOne set s ↔ ∃ c, s = c :: r ∧ set.has c = true := by
  cases s with
  | nil => simp [afterOne]
  | cons c s =>
    by_cases hc : set.has c = true
    · simp only [afterOne, hc, if_true, List.mem_singleton, List.cons.injEq]
      constructor
      · rintro rfl; exact ⟨c, ⟨rfl, rfl⟩, hc⟩
      · rintro ⟨d, ⟨-, rfl⟩, -⟩; rfl
    · simp only [afterOne, hc, Bool.false_eq_true, if_false, List.not_mem_nil, List.cons.injEq,
        false_iff, not_exists, not_and]
      rintro d ⟨rfl, -⟩ hd
      exact hc hd

theorem Piece.mem_rests {p : Piece} {s r : List Char} :
    r ∈ p.rests s ↔ ∃ t, s = t ++ r ∧ p.Fits t := by
  cases p with
  | one set =>
    simp only [Piece.rests, mem_afterOne, Piece.Fits]
    constructor
    · rintro ⟨c, rfl, hc⟩; exact ⟨[c], rfl, c, rfl, hc⟩
    · rintro ⟨t, rfl, c, rfl, hc⟩; exact ⟨c, rfl, hc⟩
  | run set => exact mem_afterRun
  | maybe set =>
    simp only [Piece.rests, List.mem_cons, mem_afterOne, Piece.Fits]
    constructor
    · rintro (rfl | ⟨c, rfl, hc⟩)
      · exact ⟨[], rfl, Or.inl rfl⟩
      · exact ⟨[c], rfl, Or.inr ⟨c, rfl, hc⟩⟩
    · rintro ⟨t, rfl, rfl | ⟨c, rfl, hc⟩⟩
      · exact Or.inl rfl
      · exact Or.inr ⟨c, rfl, hc⟩

/-- A text can go on with `r` after the pieces exactly if it is a stretch that fits them, followed
by `r`. -/
theorem mem_restsOf {ps : List Piece} {s r : List Char} :
    r ∈ restsOf ps s ↔ ∃ t, s = t ++ r ∧ Fits ps t := by
  induction ps generalizing s with
  | nil =>
    simp only [restsOf, List.mem_singleton]
    constructor
    · rintro rfl; exact ⟨[], rfl, .nil⟩
    · rintro ⟨t, rfl, ht⟩; cases ht; rfl
  | cons p ps ih =>
    simp only [restsOf, List.mem_flatMap]
    constructor
    · rintro ⟨m, hm, hr⟩
      obtain ⟨t, rfl, ht⟩ := Piece.mem_rests.1 hm
      obtain ⟨u, rfl, hu⟩ := ih.1 hr
      exact ⟨t ++ u, by simp, .cons ht hu⟩
    · rintro ⟨t, rfl, ht⟩
      cases ht with
      | cons hp hps =>
        exact ⟨_, Piece.mem_rests.2 ⟨_, List.append_assoc .., hp⟩, ih.2 ⟨_, rfl, hps⟩⟩

/-! ## Writing patterns down -/

/-- The letters of a name, each in either case. -/
def anyCase (name : String) : List Piece := name.toList.map fun c => .one (.letter c)

/-- The characters of a name as they are. -/
def asWritten (name : String) : List Piece := name.toList.map fun c => .one (.exactly c)

/-- A single mark of punctuation. -/
def mark (c : Char) : List Piece := [.one (.exactly c)]

/-- Any blanks, none included. -/
def gap : List Piece := [.run .blank]

/-- At least one blank. -/
def space : List Piece := [.one .blank, .run .blank]

/-- Anything up to a given mark, which is not part of it. -/
def upToMark (c : Char) : List Piece := [.run (.except c)]

/-- The pattern with one way of writing it. -/
def Pattern.of (pieces : List Piece) : Pattern := { choices := [pieces] }

/-- The pattern with one way of writing it, which has to begin a word. -/
def Pattern.ofWord (pieces : List Piece) : Pattern := { startsWord := true, choices := [pieces] }

end ComponentCensus
