import ComponentCensus.Component.Signal
import ComponentCensus.Proofs.Pattern.Segment
import ComponentCensus.Proofs.Text.Spelling

/-!
# Opening tags

An opening tag is its name behind a bracket, and then everything up to the next closing bracket.  So
a region is opened wherever its name stands and some closing bracket comes later.

* `fits_anyCase` — the stretches of a name in any case.
* `fits_tagPieces` — the stretches of an opening tag.
* `occursIn_tag` — what it means that a text has an opening tag.
-/

set_option autoImplicit false

namespace ComponentCensus

open Text

/-- A name in any case fits what spells it. -/
theorem fits_anyCase {name : String} {t : List Char} :
    Fits (anyCase name) t ↔ Spells name.toList t := by
  rw [anyCase]
  induction name.toList generalizing t with
  | nil => rw [List.map_nil, fits_nil, Spells, List.map_nil, List.map_eq_nil_iff]
  | cons c w ih =>
    simp only [List.map_cons, fits_one_cons, CharSet.has, sameLetter, beq_iff_eq, ih, Spells,
      List.map_eq_cons_iff]
    constructor
    · rintro ⟨d, u, rfl, hd, hu⟩
      exact ⟨d, u, rfl, hd.symm, hu⟩
    · rintro ⟨d, u, rfl, hd, hu⟩
      exact ⟨d, u, rfl, hd.symm, hu⟩

/-- A mark fits what spells it. -/
theorem fits_mark_iff_spells {c : Char} (hc : IsMark c) {t : List Char} :
    Fits (mark c) t ↔ Spells [c] t :=
  fits_mark.trans (spells_mark hc).symm

/-- What opens a tag: a bracket and the name. -/
theorem fits_tagName {name : String} {t : List Char} :
    Fits (mark '<' ++ anyCase name) t ↔ Spells ('<' :: name.toList) t := by
  have hbracket : IsMark '<' := by decide
  rw [← List.singleton_append, spells_append, fits_append]
  simp only [fits_mark_iff_spells hbracket, fits_anyCase]

/-- An opening tag is its name and what comes before the next closing bracket. -/
theorem fits_tagPieces {name : String} {t : List Char} :
    Fits (tagPieces name) t ↔
      ∃ o b, t = o ++ (b ++ ['>']) ∧ Spells ('<' :: name.toList) o ∧ '>' ∉ b := by
  rw [tagPieces, fits_through]
  simp only [fits_tagName, fits_mark]
  constructor
  · rintro ⟨o, b, _, rfl, ho, hb, rfl⟩
    exact ⟨o, b, rfl, ho, hb⟩
  · rintro ⟨o, b, rfl, ho, hb⟩
    exact ⟨o, b, ['>'], rfl, ho, hb, rfl⟩

/-- A text has an opening tag exactly if the name stands in it and a closing bracket comes later:
the tag ends at the first one. -/
theorem occursIn_tag {name : String} {s : List Char} :
    (Pattern.of (tagPieces name)).occursIn s = true ↔
      ∃ a o z, s = a ++ (o ++ z) ∧ Spells ('<' :: name.toList) o ∧ '>' ∈ z := by
  rw [Pattern.occursIn_of_iff]
  simp only [fits_tagPieces]
  constructor
  · rintro ⟨_, ⟨a, y, rfl⟩, o, b, rfl, ho, -⟩
    exact ⟨a, o, b ++ '>' :: y, by simp, ho, by simp⟩
  · rintro ⟨a, o, z, rfl, ho, hmem⟩
    obtain ⟨b, y, rfl, hb⟩ := List.eq_append_cons_of_mem hmem
    exact ⟨o ++ (b ++ ['>']), ⟨a, y, by simp⟩, o, b, rfl, ho, hb⟩

end ComponentCensus
