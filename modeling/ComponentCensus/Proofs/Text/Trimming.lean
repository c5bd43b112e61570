import Mathlib.Data.List.TakeWhile
import ComponentCensus.Text.Blank

/-!
# Texts without the blanks at their ends

Trimming goes over a text twice, once from each end.  What comes out is told without going over the
text at all: it is what is left when blanks are taken off both ends until none is there.

* `Tight` — a text with no blank at either end.
* `TrimsTo` — a text and what is left of it; `trim_eq_iff` says that this is what trimming gives.
-/

set_option autoImplicit false

namespace ComponentCensus
namespace Text

variable {s t : List Char}

/-- No blank is at either end of the text. -/
structure Tight (s : List Char) : Prop where
  /-- The text does not begin with a blank. -/
  head : ∀ c, s.head? = some c → isBlank c = false
  /-- The text does not end with a blank. -/
  last : ∀ c, s.getLast? = some c → isBlank c = false

/-- The first text is the second one between blanks, and the second one has none at its ends. -/
def TrimsTo (s t : List Char) : Prop :=
  Tight t ∧ ∃ before after, s = before ++ (t ++ after) ∧
    (∀ c ∈ before, isBlank c = true) ∧ ∀ c ∈ after, isBlank c = true

theorem trimLeft_append {before : List Char} (h : ∀ c ∈ before, isBlank c = true)
    (s : List Char) : trimLeft (before ++ s) = trimLeft s :=
  List.dropWhile_append_of_pos h

theorem trimLeft_of_head (h : ∀ c, s.head? = some c → isBlank c = false) : trimLeft s = s := by
  cases s with
  | nil => rfl
  | cons c s => exact List.dropWhile_cons_of_neg (by simp [h c rfl])

/-- What is taken off on the left are blanks. -/
theorem exists_blanks_append_trimLeft (s : List Char) :
    ∃ before, (∀ c ∈ before, isBlank c = true) ∧ s = before ++ trimLeft s :=
  ⟨s.takeWhile isBlank, fun _ hc => List.mem_takeWhile_imp hc,
    List.takeWhile_append_dropWhile.symm⟩

/-- Trimming leaves what is between the blanks. -/
theorem trimsTo_trim (s : List Char) : TrimsTo s (trim s) := by
  obtain ⟨before, hbefore, hs⟩ := exists_blanks_append_trimLeft s
  obtain ⟨after, hafter, hrest⟩ := exists_blanks_append_trimLeft (trimLeft s).reverse
  have htrim : trimLeft s = trim s ++ after.reverse := by
    rw [trim, trimRight, ← List.reverse_append, ← hrest, List.reverse_reverse]
  refine ⟨⟨fun c hc => ?_, fun c hc => ?_⟩, before, after.reverse, htrim ▸ hs, hbefore,
    fun c hc => hafter c (List.mem_reverse.1 hc)⟩
  · refine isBlank_of_mem_head?_trimLeft (s := s) ?_
    rw [htrim, List.head?_append, hc, Option.some_or]
  · refine isBlank_of_mem_head?_trimLeft (s := (trimLeft s).reverse) ?_
    rwa [trim, trimRight, List.getLast?_reverse] at hc

/-- A text without blanks at its ends is what is left of it between blanks. -/
theorem trim_of_trimsTo (h : TrimsTo s t) : trim s = t := by
  obtain ⟨htight, before, after, rfl, hbefore, hafter⟩ := h
  rw [trim, trimLeft_append hbefore]
  cases t with
  | nil =>
    have hnil : trimLeft after = [] := List.dropWhile_eq_nil_iff.2 hafter
    rw [List.nil_append, hnil]
    rfl
  | cons c t =>
    have hleft : trimLeft (c :: t ++ after) = c :: t ++ after :=
      trimLeft_of_head fun d hd => htight.head d hd
    have hright : trimLeft (c :: t).reverse = (c :: t).reverse :=
      trimLeft_of_head fun d hd => htight.last d (by rwa [List.head?_reverse] at hd)
    rw [hleft, trimRight, List.reverse_append,
      trimLeft_append fun d hd => hafter d (List.mem_reverse.1 hd), hright, List.reverse_reverse]

/-- Trimming gives what is left without the blanks at both ends, and nothing else. -/
theorem trim_eq_iff : trim s = t ↔ TrimsTo s t :=
  ⟨fun h => h ▸ trimsTo_trim s, trim_of_trimsTo⟩

/-- A text without blanks at its ends stays as it is. -/
theorem trimsTo_of_tight (h : Tight s) : TrimsTo s s := ⟨h, [], [], by simp, nofun, nofun⟩

end Text
end ComponentCensus
