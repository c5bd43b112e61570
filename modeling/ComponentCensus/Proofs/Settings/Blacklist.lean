import Mathlib.Data.List.Forall2
import ComponentCensus.Proofs.Text.Splitting
import ComponentCensus.Proofs.Text.Trimming
import ComponentCensus.Settings.Blacklist

/-!
# Names between commas

Directories to skip are listed in one text, between commas and with any blanks around them.  A list
of names that can stand between commas is found again, so reading forgets only blanks and pieces
that hold nothing else.

* `NamesBetween` — the names of a text, told by its pieces; `namesIn_eq_iff` says that these are the
  names that are read.
* `IsListed` — what can be read from such a text; `isListed_of_mem_namesIn`.
* `namesIn_intercalate` — joined by commas, such names are read again.
-/

set_option autoImplicit false

namespace ComponentCensus
namespace Settings

open Text

/-- The names of a text: it falls into pieces at its commas, and each piece that holds more than
blanks is a name without the blanks at its ends. -/
def NamesBetween (text : String) (names : List String) : Prop :=
  ∃ pieces trimmed : List (List Char), pieces ≠ [] ∧ (∀ piece ∈ pieces, ',' ∉ piece) ∧
    text.toList = [','].intercalate pieces ∧ List.Forall₂ TrimsTo pieces trimmed ∧
    names = (trimmed.filter fun name => name ≠ []).map String.ofList

/-- A name that can stand between commas: it is not empty, has no comma, and no blank at either
end. -/
structure IsListed (name : String) : Prop where
  ne_empty : name ≠ ""
  no_comma : ',' ∉ name.toList
  tight : Tight name.toList

variable {text : String} {names : List String}

/-- The names that are read are those of the text. -/
theorem namesIn_eq_iff : namesIn (some text) = names ↔ NamesBetween text names := by
  constructor
  · rintro rfl
    refine ⟨splitOn ',' text.toList, (splitOn ',' text.toList).map trim, splitOn_ne_nil _ _,
      fun _ => not_mem_of_mem_splitOn, (intercalate_splitOn ',' _).symm, ?_, ?_⟩
    · exact List.forall₂_map_right_iff.2 (List.forall₂_same.2 fun piece _ => trimsTo_trim piece)
    · simp only [namesIn, namesInText, ne_eq, decide_not]
  · rintro ⟨pieces, trimmed, hne, hcomma, htext, htrimmed, rfl⟩
    have hmap : pieces.map trim = trimmed := by
      clear hne hcomma htext
      induction htrimmed with
      | nil => rfl
      | cons hfirst _ ih => rw [List.map_cons, trim_of_trimsTo hfirst, ih]
    simp only [namesIn, namesInText, htext, splitOn_intercalate hcomma hne, hmap, ne_eq,
      decide_not]

/-- Every name that is read can stand between commas. -/
theorem isListed_of_mem_namesIn {name : String} (h : name ∈ namesIn (some text)) :
    IsListed name := by
  obtain ⟨trimmed, hmem, rfl⟩ := List.mem_map.1 h
  obtain ⟨hmem, hne⟩ := List.mem_filter.1 hmem
  obtain ⟨piece, hpiece, rfl⟩ := List.mem_map.1 hmem
  obtain ⟨htight, before, after, hbetween, -⟩ := trimsTo_trim piece
  have hne : trim piece ≠ [] := by simpa using hne
  refine ⟨fun hempty => hne ?_, ?_, ?_⟩
  · rw [← String.toList_ofList (l := trim piece), hempty]
    rfl
  · rw [String.toList_ofList]
    intro hcomma
    refine not_mem_of_mem_splitOn hpiece ?_
    rw [hbetween]
    exact List.mem_append_right _ (List.mem_append_left _ hcomma)
  · rwa [String.toList_ofList]

/-- Names that can stand between commas are read again. -/
theorem namesIn_intercalate (h : ∀ name ∈ names, IsListed name) :
    namesIn (some (String.intercalate "," names)) = names := by
  by_cases hnil : names = []
  · subst hnil
    rfl
  · have htext : (String.intercalate "," names).toList =
        [','].intercalate (names.map String.toList) := String.toList_intercalate
    have hkept : (names.map String.toList).filter (fun name => name ≠ []) =
        names.map String.toList :=
      List.filter_eq_self.2 <| List.forall_mem_map.2 fun name hname => decide_eq_true fun hempty =>
        (h name hname).ne_empty (String.toList_eq_nil_iff.1 hempty)
    refine namesIn_eq_iff.2 ⟨names.map String.toList, names.map String.toList, by simpa using hnil,
      List.forall_mem_map.2 fun name hname => (h name hname).no_comma, htext, ?_, ?_⟩
    · exact List.forall₂_same.2 <| List.forall_mem_map.2 fun name hname =>
        trimsTo_of_tight (h name hname).tight
    · rw [hkept, List.map_map]
      exact ((List.map_congr_left fun name _ => String.ofList_toList).trans (List.map_id _)).symm

/-- The blanks and commas of a text without names do not name anything. -/
example : namesIn (some " , \t,dist , my dir,") = ["dist", "my dir"] := by decide +kernel

end Settings
end ComponentCensus
