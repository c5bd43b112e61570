import ComponentCensus.Text.Blank

/-!
# Splitting and joining

The pieces of a text between the occurrences of one character are those of the library's
`List.splitOn`, so what is known about joining them again carries over.

* `splitOn_eq` — the two are one function; `length_splitOn` — how many pieces there are.
* `not_mem_of_mem_splitOn`, `mem_of_mem_splitOn` — what the pieces hold: not the separator, and
  nothing that the text does not hold.
* `splitOn_intercalate`, `intercalate_splitOn` — pieces without the separator are found again after
  joining them, and joining the pieces of a text gives the text.
* `splitOn_flatMap` — the same for pieces that end with the separator.
* `induction_on_pieces` — induction from piece to piece.
* `prefix_dropLast_splitOn` — the pieces that a separator ends stay when the text goes on.
* `append_cons_eq_cases` — where a stretch stands that does not have a given character.
* `isInfix_iff_exists_splitOn` — a stretch without the separator lies within one piece.
-/

set_option autoImplicit false

namespace ComponentCensus
namespace Text

variable {sep : Char} {s : List Char}

/-- Any other character goes to the first piece. -/
theorem splitOn_cons_of_ne {c : Char} (hc : c ≠ sep) (s : List Char) :
    ∃ first pieces, splitOn sep s = first :: pieces ∧
      splitOn sep (c :: s) = (c :: first) :: pieces := by
  rw [splitOn, if_neg hc]
  cases hsplit : splitOn sep s with
  | nil => exact absurd hsplit (splitOn_ne_nil sep s)
  | cons first pieces => exact ⟨first, pieces, rfl, rfl⟩

theorem splitOn_eq (sep : Char) (s : List Char) : splitOn sep s = s.splitOn sep := by
  induction s with
  | nil => rfl
  | cons c s ih =>
    rw [List.splitOn_cons_eq_if_modifyHead, ← ih]
    by_cases hc : c = sep
    · rw [if_pos (beq_iff_eq.2 hc), hc, splitOn_cons_sep]
    · obtain ⟨first, pieces, hs, hcs⟩ := splitOn_cons_of_ne hc s
      rw [if_neg (fun h => hc (beq_iff_eq.1 h)), hs, hcs]
      rfl

/-- There is one piece more than there are separators. -/
theorem length_splitOn (sep : Char) (s : List Char) :
    (splitOn sep s).length = s.count sep + 1 := by
  induction s with
  | nil => rfl
  | cons c s ih =>
    by_cases hc : c = sep
    · rw [hc, splitOn_cons_sep, List.length_cons, ih, List.count_cons_self]
    · obtain ⟨first, pieces, hs, hcs⟩ := splitOn_cons_of_ne hc s
      rw [hcs, List.count_cons_of_ne (by simpa using hc), ← ih, hs, List.length_cons,
        List.length_cons]

/-- No piece holds the separator. -/
theorem not_mem_of_mem_splitOn {piece : List Char} (h : piece ∈ splitOn sep s) : sep ∉ piece := by
  induction s generalizing piece with
  | nil =>
    rw [List.mem_singleton.1 h]
    exact List.not_mem_nil
  | cons c s ih =>
    by_cases hc : c = sep
    · rw [hc, splitOn_cons_sep] at h
      rcases List.mem_cons.1 h with rfl | h
      · exact List.not_mem_nil
      · exact ih h
    · obtain ⟨first, pieces, hs, hcs⟩ := splitOn_cons_of_ne hc s
      rw [hs] at ih
      rw [hcs] at h
      rcases List.mem_cons.1 h with rfl | h
      · have hfirst : sep ∉ first := ih List.mem_cons_self
        exact fun hmem => (List.mem_cons.1 hmem).elim (fun heq => hc heq.symm) hfirst
      · exact ih (List.mem_cons_of_mem first h)

/-- The pieces have no characters that the text does not have. -/
theorem mem_of_mem_splitOn {d : Char} {piece : List Char} (hpiece : piece ∈ splitOn sep s)
    (hd : d ∈ piece) : d ∈ s := by
  induction s generalizing piece with
  | nil => rwa [List.mem_singleton.1 hpiece] at hd
  | cons c s ih =>
    by_cases hc : c = sep
    · rw [hc, splitOn_cons_sep] at hpiece
      rcases List.mem_cons.1 hpiece with rfl | hpiece
      · cases hd
      · exact List.mem_cons_of_mem c (ih hpiece hd)
    · obtain ⟨first, pieces, hs, hcs⟩ := splitOn_cons_of_ne hc s
      rw [hs] at ih
      rw [hcs] at hpiece
      rcases List.mem_cons.1 hpiece with rfl | hpiece
      · rcases List.mem_cons.1 hd with rfl | hd
        · exact List.mem_cons_self
        · exact List.mem_cons_of_mem c (ih List.mem_cons_self hd)
      · exact List.mem_cons_of_mem c (ih (List.mem_cons_of_mem first hpiece) hd)

theorem splitOn_intercalate {pieces : List (List Char)} (hpieces : ∀ piece ∈ pieces, sep ∉ piece)
    (hne : pieces ≠ []) : splitOn sep ([sep].intercalate pieces) = pieces := by
  rw [splitOn_eq, List.splitOn_intercalate sep hpieces hne]

theorem intercalate_splitOn (sep : Char) (s : List Char) :
    [sep].intercalate (splitOn sep s) = s := by
  rw [splitOn_eq, List.intercalate_splitOn]

theorem splitOn_of_not_mem (h : sep ∉ s) : splitOn sep s = [s] := by
  have hpieces : ∀ piece ∈ [s], sep ∉ piece := by simpa using h
  have hsplit := splitOn_intercalate hpieces (by simp)
  rwa [List.intercalate_singleton] at hsplit

/-- Pieces with the separator behind each of them, rather than between them. -/
theorem flatMap_eq_intercalate {pieces : List (List Char)} (h : pieces ≠ []) :
    (pieces.flatMap fun piece => piece ++ [sep]) = [sep].intercalate pieces ++ [sep] := by
  induction pieces with
  | nil => exact absurd rfl h
  | cons piece pieces ih =>
    cases pieces with
    | nil => simp
    | cons next rest =>
      rw [List.flatMap_cons, ih (by simp), List.intercalate_cons_cons]
      simp

/-- Pieces with the separator behind each of them are found again, and an empty one behind them. -/
theorem splitOn_flatMap {pieces : List (List Char)} (hpieces : ∀ piece ∈ pieces, sep ∉ piece) :
    splitOn sep (pieces.flatMap fun piece => piece ++ [sep]) = pieces ++ [[]] := by
  induction pieces with
  | nil => rfl
  | cons piece pieces ih =>
    obtain ⟨hpiece, hpieces⟩ := List.forall_mem_cons.1 hpieces
    rw [List.flatMap_cons, List.append_assoc, List.singleton_append, splitOn_eq,
      List.splitOn_append_cons_self_of_not_mem hpiece, ← splitOn_eq, ih hpieces, List.cons_append]

/-! ## From piece to piece -/

theorem splitOn_append_cons {piece : List Char} (h : sep ∉ piece) (s : List Char) :
    splitOn sep (piece ++ sep :: s) = piece :: splitOn sep s := by
  rw [splitOn_eq, splitOn_eq, List.splitOn_append_cons_self_of_not_mem h]

/-- What holds of a text without the separator, and goes on from a text to what has one more piece
in front, holds of every text. -/
theorem induction_on_pieces (sep : Char) {P : List Char → Prop}
    (last : ∀ piece, sep ∉ piece → P piece)
    (cons : ∀ piece s, sep ∉ piece → P s → P (piece ++ sep :: s)) (s : List Char) : P s := by
  induction hsplit : splitOn sep s generalizing s with
  | nil => exact absurd hsplit (splitOn_ne_nil sep s)
  | cons piece pieces ih =>
    have hpieces : ∀ p ∈ piece :: pieces, sep ∉ p := fun p hp =>
      not_mem_of_mem_splitOn (hsplit ▸ hp)
    have hjoin := intercalate_splitOn sep s
    rw [hsplit] at hjoin
    cases pieces with
    | nil =>
      rw [List.intercalate_singleton] at hjoin
      exact hjoin ▸ last piece (hpieces piece List.mem_cons_self)
    | cons next pieces =>
      rw [List.intercalate_cons_cons, List.append_assoc, List.singleton_append] at hjoin
      rw [← hjoin]
      refine cons piece _ (hpieces piece List.mem_cons_self) (ih _ ?_)
      exact splitOn_intercalate (fun p hp => hpieces p (List.mem_cons_of_mem _ hp))
        (by simp)

/-- The pieces that a separator ends are the first ones of every text that goes on. -/
theorem prefix_dropLast_splitOn (sep : Char) (s t : List Char) :
    (splitOn sep s).dropLast <+: (splitOn sep (s ++ t)).dropLast := by
  induction s using induction_on_pieces sep with
  | last piece hpiece =>
    rw [splitOn_of_not_mem hpiece]
    exact List.nil_prefix
  | cons piece s hpiece ih =>
    rw [List.append_assoc, List.cons_append, splitOn_append_cons hpiece, splitOn_append_cons hpiece,
      List.dropLast_cons_of_ne_nil (splitOn_ne_nil sep s),
      List.dropLast_cons_of_ne_nil (splitOn_ne_nil sep (s ++ t))]
    exact (List.prefix_cons_inj piece).2 ih

/-- Where a character is not in a stretch of a text, the stretch stands in front of it or behind
it. -/
theorem append_cons_eq_cases {c : Char} {a t z u v : List Char} (ht : c ∉ t)
    (h : a ++ (t ++ z) = u ++ c :: v) :
    (∃ w, u = a ++ (t ++ w) ∧ z = w ++ c :: v) ∨ ∃ w, a = u ++ c :: w ∧ v = w ++ (t ++ z) := by
  rcases List.append_eq_append_iff.1 h with ⟨m, rfl, hm⟩ | ⟨m, rfl, hm⟩
  · -- the stretch starts in front of the character
    rcases List.append_eq_append_iff.1 hm with ⟨w, rfl, rfl⟩ | ⟨w, rfl, hw⟩
    · exact .inl ⟨w, rfl, rfl⟩
    · cases w with
      | nil => exact .inl ⟨[], by simp, hw.symm⟩
      | cons d w => exact absurd (by simp [(List.cons.inj hw).1]) ht
  · cases m with
    | nil =>
      cases t with
      | nil => exact .inl ⟨[], by simp, hm.symm⟩
      | cons d t => exact absurd (by simp [(List.cons.inj hm).1]) ht
    | cons d w =>
      obtain ⟨rfl, rfl⟩ := List.cons.inj hm
      exact .inr ⟨w, rfl, rfl⟩

/-- A stretch without the separator does not go beyond it. -/
theorem isInfix_append_cons_iff {piece t : List Char} (ht : sep ∉ t) :
    t <:+: piece ++ sep :: s ↔ t <:+: piece ∨ t <:+: s := by
  constructor
  · rintro ⟨a, z, h⟩
    rw [List.append_assoc] at h
    rcases append_cons_eq_cases ht h with ⟨w, rfl, -⟩ | ⟨w, -, rfl⟩
    · exact .inl ⟨a, w, List.append_assoc ..⟩
    · exact .inr ⟨w, z, List.append_assoc ..⟩
  · rintro (h | h)
    · exact h.trans (List.prefix_append ..).isInfix
    · exact h.trans ((List.suffix_cons ..).trans (List.suffix_append ..)).isInfix

/-- A stretch without the separator is part of a text if it is part of a piece. -/
theorem isInfix_iff_exists_splitOn {t : List Char} (ht : sep ∉ t) :
    t <:+: s ↔ ∃ piece ∈ splitOn sep s, t <:+: piece := by
  induction s using induction_on_pieces sep with
  | last piece hpiece => simp [splitOn_of_not_mem hpiece]
  | cons piece s hpiece ih =>
    rw [splitOn_append_cons hpiece, isInfix_append_cons_iff ht, ih]
    simp

end Text
end ComponentCensus
