import ComponentCensus.Proofs.Pattern.Segment

/-!
# Patterns that include one another

Several patterns look for one thing, some for more of it than others, or for fewer ways of writing
it.  Whether one of them occurs wherever another one does can be read off their pieces.

* `CharSet.within` — a test for sets, and `CharSet.has_of_within`.
* `frontOf` — a test for rows of pieces: every stretch of one row begins with a stretch of the
  other.
* `Pattern.frontOf`, `Pattern.occursAfter_of_frontOf` — the test for patterns.
* `Pattern.occursAfter_of_mem_matchesAfter` — a pattern for which a stretch is found occurs.
* `Pattern.occursIn_maybe_iff` — a piece that may be left out makes two patterns of one.
-/

set_option autoImplicit false

namespace ComponentCensus

open Text

/-- Whether the test finds every character of the first set to be in the second.  It looks at equal
sets and at single characters only. -/
def CharSet.within : CharSet → CharSet → Bool
  | exactly c, L => L.has c
  | among cs, L => cs.all L.has
  | K, L => K == L

theorem CharSet.has_of_within {K L : CharSet} (h : K.within L = true) {c : Char}
    (hc : K.has c = true) : L.has c = true := by
  unfold within at h
  split at h
  · rwa [← beq_iff_eq.1 hc]
  · exact List.all_eq_true.1 h c (List.contains_iff_mem.1 hc)
  · rwa [← beq_iff_eq.1 h]

/-- What is left of a row of pieces when a run of the set has taken some of them, none first. -/
def leftBy (K : CharSet) : List Piece → List (List Piece)
  | [] => [[]]
  | q :: qs => (q :: qs) :: if q.set.within K then leftBy K qs else []

/-- Whether the test finds every stretch of the second row to begin with a stretch of the first.  A
run may take all that several pieces of the other row take. -/
def frontOf : List Piece → List Piece → Bool
  | [], _ => true
  | .one K :: ps, .one L :: qs => L.within K && frontOf ps qs
  | .run K :: ps, qs => (leftBy K qs).any fun rest => frontOf ps rest
  | _, _ => false

/-- What a run takes of a row of pieces, and what is left of it. -/
theorem exists_append_of_mem_leftBy {K : CharSet} {qs rest : List Piece}
    (h : rest ∈ leftBy K qs) {t : List Char} (ht : Fits qs t) :
    ∃ a w, t = a ++ w ∧ (∀ c ∈ a, K.has c = true) ∧ Fits rest w := by
  induction qs generalizing t with
  | nil =>
    obtain rfl := List.mem_singleton.1 h
    exact ⟨[], t, rfl, by simp, ht⟩
  | cons q qs ih =>
    rcases List.mem_cons.1 h with rfl | h
    · exact ⟨[], t, rfl, by simp, ht⟩
    · split at h
      · rename_i hwithin
        obtain ⟨b, u, rfl, hb, hu⟩ := fits_cons.1 ht
        obtain ⟨a, w, rfl, ha, hw⟩ := ih h hu
        refine ⟨b ++ a, w, (List.append_assoc ..).symm, fun c hc => ?_, hw⟩
        rcases List.mem_append.1 hc with hc | hc
        · exact CharSet.has_of_within hwithin (hb.has hc)
        · exact ha c hc
      · cases h

theorem exists_fits_of_frontOf {ps qs : List Piece} (h : frontOf ps qs = true) {t : List Char}
    (ht : Fits qs t) : ∃ u v, t = u ++ v ∧ Fits ps u := by
  fun_induction frontOf ps qs generalizing t with
  | case1 qs => exact ⟨[], t, rfl, .nil⟩
  | case2 K ps L qs ih =>
    rw [Bool.and_eq_true] at h
    obtain ⟨c, w, rfl, hc, hw⟩ := fits_one_cons.1 ht
    obtain ⟨u, v, rfl, hu⟩ := ih h.2 hw
    exact ⟨c :: u, v, rfl, fits_one_cons.2 ⟨c, u, rfl, CharSet.has_of_within h.1 hc, hu⟩⟩
  | case3 K ps qs ih =>
    obtain ⟨rest, hrest, hfront⟩ := List.any_eq_true.1 h
    obtain ⟨a, w, rfl, ha, hw⟩ := exists_append_of_mem_leftBy hrest ht
    obtain ⟨u, v, rfl, hu⟩ := ih rest hfront hw
    exact ⟨a ++ u, v, (List.append_assoc ..).symm, fits_run_cons.2 ⟨a, u, rfl, ha, hu⟩⟩
  | case4 => simp at h

namespace Pattern

/-- Whether the test finds every stretch of the second pattern to begin with a stretch of the
first. -/
def frontOf (p q : Pattern) : Bool :=
  (!p.startsWord || q.startsWord) &&
    q.choices.all fun qs => p.choices.any fun ps => ComponentCensus.frontOf ps qs

theorem exists_fits_of_frontOf {p q : Pattern} (h : p.frontOf q = true) {x : Option Char}
    {t : List Char} (ht : q.Fits x t) : ∃ u v, t = u ++ v ∧ p.Fits x u := by
  rw [frontOf, Bool.and_eq_true, List.all_eq_true] at h
  obtain ⟨hword, qs, hqs, ht⟩ := ht
  obtain ⟨ps, hps, hfront⟩ := List.any_eq_true.1 (h.2 qs hqs)
  obtain ⟨u, v, rfl, hu⟩ := ComponentCensus.exists_fits_of_frontOf hfront ht
  refine ⟨u, v, rfl, fun hp => hword ?_, ps, hps, hu⟩
  simpa [hp] using h.1

/-- Wherever the second pattern occurs, the first one does. -/
theorem occursAfter_of_frontOf {p q : Pattern} (h : p.frontOf q = true) {x : Option Char}
    {s : List Char} (hs : q.occursAfter x s = true) : p.occursAfter x s = true := by
  obtain ⟨a, t, z, rfl, ht⟩ := occursAfter_iff.1 hs
  obtain ⟨u, v, rfl, hu⟩ := exists_fits_of_frontOf h ht
  exact occursAfter_iff.2 ⟨a, u, v ++ z, by simp, hu⟩

/-- A pattern for which a stretch is found occurs. -/
theorem occursAfter_of_mem_matchesAfter {p : Pattern} {x : Option Char} {skip : Nat}
    {s t : List Char} (h : t ∈ p.matchesAfter x skip s) : p.occursAfter x s = true := by
  induction s generalizing x skip with
  | nil => cases h
  | cons c s ih =>
    rw [occursAfter, Bool.or_eq_true]
    cases skip with
    | succ skip => exact .inr (ih h)
    | zero =>
      by_cases hempty : p.restsAt x (c :: s) = []
      · rw [matchesAfter, lengthAt?, hempty] at h
        exact .inr (ih h)
      · exact .inl (by simpa using hempty)

end Pattern

/-! ## Pieces that may be left out -/

/-- A row with a piece that may be left out fits what the row without it or the row with it fits. -/
theorem fits_maybe {ps qs : List Piece} {K : CharSet} {t : List Char} :
    Fits (ps ++ [.maybe K] ++ qs) t ↔ Fits (ps ++ qs) t ∨ Fits (ps ++ [.one K] ++ qs) t := by
  simp only [List.append_assoc, List.singleton_append, fits_append, fits_maybe_cons, fits_one_cons]
  constructor
  · rintro ⟨u, v, rfl, hu, hv | hv⟩
    · exact .inl ⟨u, v, rfl, hu, hv⟩
    · exact .inr ⟨u, v, rfl, hu, hv⟩
  · rintro (⟨u, v, rfl, hu, hv⟩ | ⟨u, v, rfl, hu, hv⟩)
    · exact ⟨u, v, rfl, hu, .inl hv⟩
    · exact ⟨u, v, rfl, hu, .inr hv⟩

theorem Pattern.occursIn_maybe_iff {ps qs : List Piece} {K : CharSet} {s : List Char} :
    (Pattern.of (ps ++ [.maybe K] ++ qs)).occursIn s = true ↔
      (Pattern.of (ps ++ qs)).occursIn s = true ∨
        (Pattern.of (ps ++ [.one K] ++ qs)).occursIn s = true := by
  simp only [occursIn_of_iff, fits_maybe, and_or_left, exists_or]
end ComponentCensus
