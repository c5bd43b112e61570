import ComponentCensus.Proofs.Pattern.Occurrence
import ComponentCensus.Proofs.Text.Respacing

/-!
# Patterns that do not see the layout

Most patterns allow for blanks wherever a reader may put them, and then it does not matter which
blanks these are, as long as there are some.  Two things can go wrong: a set that has some blanks
and lacks others, and a place that counts the blanks.  Neither is hard to rule out by looking at
the pieces.

* `CharSet.isSolid`, `CharSet.holdsBlanks` — a set without blanks, and a set with all of them.
* `Pattern.layoutFree` — the test: outside of runs a pattern asks for solid characters only, every
  run holds all blanks and goes up to a solid character, and so do the stretches begin and end.
* `Pattern.occursAfter_respaced` — such a pattern occurs in both of two texts that differ in their
  blanks, or in neither.
* `Pattern.matchesAfter_respaced` — if it is definite as well, the stretches found in the two texts
  correspond one by one.
-/

set_option autoImplicit false

namespace ComponentCensus

open Text

/-! ## In front of a place -/

/-- What holds of the listed code points holds of every blank character. -/
theorem forall_blank {P : Char → Bool} (h : (blankCodes.all fun n => P (Char.ofNat n)) = true)
    {c : Char} (hc : isBlank c = true) : P c = true := by
  have hmem : c.toNat ∈ blankCodes := List.contains_iff_mem.1 hc
  simpa using List.all_eq_true.1 h _ hmem

/-- A blank character is no word character. -/
theorem isWord_of_isBlank {c : Char} (h : isBlank c = true) : isWord c = false := by
  have hnot : (!isWord c) = true := forall_blank (P := fun c => !isWord c) (by decide +kernel) h
  simpa using hnot

/-- Two places with the same character in front of them, or with blanks, or with nothing. -/
def Alike (x y : Option Char) : Prop :=
  x = y ∨ ∃ b b', x = some b ∧ y = some b' ∧ isBlank b = true ∧ isBlank b' = true

theorem Alike.symm {x y : Option Char} (h : Alike x y) : Alike y x := by
  rcases h with rfl | ⟨b, b', rfl, rfl, hb, hb'⟩
  · exact .inl rfl
  · exact .inr ⟨b', b, rfl, rfl, hb', hb⟩

theorem Alike.wordMayStart_eq {x y : Option Char} (h : Alike x y) :
    wordMayStart x = wordMayStart y := by
  rcases h with rfl | ⟨b, b', rfl, rfl, hb, hb'⟩
  · rfl
  · simp [wordMayStart, isWord_of_isBlank hb, isWord_of_isBlank hb']

theorem alike_of_blanks {u v : List Char} (hu : u ≠ []) (hv : v ≠ [])
    (hublank : ∀ c ∈ u, isBlank c = true) (hvblank : ∀ c ∈ v, isBlank c = true)
    (x y : Option Char) : Alike (u.getLast?.or x) (v.getLast?.or y) := by
  refine .inr ⟨u.getLast hu, v.getLast hv, ?_, ?_, ?_, ?_⟩
  · rw [List.getLast?_eq_some_getLast hu, Option.some_or]
  · rw [List.getLast?_eq_some_getLast hv, Option.some_or]
  · exact hublank _ (List.getLast_mem hu)
  · exact hvblank _ (List.getLast_mem hv)

/-- The ends of corresponding texts are alike. -/
theorem alike_of_respaced {s t : List Char} (h : Respaced s t) {x y : Option Char}
    (hxy : Alike x y) : Alike (s.getLast?.or x) (t.getLast?.or y) := by
  induction h generalizing x y with
  | nil => simpa using hxy
  | solid _ _ ih =>
    rw [getLast?_cons_or, getLast?_cons_or]
    exact ih (.inl rfl)
  | blanks hu hv hublank hvblank _ ih =>
    rw [getLast?_append_or, getLast?_append_or]
    exact ih (alike_of_blanks hu hv hublank hvblank x y)

/-! ## Sets of characters -/

namespace CharSet

/-- Whether a set is without blanks. -/
def isSolid (K : CharSet) : Bool := blankCodes.all fun n => !K.has (Char.ofNat n)

/-- Whether a set has all blanks. -/
def holdsBlanks (K : CharSet) : Bool := blankCodes.all fun n => K.has (Char.ofNat n)

theorem isBlank_of_isSolid {K : CharSet} (hK : K.isSolid = true) {c : Char} (hc : K.has c = true) :
    isBlank c = false := by
  by_contra hblank
  have hnot : (!K.has c) = true := forall_blank (P := fun c => !K.has c) hK (by simpa using hblank)
  rw [hc] at hnot
  exact absurd hnot (by decide)

/-- Exchanging blanks for blanks does not lead out of a set that has all of them. -/
theorem forall_has_respaced {K : CharSet} (hK : K.holdsBlanks = true) {s t : List Char}
    (h : Respaced s t) (hs : ∀ c ∈ s, K.has c = true) : ∀ c ∈ t, K.has c = true := by
  intro c hc
  rcases h.isBlank_or_mem c hc with hblank | hmem
  · exact forall_blank hK hblank
  · exact hs c hmem

end CharSet

/-! ## Rows of pieces -/

/-- Whether every stretch that fits the pieces starts with a character that is not blank. -/
def startsSolid : List Piece → Bool
  | .one K :: _ => K.isSolid
  | .maybe K :: ps => K.isSolid && startsSolid ps
  | _ => false

/-- Whether every stretch that fits the pieces ends with a character that is not blank. -/
def endsSolid (ps : List Piece) : Bool :=
  match ps.getLast? with
  | some (.one K) => K.isSolid
  | _ => false

/-- Whether exchanging blanks for blanks leads from stretches that fit the pieces to such stretches
only.  A piece may take one blank if a run of the same set comes next. -/
def keepsLayout : List Piece → Bool
  | [] => true
  | .one K :: ps => (K.isSolid || ps.head? == some (.run K)) && keepsLayout ps
  | .maybe K :: ps => K.isSolid && keepsLayout ps
  | .run K :: ps => K.holdsBlanks && startsSolid ps && keepsLayout ps

theorem exists_cons_of_startsSolid {ps : List Piece} (hps : startsSolid ps = true)
    {t : List Char} (ht : Fits ps t) : ∃ c u, t = c :: u ∧ isBlank c = false := by
  fun_induction startsSolid ps with
  | case1 K ps =>
    obtain ⟨c, u, rfl, hc, -⟩ := fits_one_cons.1 ht
    exact ⟨c, u, rfl, CharSet.isBlank_of_isSolid hps hc⟩
  | case2 K ps ih =>
    rw [Bool.and_eq_true] at hps
    rcases fits_maybe_cons.1 ht with ht | ⟨c, u, rfl, hc, -⟩
    · exact ih hps.2 ht
    · exact ⟨c, u, rfl, CharSet.isBlank_of_isSolid hps.1 hc⟩
  | case3 => simp at hps

theorem exists_concat_of_endsSolid {ps : List Piece} (hps : endsSolid ps = true)
    {t : List Char} (ht : Fits ps t) : ∃ u c, t = u ++ [c] ∧ isBlank c = false := by
  unfold endsSolid at hps
  split at hps
  · rename_i K hlast
    obtain ⟨qs, rfl⟩ := List.getLast?_eq_some_iff.1 hlast
    obtain ⟨u, v, rfl, -, hv⟩ := fits_append.1 ht
    obtain ⟨c, w, rfl, hc, hw⟩ := fits_one_cons.1 hv
    obtain rfl := fits_nil.1 hw
    exact ⟨u, c, rfl, CharSet.isBlank_of_isSolid hps hc⟩
  · simp at hps

/-- More characters of its set may stand in front of a run. -/
theorem fits_run_append {K : CharSet} {ps : List Piece} {a t : List Char}
    (ha : ∀ c ∈ a, K.has c = true) (ht : Fits (.run K :: ps) t) :
    Fits (.run K :: ps) (a ++ t) := by
  obtain ⟨b, u, rfl, hb, hu⟩ := fits_run_cons.1 ht
  rw [← List.append_assoc]
  refine fits_run_cons.2 ⟨a ++ b, u, rfl, ?_, hu⟩
  intro c hc
  rcases List.mem_append.1 hc with hc | hc
  · exact ha c hc
  · exact hb c hc

/-- A run and what comes after it correspond to a run and what comes after that. -/
theorem exists_run_respaced {K : CharSet} (hK : K.holdsBlanks = true) {ps : List Piece}
    (hps : startsSolid ps = true) {a t s : List Char} (ha : ∀ c ∈ a, K.has c = true)
    (ht : Fits ps t) (h : Respaced (a ++ t) s) :
    ∃ a' t', s = a' ++ t' ∧ Respaced a a' ∧ (∀ c ∈ a', K.has c = true) ∧ Respaced t t' := by
  obtain ⟨c, u, rfl, hc⟩ := exists_cons_of_startsSolid hps ht
  obtain ⟨a', u', rfl, ha', hu'⟩ := h.exists_append_cons hc
  exact ⟨a', c :: u', rfl, ha', CharSet.forall_has_respaced hK ha' ha, .solid hc hu'⟩

theorem fits_respaced {ps : List Piece} (hps : keepsLayout ps = true) {t t' : List Char}
    (ht : Fits ps t) (h : Respaced t t') : Fits ps t' := by
  induction ps generalizing t t' with
  | nil =>
    obtain rfl := fits_nil.1 ht
    exact fits_nil.2 (h.eq_nil_iff.1 rfl)
  | cons p ps ih =>
    cases p with
    | one K =>
      rw [keepsLayout, Bool.and_eq_true, Bool.or_eq_true, beq_iff_eq] at hps
      obtain ⟨c, u, rfl, hc, hu⟩ := fits_one_cons.1 ht
      rcases hps with ⟨hK | hrun, hkeep⟩
      · obtain ⟨u', rfl, hu'⟩ := h.exists_cons (CharSet.isBlank_of_isSolid hK hc)
        exact fits_one_cons.2 ⟨c, u', rfl, hc, ih hkeep hu hu'⟩
      · -- the character is one more character of the run
        obtain ⟨qs, rfl⟩ := List.head?_eq_some_iff.1 hrun
        have hkeep' := hkeep
        rw [keepsLayout, Bool.and_eq_true, Bool.and_eq_true] at hkeep'
        obtain ⟨a, v, rfl, ha, hv⟩ := fits_run_cons.1 hu
        have hca : ∀ d ∈ c :: a, K.has d = true := List.forall_mem_cons.2 ⟨hc, ha⟩
        obtain ⟨a', v', rfl, hrespaced, ha', hv'⟩ :=
          exists_run_respaced hkeep'.1.1 hkeep'.1.2 hca hv h
        cases a' with
        | nil => exact absurd (hrespaced.eq_nil_iff.2 rfl) (List.cons_ne_nil c a)
        | cons e a' =>
          obtain ⟨he, ha'⟩ := List.forall_mem_cons.1 ha'
          have hrest : Fits (.run K :: qs) v' :=
            ih hkeep (fits_run_cons.2 ⟨[], v, rfl, by simp, hv⟩) hv'
          exact fits_one_cons.2 ⟨e, a' ++ v', rfl, he, fits_run_append ha' hrest⟩
    | maybe K =>
      rw [keepsLayout, Bool.and_eq_true] at hps
      rcases fits_maybe_cons.1 ht with ht | ⟨c, u, rfl, hc, hu⟩
      · exact fits_maybe_cons.2 (.inl (ih hps.2 ht h))
      · obtain ⟨u', rfl, hu'⟩ := h.exists_cons (CharSet.isBlank_of_isSolid hps.1 hc)
        exact fits_maybe_cons.2 (.inr ⟨c, u', rfl, hc, ih hps.2 hu hu'⟩)
    | run K =>
      rw [keepsLayout, Bool.and_eq_true, Bool.and_eq_true] at hps
      obtain ⟨a, v, rfl, ha, hv⟩ := fits_run_cons.1 ht
      obtain ⟨a', v', rfl, -, ha', hv'⟩ := exists_run_respaced hps.1.1 hps.1.2 ha hv h
      exact fits_run_cons.2 ⟨a', v', rfl, ha', ih hps.2 hv hv'⟩

/-! ## Patterns -/

namespace Pattern

/-- Whether a pattern does not see which blanks stand where blanks may stand. -/
def layoutFree (p : Pattern) : Bool :=
  p.choices.all fun ps => startsSolid ps && endsSolid ps && keepsLayout ps

section
variable {p : Pattern} {x y : Option Char} {t t' : List Char}

theorem exists_cons_of_fits (hp : p.layoutFree = true) (ht : p.Fits x t) :
    ∃ c u, t = c :: u ∧ isBlank c = false := by
  obtain ⟨-, ps, hps, ht⟩ := ht
  have h := List.all_eq_true.1 hp ps hps
  rw [Bool.and_eq_true, Bool.and_eq_true] at h
  exact exists_cons_of_startsSolid h.1.1 ht

theorem exists_concat_of_fits (hp : p.layoutFree = true) (ht : p.Fits x t) :
    ∃ u c, t = u ++ [c] ∧ isBlank c = false := by
  obtain ⟨-, ps, hps, ht⟩ := ht
  have h := List.all_eq_true.1 hp ps hps
  rw [Bool.and_eq_true, Bool.and_eq_true] at h
  exact exists_concat_of_endsSolid h.1.2 ht

/-- What fits a layout-free pattern still fits it with other blanks. -/
theorem fits_of_respaced (hp : p.layoutFree = true) (hxy : Alike x y) (ht : p.Fits x t)
    (h : Respaced t t') : p.Fits y t' := by
  obtain ⟨hword, ps, hps, ht⟩ := ht
  have hkeep := List.all_eq_true.1 hp ps hps
  rw [Bool.and_eq_true] at hkeep
  refine ⟨?_, ps, hps, fits_respaced hkeep.2 ht h⟩
  intro hs
  rw [← hxy.wordMayStart_eq]
  exact hword hs

/-- A stretch at the front of a text corresponds to one at the front of the other text. -/
theorem exists_fits_respaced (hp : p.layoutFree = true) (hxy : Alike x y) (ht : p.Fits x t)
    {z s : List Char} (h : Respaced (t ++ z) s) :
    ∃ t' z', s = t' ++ z' ∧ p.Fits y t' ∧ Respaced t t' ∧ Respaced z z' := by
  obtain ⟨u, c, rfl, hc⟩ := exists_concat_of_fits hp ht
  obtain ⟨t', z', rfl, ht', hz'⟩ := h.exists_append_of_concat hc
  exact ⟨t', z', rfl, fits_of_respaced hp hxy ht ht', ht', hz'⟩

end

theorem occursAfter_of_respaced {p : Pattern} (hp : p.layoutFree = true) {x y : Option Char}
    (hxy : Alike x y) {s s' : List Char} (h : Respaced s s') (hs : p.occursAfter x s = true) :
    p.occursAfter y s' = true := by
  obtain ⟨a, t, z, rfl, ht⟩ := occursAfter_iff.1 hs
  obtain ⟨c, u, rfl, hc⟩ := exists_cons_of_fits hp ht
  obtain ⟨a', b', rfl, ha, hb⟩ := h.exists_append_cons hc
  have hfront : Respaced (c :: u ++ z) (c :: b') := .solid hc hb
  obtain ⟨t', z', heq, ht', -, -⟩ :=
    exists_fits_respaced hp (alike_of_respaced ha hxy) ht hfront
  rw [heq]
  exact occursAfter_iff.2 ⟨a', t', z', rfl, ht'⟩

/-- A layout-free pattern occurs in both of two texts that differ in their blanks, or in neither. -/
theorem occursAfter_respaced {p : Pattern} (hp : p.layoutFree = true) {x y : Option Char}
    (hxy : Alike x y) {s s' : List Char} (h : Respaced s s') :
    p.occursAfter x s = p.occursAfter y s' := by
  rw [Bool.eq_iff_iff]
  exact ⟨occursAfter_of_respaced hp hxy h, occursAfter_of_respaced hp hxy.symm h.symm⟩

/-- No stretch starts with a blank, so the search passes over blanks. -/
theorem matchesAfter_blanks {p : Pattern} (hp : p.layoutFree = true) {u : List Char}
    (hu : ∀ c ∈ u, isBlank c = true) (x : Option Char) (s : List Char) :
    p.matchesAfter x 0 (u ++ s) = p.matchesAfter (u.getLast?.or x) 0 s := by
  induction u generalizing x with
  | nil => rfl
  | cons b u ih =>
    obtain ⟨hb, hu⟩ := List.forall_mem_cons.1 hu
    have hnot : ∀ t z, b :: (u ++ s) = t ++ z → ¬ p.Fits x t := by
      intro t z heq ht
      obtain ⟨c, v, rfl, hc⟩ := exists_cons_of_fits hp ht
      obtain ⟨rfl, -⟩ := List.cons.inj heq
      rw [hb] at hc
      exact absurd hc (by decide)
    rw [List.cons_append, matchesAfter_cons_of_not hnot, ih hu, getLast?_cons_or]

/-- The stretches of a definite layout-free pattern in two texts that differ in their blanks
correspond one by one, and differ in their blanks themselves. -/
theorem matchesAfter_respaced {p : Pattern} (hp : p.layoutFree = true) (hd : p.definite = true)
    {x y : Option Char} (hxy : Alike x y) {s s' : List Char} (h : Respaced s s') :
    List.Forall₂ Respaced (p.matchesAfter x 0 s) (p.matchesAfter y 0 s') := by
  -- the search goes on behind a stretch, so the induction is on the length of the text
  induction hn : s.length using Nat.strongRecOn generalizing s s' x y with
  | _ n ih =>
    subst hn
    cases h with
    | nil => exact .nil
    | @blanks u v s s' hu hv hublank hvblank h =>
      rw [matchesAfter_blanks hp hublank, matchesAfter_blanks hp hvblank]
      refine ih s.length ?_ (alike_of_blanks hu hv hublank hvblank x y) h rfl
      have := List.length_pos_iff.2 hu
      rw [List.length_append]
      omega
    | @solid c s s' hc h =>
      by_cases hfits : ∃ t z, c :: s = t ++ z ∧ p.Fits x t
      · obtain ⟨t, z, heq, ht⟩ := hfits
        have hcs : Respaced (t ++ z) (c :: s') := heq ▸ .solid hc h
        obtain ⟨t', z', heq', ht', htt', hzz'⟩ := exists_fits_respaced hp hxy ht hcs
        have hne : t ≠ [] := by
          obtain ⟨d, u, rfl, -⟩ := exists_cons_of_fits hp ht
          exact List.cons_ne_nil d u
        have hne' : t' ≠ [] := fun hnil => hne (htt'.eq_nil_iff.2 hnil)
        rw [heq, heq', matchesAfter_of_fits hd hne ht, matchesAfter_of_fits hd hne' ht']
        refine .cons htt' (ih z.length ?_ (alike_of_respaced htt' hxy) hzz' rfl)
        have := List.length_pos_iff.2 hne
        rw [heq, List.length_append]
        omega
      · have hnot : ∀ t z, c :: s = t ++ z → ¬ p.Fits x t :=
          fun t z heq ht => hfits ⟨t, z, heq, ht⟩
        have hnot' : ∀ t z, c :: s' = t ++ z → ¬ p.Fits y t := by
          intro t' z' heq ht'
          have hcs : Respaced (t' ++ z') (c :: s) := heq ▸ (Respaced.solid hc h).symm
          obtain ⟨t, z, heq, ht, -, -⟩ := exists_fits_respaced hp hxy.symm ht' hcs
          exact hnot t z heq ht
        rw [matchesAfter_cons_of_not hnot, matchesAfter_cons_of_not hnot']
        exact ih s.length (Nat.lt_succ_self _) (.inl rfl) h rfl

end Pattern
end ComponentCensus
