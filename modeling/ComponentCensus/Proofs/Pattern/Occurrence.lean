import Mathlib.Data.List.Pairwise
import ComponentCensus.Pattern.Search

/-!
# Where a pattern fits

Searching tries every place of a text and lists what may follow there.  The statements here speak
of the stretches instead: a pattern occurs if some stretch of the text fits it, and the stretches
found from left to right are those that fit where the last one ended.

* `Pattern.Fits` — the stretches that a pattern takes after a given character.
* `Pattern.occursAfter_iff` — what it means to occur.
* `settles`, `apartAt`, `Pattern.definite` — a test on the pieces of a pattern, and
  `Pattern.eq_of_definite`: a pattern that passes it takes at most one stretch at a place.
* `Pattern.matchesAfter_of_fits`, `Pattern.matchesAfter_cons_of_not` — how the search of a
  definite pattern goes on where a stretch fits, and where none does; `Pattern.induction_on_search`
  — the induction that follows it.
-/

set_option autoImplicit false

namespace ComponentCensus

/-! ## Rows of pieces -/

theorem fits_nil {t : List Char} : Fits [] t ↔ t = [] := by
  constructor
  · intro h; cases h; rfl
  · rintro rfl; exact .nil

theorem fits_cons {p : Piece} {ps : List Piece} {t : List Char} :
    Fits (p :: ps) t ↔ ∃ u v, t = u ++ v ∧ p.Fits u ∧ Fits ps v := by
  constructor
  · intro h
    cases h with
    | cons hp hps => exact ⟨_, _, rfl, hp, hps⟩
  · rintro ⟨u, v, rfl, hp, hps⟩
    exact .cons hp hps

theorem fits_append {ps qs : List Piece} {t : List Char} :
    Fits (ps ++ qs) t ↔ ∃ u v, t = u ++ v ∧ Fits ps u ∧ Fits qs v := by
  induction ps generalizing t with
  | nil =>
    constructor
    · intro h; exact ⟨[], t, rfl, .nil, h⟩
    · rintro ⟨u, v, rfl, hu, hv⟩
      obtain rfl := fits_nil.1 hu
      exact hv
  | cons p ps ih =>
    rw [List.cons_append]
    constructor
    · intro h
      obtain ⟨u, w, rfl, hp, hw⟩ := fits_cons.1 h
      obtain ⟨v, z, rfl, hps, hqs⟩ := ih.1 hw
      exact ⟨u ++ v, z, by rw [List.append_assoc], .cons hp hps, hqs⟩
    · rintro ⟨w, z, rfl, hw, hqs⟩
      obtain ⟨u, v, rfl, hp, hps⟩ := fits_cons.1 hw
      rw [List.append_assoc]
      exact .cons hp (ih.2 ⟨v, z, rfl, hps, hqs⟩)

theorem Fits.append {ps qs : List Piece} {t u : List Char} (ht : Fits ps t) (hu : Fits qs u) :
    Fits (ps ++ qs) (t ++ u) :=
  fits_append.2 ⟨t, u, rfl, ht, hu⟩

theorem fits_one_cons {K : CharSet} {ps : List Piece} {t : List Char} :
    Fits (.one K :: ps) t ↔ ∃ c u, t = c :: u ∧ K.has c = true ∧ Fits ps u := by
  rw [fits_cons]
  constructor
  · rintro ⟨u, v, rfl, ⟨c, rfl, hc⟩, hps⟩
    exact ⟨c, v, rfl, hc, hps⟩
  · rintro ⟨c, u, rfl, hc, hps⟩
    exact ⟨[c], u, rfl, ⟨c, rfl, hc⟩, hps⟩

theorem fits_run_cons {K : CharSet} {ps : List Piece} {t : List Char} :
    Fits (.run K :: ps) t ↔ ∃ u v, t = u ++ v ∧ (∀ c ∈ u, K.has c = true) ∧ Fits ps v := fits_cons

theorem fits_maybe_cons {K : CharSet} {ps : List Piece} {t : List Char} :
    Fits (.maybe K :: ps) t ↔
      Fits ps t ∨ ∃ c u, t = c :: u ∧ K.has c = true ∧ Fits ps u := by
  rw [fits_cons]
  constructor
  · rintro ⟨u, v, rfl, rfl | ⟨c, rfl, hc⟩, hps⟩
    · exact .inl hps
    · exact .inr ⟨c, v, rfl, hc, hps⟩
  · rintro (h | ⟨c, u, rfl, hc, hps⟩)
    · exact ⟨[], t, rfl, .inl rfl, h⟩
    · exact ⟨[c], u, rfl, .inr ⟨c, rfl, hc⟩, hps⟩

/-- A mark fits itself alone. -/
theorem fits_mark {c : Char} {t : List Char} : Fits (mark c) t ↔ t = [c] := by
  rw [mark, fits_one_cons]
  constructor
  · rintro ⟨d, u, rfl, hd, hu⟩
    rw [fits_nil.1 hu, beq_iff_eq.1 hd]
  · rintro rfl
    exact ⟨c, [], rfl, beq_self_eq_true c, .nil⟩

/-- A name as it is written fits itself alone. -/
theorem fits_asWritten {name : String} {t : List Char} :
    Fits (asWritten name) t ↔ t = name.toList := by
  rw [asWritten]
  induction name.toList generalizing t with
  | nil => exact fits_nil
  | cons c cs ih =>
    simp only [List.map_cons, fits_one_cons, CharSet.has, beq_iff_eq, ih]
    constructor
    · rintro ⟨d, u, rfl, rfl, rfl⟩
      rfl
    · rintro rfl
      exact ⟨c, cs, rfl, rfl, rfl⟩

/-! ## Occurrences -/

theorem getLast?_cons_or (c : Char) (s : List Char) (x : Option Char) :
    (c :: s).getLast?.or x = s.getLast?.or (some c) := by
  cases hs : s.getLast? <;> simp [List.getLast?_cons, hs]

theorem getLast?_append_or (s t : List Char) (x : Option Char) :
    (s ++ t).getLast?.or x = t.getLast?.or (s.getLast?.or x) := by
  rw [List.getLast?_append, Option.or_assoc]

namespace Pattern

/-- The stretches that fit a pattern after the character `before`. -/
def Fits (p : Pattern) (before : Option Char) (t : List Char) : Prop :=
  (p.startsWord = true → wordMayStart before = true) ∧
    ∃ ps ∈ p.choices, ComponentCensus.Fits ps t

theorem mem_restsAt {p : Pattern} {x : Option Char} {s r : List Char} :
    r ∈ p.restsAt x s ↔ ∃ t, s = t ++ r ∧ p.Fits x t := by
  unfold restsAt Fits
  split
  · rename_i hword
    rw [Bool.and_eq_true, Bool.not_eq_true'] at hword
    constructor
    · intro h; simp at h
    · rintro ⟨t, -, hmay, -⟩
      rw [hmay hword.1] at hword
      exact absurd hword.2 (by decide)
  · rename_i hword
    have hmay : p.startsWord = true → wordMayStart x = true := by
      intro hs
      rw [hs] at hword
      simpa using hword
    rw [List.mem_flatMap]
    constructor
    · rintro ⟨ps, hps, hr⟩
      obtain ⟨t, ht, hfits⟩ := mem_restsOf.1 hr
      exact ⟨t, ht, hmay, ps, hps, hfits⟩
    · rintro ⟨t, ht, -, ps, hps, hfits⟩
      exact ⟨ps, hps, mem_restsOf.2 ⟨t, ht, hfits⟩⟩

theorem isEmpty_restsAt_iff {p : Pattern} {x : Option Char} {s : List Char} :
    (p.restsAt x s).isEmpty = false ↔ ∃ t z, s = t ++ z ∧ p.Fits x t := by
  rw [List.isEmpty_eq_false_iff_exists_mem]
  constructor
  · rintro ⟨z, hz⟩
    obtain ⟨t, ht, hfits⟩ := mem_restsAt.1 hz
    exact ⟨t, z, ht, hfits⟩
  · rintro ⟨t, z, ht, hfits⟩
    exact ⟨z, mem_restsAt.2 ⟨t, ht, hfits⟩⟩

/-- A pattern occurs in a text if a stretch of the text fits it. -/
theorem occursAfter_iff {p : Pattern} {x : Option Char} {s : List Char} :
    p.occursAfter x s = true ↔
      ∃ a t z, s = a ++ (t ++ z) ∧ p.Fits (a.getLast?.or x) t := by
  induction s generalizing x with
  | nil =>
    rw [occursAfter, Bool.not_eq_true', isEmpty_restsAt_iff]
    constructor
    · rintro ⟨t, z, htz, hfits⟩
      exact ⟨[], t, z, htz, hfits⟩
    · rintro ⟨a, t, z, htz, hfits⟩
      obtain ⟨rfl, htz'⟩ := List.append_eq_nil_iff.1 htz.symm
      exact ⟨t, z, htz'.symm, hfits⟩
  | cons c s ih =>
    rw [occursAfter, Bool.or_eq_true, Bool.not_eq_true', isEmpty_restsAt_iff, ih]
    constructor
    · rintro (⟨t, z, htz, hfits⟩ | ⟨a, t, z, rfl, hfits⟩)
      · exact ⟨[], t, z, htz, hfits⟩
      · refine ⟨c :: a, t, z, rfl, ?_⟩
        rw [getLast?_cons_or]
        exact hfits
    · rintro ⟨a, t, z, htz, hfits⟩
      cases a with
      | nil => exact .inl ⟨t, z, htz, hfits⟩
      | cons d a =>
        obtain ⟨rfl, rfl⟩ := List.cons.inj htz
        rw [getLast?_cons_or] at hfits
        exact .inr ⟨a, t, z, rfl, hfits⟩

end Pattern

/-! ## At most one stretch at a place -/

/-- Whether the test finds two sets to have no character in common.  It looks at single characters
only. -/
def CharSet.apart : CharSet → CharSet → Bool
  | .exactly c, L => !L.has c
  | K, .exactly c => !K.has c
  | _, _ => false

theorem CharSet.has_eq_false_of_apart {K L : CharSet} (h : K.apart L = true) {c : Char}
    (hK : K.has c = true) : L.has c = false := by
  unfold apart at h
  split at h
  · obtain rfl := beq_iff_eq.1 hK
    simpa using h
  · rename_i d _
    by_contra hL
    obtain rfl : d = c := by simpa [has] using hL
    simp [hK] at h
  · simp at h

/-- Whether the stretch that fits the pieces is settled by the text: every run goes up to a
character that the run itself does not take. -/
def settles : List Piece → Bool
  | [] => true
  | .one _ :: ps => settles ps
  | .run K :: .one L :: ps => K.apart L && settles ps
  | _ => false

/-- Whether no text goes on with both rows of pieces, seen from a piece that takes one character in
either. -/
def apartAt : List Piece → List Piece → Bool
  | .one K :: ps, .one L :: qs => K.apart L || apartAt ps qs
  | _, _ => false

/-- Two readings of one text by a run end at the same place if what comes next is not in the run. -/
theorem run_eq_of_append_eq {P : Char → Bool} {a b s t : List Char} {c d : Char}
    (ha : ∀ x ∈ a, P x = true) (hb : ∀ x ∈ b, P x = true) (hc : P c = false) (hd : P d = false)
    (h : a ++ c :: s = b ++ d :: t) : a = b ∧ c :: s = d :: t := by
  have htake : ∀ {a s : List Char} {c : Char}, (∀ x ∈ a, P x = true) → P c = false →
      (a ++ c :: s).takeWhile P = a := by
    intro a s c ha hc
    rw [List.takeWhile_append_of_pos ha, List.takeWhile_cons_of_neg (by simp [hc]),
      List.append_nil]
  have hab : a = b := by rw [← htake ha hc, h, htake hb hd]
  subst hab
  exact ⟨rfl, List.append_cancel_left h⟩

theorem eq_of_settles {ps : List Piece} (hps : settles ps = true) {t t' z z' : List Char}
    (ht : Fits ps t) (ht' : Fits ps t') (heq : t ++ z = t' ++ z') : t = t' := by
  fun_induction settles ps generalizing t t' with
  | case1 => rw [fits_nil.1 ht, fits_nil.1 ht']
  | case2 K ps ih =>
    obtain ⟨c, u, rfl, -, hu⟩ := fits_one_cons.1 ht
    obtain ⟨c', u', rfl, -, hu'⟩ := fits_one_cons.1 ht'
    obtain ⟨rfl, hrest⟩ := List.cons.inj heq
    rw [ih hps hu hu' hrest]
  | case3 K L ps ih =>
    rw [Bool.and_eq_true] at hps
    obtain ⟨a, u, rfl, ha, hu⟩ := fits_run_cons.1 ht
    obtain ⟨a', u', rfl, ha', hu'⟩ := fits_run_cons.1 ht'
    obtain ⟨c, v, rfl, hc, hv⟩ := fits_one_cons.1 hu
    obtain ⟨c', v', rfl, hc', hv'⟩ := fits_one_cons.1 hu'
    -- what ends a run is no character of it
    have hstop : ∀ {d : Char}, L.has d = true → K.has d = false := by
      intro d hd
      by_contra hK
      rw [CharSet.has_eq_false_of_apart hps.1 (by simpa using hK)] at hd
      exact absurd hd (by decide)
    rw [List.append_assoc, List.append_assoc, List.cons_append, List.cons_append] at heq
    obtain ⟨rfl, hcons⟩ := run_eq_of_append_eq ha ha' (hstop hc) (hstop hc') heq
    obtain ⟨rfl, hrest⟩ := List.cons.inj hcons
    rw [ih hps.2 hv hv' hrest]
  | case4 => simp at hps

/-- No text goes on with both rows of pieces. -/
def Apart (ps qs : List Piece) : Prop :=
  ∀ ⦃t t' z z' : List Char⦄, Fits ps t → Fits qs t' → t ++ z ≠ t' ++ z'

instance : Std.Symm Apart where
  symm _ _ h _ _ _ _ ht ht' heq := h ht' ht heq.symm

theorem apart_of_apartAt {ps qs : List Piece} (hpq : apartAt ps qs = true) : Apart ps qs := by
  fun_induction apartAt ps qs with
  | case1 K ps L qs ih =>
    intro t t' z z' ht ht' heq
    obtain ⟨c, u, rfl, hc, hu⟩ := fits_one_cons.1 ht
    obtain ⟨c', u', rfl, hc', hu'⟩ := fits_one_cons.1 ht'
    obtain ⟨rfl, hrest⟩ := List.cons.inj heq
    rcases (Bool.or_eq_true ..).mp hpq with hpq | hpq
    · rw [CharSet.has_eq_false_of_apart hpq hc] at hc'
      exact absurd hc' (by decide)
    · exact ih hpq hu hu' hrest
  | case2 => simp at hpq

namespace Pattern

/-- Whether each way of writing the pattern settles its stretch and no two of them meet. -/
def definite (p : Pattern) : Bool :=
  p.choices.all settles && decide (p.choices.Pairwise fun ps qs => apartAt ps qs = true)

/-- A definite pattern takes at most one stretch at a place. -/
theorem eq_of_definite {p : Pattern} (hp : p.definite = true) {x : Option Char}
    {t t' z z' : List Char} (ht : p.Fits x t) (ht' : p.Fits x t') (heq : t ++ z = t' ++ z') :
    t = t' := by
  rw [definite, Bool.and_eq_true, List.all_eq_true, decide_eq_true_eq] at hp
  obtain ⟨-, ps, hps, ht⟩ := ht
  obtain ⟨-, qs, hqs, ht'⟩ := ht'
  by_cases hne : ps = qs
  · subst hne
    exact eq_of_settles (hp.1 ps hps) ht ht' heq
  · have hapart : p.choices.Pairwise Apart := hp.2.imp apart_of_apartAt
    exact absurd heq (hapart.forall hps hqs hne ht ht')

/-! ## The search from left to right -/

theorem lengthAt?_of_fits {p : Pattern} (hp : p.definite = true) {x : Option Char}
    {t : List Char} (ht : p.Fits x t) (z : List Char) :
    p.lengthAt? x (t ++ z) = some t.length := by
  have hmem : z ∈ p.restsAt x (t ++ z) := mem_restsAt.2 ⟨t, rfl, ht⟩
  obtain ⟨r, rs, hrs⟩ := List.exists_cons_of_ne_nil (List.ne_nil_of_mem hmem)
  obtain ⟨t', heq, ht'⟩ := mem_restsAt.1 (hrs ▸ List.mem_cons_self .. : r ∈ p.restsAt x (t ++ z))
  obtain rfl := eq_of_definite hp ht ht' heq
  rw [lengthAt?, hrs, List.head?_cons, Option.map_some, heq, List.length_append]
  simp

theorem lengthAt?_eq_none {p : Pattern} {x : Option Char} {s : List Char}
    (h : ∀ t z, s = t ++ z → ¬ p.Fits x t) : p.lengthAt? x s = none := by
  have hnil : p.restsAt x s = [] := by
    rw [List.eq_nil_iff_forall_not_mem]
    intro r hr
    obtain ⟨t, ht, hfits⟩ := mem_restsAt.1 hr
    exact h t r ht hfits
  rw [lengthAt?, hnil, List.head?_nil, Option.map_none]

/-- Characters that belong to the last stretch are passed over. -/
theorem matchesAfter_skip (p : Pattern) (x : Option Char) (a z : List Char) :
    p.matchesAfter x a.length (a ++ z) = p.matchesAfter (a.getLast?.or x) 0 z := by
  induction a generalizing x with
  | nil => rfl
  | cons c a ih =>
    rw [List.length_cons, List.cons_append, matchesAfter, ih, getLast?_cons_or]

/-- Where a stretch fits, it is taken, and the search goes on behind it. -/
theorem matchesAfter_of_fits {p : Pattern} (hp : p.definite = true) {x : Option Char}
    {t : List Char} (hne : t ≠ []) (ht : p.Fits x t) (z : List Char) :
    p.matchesAfter x 0 (t ++ z) = t :: p.matchesAfter (t.getLast?.or x) 0 z := by
  have hlength := lengthAt?_of_fits hp ht z
  cases t with
  | nil => exact absurd rfl hne
  | cons c t =>
    rw [List.cons_append] at hlength ⊢
    rw [List.length_cons] at hlength
    rw [matchesAfter, hlength]
    simp only [List.take_succ_cons, List.take_left]
    rw [matchesAfter_skip, getLast?_cons_or]

/-- Where no stretch fits, the search moves on by one character. -/
theorem matchesAfter_cons_of_not {p : Pattern} {x : Option Char} {c : Char} {s : List Char}
    (h : ∀ t z, c :: s = t ++ z → ¬ p.Fits x t) :
    p.matchesAfter x 0 (c :: s) = p.matchesAfter (some c) 0 s := by
  rw [matchesAfter, lengthAt?_eq_none h]

/-- What holds of the empty text, goes on from behind a stretch to what starts with it, and goes on
by one character where no stretch fits, holds of every text after any character. -/
theorem induction_on_search {p : Pattern} (hp : ∀ x t, p.Fits x t → t ≠ [])
    {P : Option Char → List Char → Prop} (nil : ∀ x, P x [])
    (fits : ∀ x t z, p.Fits x t → P (t.getLast?.or x) z → P x (t ++ z))
    (step : ∀ x c s, (∀ t z, c :: s = t ++ z → ¬ p.Fits x t) → P (some c) s → P x (c :: s))
    (x : Option Char) (s : List Char) : P x s := by
  induction hn : s.length using Nat.strongRecOn generalizing s x with
  | _ n ih =>
    subst hn
    cases s with
    | nil => exact nil x
    | cons c s =>
      by_cases hfits : ∃ t z, c :: s = t ++ z ∧ p.Fits x t
      · obtain ⟨t, z, heq, ht⟩ := hfits
        have hlength : z.length < (c :: s).length := by
          have := List.length_pos_iff.2 (hp x t ht)
          rw [heq, List.length_append]
          omega
        rw [heq]
        exact fits x t z ht (ih z.length hlength _ z rfl)
      · exact step x c s (fun t z heq ht => hfits ⟨t, z, heq, ht⟩)
          (ih s.length (Nat.lt_succ_self _) (some c) s rfl)

end Pattern
end ComponentCensus
