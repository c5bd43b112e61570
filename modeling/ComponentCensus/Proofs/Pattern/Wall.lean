import ComponentCensus.Proofs.Pattern.Inclusion
import ComponentCensus.Proofs.Pattern.Place

/-!
# Walls

A character that no piece of a pattern takes is a wall: no stretch of the pattern reaches across it,
so what stands on one side does not matter for what is found on the other.  In the same way, text is
no matter to a pattern whose stretches cannot end in it, if it comes last, or begin in it, if it
comes first.  A pattern that goes on to the next separator does reach across a wall, but only if all
that it needs stands on the two sides.

* `Pattern.Leaves` — what is left of a text behind a stretch, and `Pattern.leaves_append_cons_iff`:
  what is left where there is a wall.
* `Pattern.occursIn_append_cons` — a pattern occurs on either side of a wall.
* `Pattern.occursIn_append_wall_of_endsIn`, `Pattern.occursIn_append_wall_of_startsIn` — text that
  does not matter in front of a wall, and behind one.
* `occursIn_closing_append_cons`, `occursIn_across_append_cons_iff` — patterns that go on to the
  next separator, where this is the wall and where it is not.
* `occursIn_across_append_walls` — text between two walls that does not matter to them.
-/

set_option autoImplicit false

namespace ComponentCensus

open Text

namespace Pattern

variable {p : Pattern} {c : Char} {x : Option Char}

/-! ## What is left behind a stretch -/

/-- Some stretch of the text fits the pattern, and the rest is what comes behind it. -/
def Leaves (p : Pattern) (x : Option Char) (s rest : List Char) : Prop :=
  ∃ a t, s = a ++ (t ++ rest) ∧ p.Fits (a.getLast?.or x) t

theorem occursAfter_iff_leaves {s : List Char} :
    p.occursAfter x s = true ↔ ∃ rest, p.Leaves x s rest := by
  rw [occursAfter_iff]
  constructor
  · rintro ⟨a, t, z, hs, ht⟩
    exact ⟨z, a, t, hs, ht⟩
  · rintro ⟨z, a, t, hs, ht⟩
    exact ⟨a, t, z, hs, ht⟩

/-- Whether no piece of the pattern takes the character. -/
def avoids (p : Pattern) (c : Char) : Bool := p.choices.all (ComponentCensus.avoids c)

theorem not_mem_of_fits (hp : p.avoids c = true) {t : List Char} (ht : p.Fits x t) : c ∉ t := by
  obtain ⟨-, ps, hps, ht⟩ := ht
  exact ComponentCensus.not_mem_of_fits (List.all_eq_true.1 hp ps hps) ht

/-- A stretch stands in front of a wall, and then the wall is left behind it, or it stands behind
the wall. -/
theorem leaves_append_cons_iff (hp : p.avoids c = true) {s s' rest : List Char} :
    p.Leaves x (s ++ c :: s') rest ↔
      (∃ rest', p.Leaves x s rest' ∧ rest = rest' ++ c :: s') ∨ p.Leaves (some c) s' rest := by
  constructor
  · rintro ⟨a, t, heq, ht⟩
    rcases append_cons_eq_cases (not_mem_of_fits hp ht) heq.symm with
      ⟨rest', rfl, rfl⟩ | ⟨b, rfl, rfl⟩
    · exact .inl ⟨rest', ⟨a, t, rfl, ht⟩, rfl⟩
    · rw [getLast?_append_or, getLast?_cons_or] at ht
      exact .inr ⟨b, t, rfl, ht⟩
  · rintro (⟨rest', ⟨a, t, rfl, ht⟩, rfl⟩ | ⟨b, t, rfl, ht⟩)
    · exact ⟨a, t, by simp, ht⟩
    · refine ⟨s ++ c :: b, t, by simp, ?_⟩
      rwa [getLast?_append_or, getLast?_cons_or]

/-! ## Occurrences on either side of a wall -/

theorem occursAfter_append_cons (hp : p.avoids c = true) (x : Option Char) (s s' : List Char) :
    p.occursAfter x (s ++ c :: s') = (p.occursAfter x s || p.occursAfter (some c) s') := by
  rw [Bool.eq_iff_iff, Bool.or_eq_true]
  simp only [occursAfter_iff_leaves, leaves_append_cons_iff hp, exists_or]
  refine or_congr_left ⟨?_, ?_⟩
  · rintro ⟨_, rest, hrest, -⟩
    exact ⟨rest, hrest⟩
  · rintro ⟨rest, hrest⟩
    exact ⟨_, rest, hrest, rfl⟩

/-- The character in front of a text only matters to a pattern that begins a word. -/
theorem occursAfter_eq_occursIn (hx : p.startsWord = true → wordMayStart x = true)
    (s : List Char) : p.occursAfter x s = p.occursIn s := by
  have hrests : ∀ u, p.restsAt x u = p.restsAt none u := by
    intro u
    have hnone : wordMayStart none = true := rfl
    rw [restsAt, restsAt, hnone]
    cases hword : p.startsWord with
    | false => rfl
    | true => rw [hx hword]
  cases s with
  | nil => rw [occursIn, occursAfter, occursAfter, hrests]
  | cons d s => rw [occursIn, occursAfter, occursAfter, hrests]

/-- A pattern occurs in a text with a wall if it occurs on one of the sides. -/
theorem occursIn_append_cons (hp : p.avoids c = true)
    (hc : p.startsWord = true → isWord c = false) (s s' : List Char) :
    p.occursIn (s ++ c :: s') = (p.occursIn s || p.occursIn s') := by
  have hstart : p.startsWord = true → wordMayStart (some c) = true := by
    intro hword
    simp [wordMayStart, hc hword]
  have hsides := occursAfter_append_cons hp none s s'
  rwa [occursAfter_eq_occursIn hstart] at hsides

/-! ## Text that does not matter -/

/-- Whether the test finds every stretch to end with a character of the set. -/
def endsIn (p : Pattern) (L : CharSet) : Bool :=
  p.choices.all fun ps =>
    match ps.getLast? with
    | some (.one K) => K.within L
    | _ => false

/-- Whether the test finds every stretch to begin with a character of the set, and not only where a
word may begin. -/
def startsIn (p : Pattern) (L : CharSet) : Bool :=
  !p.startsWord && p.choices.all fun ps =>
    match ps.head? with
    | some (.one K) => K.within L
    | _ => false

variable {L : CharSet}

theorem exists_concat_of_endsIn (hp : p.endsIn L = true) {t : List Char} (ht : p.Fits x t) :
    ∃ u d, t = u ++ [d] ∧ L.has d = true := by
  obtain ⟨-, ps, hps, ht⟩ := ht
  have hlast := List.all_eq_true.1 hp ps hps
  split at hlast
  · rename_i K heq
    obtain ⟨qs, rfl⟩ := List.getLast?_eq_some_iff.1 heq
    obtain ⟨u, v, rfl, -, hv⟩ := fits_append.1 ht
    obtain ⟨d, w, rfl, hd, hw⟩ := fits_one_cons.1 hv
    obtain rfl := fits_nil.1 hw
    exact ⟨u, d, rfl, CharSet.has_of_within hlast hd⟩
  · cases hlast

theorem exists_cons_of_startsIn (hp : p.startsIn L = true) {t : List Char} (ht : p.Fits x t) :
    ∃ d u, t = d :: u ∧ L.has d = true := by
  rw [startsIn, Bool.and_eq_true] at hp
  obtain ⟨-, ps, hps, ht⟩ := ht
  have hfirst := List.all_eq_true.1 hp.2 ps hps
  split at hfirst
  · rename_i K heq
    obtain ⟨qs, rfl⟩ := List.head?_eq_some_iff.1 heq
    obtain ⟨d, u, rfl, hd, -⟩ := fits_one_cons.1 ht
    exact ⟨d, u, rfl, CharSet.has_of_within hfirst hd⟩
  · cases hfirst

/-- Text in which no stretch can end does not matter if it comes last. -/
theorem occursAfter_append_of_endsIn (hp : p.endsIn L = true) {s' : List Char}
    (hs' : ∀ d ∈ s', L.has d = false) (x : Option Char) (s : List Char) :
    p.occursAfter x (s ++ s') = p.occursAfter x s := by
  rw [Bool.eq_iff_iff]
  refine ⟨fun h => ?_, fun h => occursAfter_append h s'⟩
  obtain ⟨a, t, z, heq, ht⟩ := occursAfter_iff.1 h
  obtain ⟨u, d, rfl, hd⟩ := exists_concat_of_endsIn hp ht
  rw [← List.append_assoc] at heq
  rcases List.append_eq_append_iff.1 heq with ⟨m, hm, rfl⟩ | ⟨m, rfl, -⟩
  · cases hlast : m.getLast? with
    | none =>
      rw [List.getLast?_eq_none_iff.1 hlast, List.append_nil] at hm
      exact occursAfter_iff.2 ⟨a, u ++ [d], [], by rw [List.append_nil, hm], ht⟩
    | some e =>
      obtain ⟨n, rfl⟩ := List.getLast?_eq_some_iff.1 hlast
      -- the end of the stretch would be in the second text
      have hde : d = e := by
        have hends := congrArg List.getLast? hm
        simpa [← List.append_assoc] using hends
      rw [hde, hs' e (by simp)] at hd
      exact absurd hd (by decide)
  · exact occursAfter_iff.2 ⟨a, u ++ [d], m, by rw [List.append_assoc], ht⟩

/-- Text in which no stretch can end does not matter in front of a wall. -/
theorem occursIn_append_wall_of_endsIn (hp : p.avoids c = true)
    (hc : p.startsWord = true → isWord c = false) (hends : p.endsIn L = true) {m : List Char}
    (hm : ∀ d ∈ m, L.has d = false) (s s' : List Char) :
    p.occursIn (s ++ (m ++ c :: s')) = p.occursIn (s ++ c :: s') := by
  have hdrop : p.occursIn (s ++ m) = p.occursIn s := occursAfter_append_of_endsIn hends hm none s
  rw [← List.append_assoc, occursIn_append_cons hp hc, hdrop, ← occursIn_append_cons hp hc]

theorem not_leaves_of_endsIn (hp : p.endsIn L = true) {s : List Char}
    (hs : ∀ d ∈ s, L.has d = false) (rest : List Char) : ¬ p.Leaves x s rest := by
  rintro ⟨a, t, rfl, ht⟩
  obtain ⟨u, d, rfl, hd⟩ := exists_concat_of_endsIn hp ht
  rw [hs d (by simp)] at hd
  exact absurd hd (by decide)

/-- Text in which no stretch can begin does not matter if it comes first. -/
theorem occursIn_append_of_startsIn (hp : p.startsIn L = true) {s : List Char}
    (hs : ∀ d ∈ s, L.has d = false) (s' : List Char) :
    p.occursIn (s ++ s') = p.occursIn s' := by
  have hword : p.startsWord = false := by
    rw [startsIn, Bool.and_eq_true] at hp
    simpa using hp.1
  induction s with
  | nil => rfl
  | cons d s ih =>
    obtain ⟨hd, hs⟩ := List.forall_mem_cons.1 hs
    have hnone : (p.restsAt none (d :: (s ++ s'))).isEmpty = true := by
      by_contra hsome
      obtain ⟨t, z, heq, ht⟩ := isEmpty_restsAt_iff.1 (by simpa using hsome)
      obtain ⟨e, u, rfl, he⟩ := exists_cons_of_startsIn hp ht
      rw [(List.cons.inj heq).1] at hd
      exact absurd (hd.symm.trans he) (by decide)
    rw [List.cons_append, occursIn, occursAfter, hnone, Bool.not_true, Bool.false_or,
      occursAfter_eq_occursIn (by simp [hword]), ih hs]

/-- Text in which no stretch can begin does not matter behind a wall. -/
theorem occursIn_append_wall_of_startsIn (hp : p.avoids c = true) (hstarts : p.startsIn L = true)
    {m : List Char} (hm : ∀ d ∈ m, L.has d = false) (s s' : List Char) :
    p.occursIn (s ++ c :: (m ++ s')) = p.occursIn (s ++ c :: s') := by
  have hc : p.startsWord = true → isWord c = false := by
    intro hword
    simp [startsIn, hword] at hstarts
  rw [occursIn_append_cons hp hc, occursIn_append_cons hp hc,
    occursIn_append_of_startsIn hstarts hm]

end Pattern

/-! ## Patterns that go on to the next separator -/

section
variable {ps qs : List Piece} {sep c : Char}

theorem occursIn_closing_iff {s : List Char} :
    (closing ps sep).occursIn s = true ↔
      ∃ rest, (Pattern.of ps).Leaves none s rest ∧ sep ∈ rest := by
  rw [Pattern.occursIn, Pattern.occursAfter_iff]
  constructor
  · rintro ⟨a, t, z, rfl, ht⟩
    obtain ⟨o, b, rfl, ho, -⟩ := fits_closing.1 ht
    exact ⟨b ++ sep :: z, ⟨a, o, by simp, Pattern.fits_of.2 ho⟩, by simp⟩
  · rintro ⟨rest, ⟨a, o, rfl, ho⟩, hrest⟩
    obtain ⟨b, z, rfl, hb⟩ := List.eq_append_cons_of_mem hrest
    exact ⟨a, o ++ (b ++ [sep]), z, by simp, fits_closing.2 ⟨o, b, rfl, Pattern.fits_of.1 ho, hb⟩⟩

/-- In front of a separator, only what comes before the separator is left to look for. -/
theorem occursIn_closing_append_cons (hps : avoids sep ps = true) (s s' : List Char) :
    (closing ps sep).occursIn (s ++ sep :: s') =
      ((Pattern.of ps).occursIn s || (closing ps sep).occursIn s') := by
  have hopening : (Pattern.of ps).avoids sep = true := by
    simpa [Pattern.avoids, Pattern.of] using hps
  have hnone : ∀ rest, (Pattern.of ps).Leaves (some sep) s' rest ↔
      (Pattern.of ps).Leaves none s' rest := by
    intro rest
    simp only [Pattern.Leaves, Pattern.fits_of]
  rw [Bool.eq_iff_iff, Bool.or_eq_true, occursIn_closing_iff, occursIn_closing_iff,
    Pattern.occursIn, Pattern.occursAfter_iff_leaves]
  simp only [Pattern.leaves_append_cons_iff hopening, hnone, or_and_right, exists_or]
  refine or_congr_left ⟨?_, ?_⟩
  · rintro ⟨_, ⟨rest, hrest, -⟩, -⟩
    exact ⟨rest, hrest⟩
  · rintro ⟨rest, hrest⟩
    exact ⟨_, ⟨rest, hrest, rfl⟩, by simp⟩

/-- Behind anything but the separator, the text goes on with the separator and with what the pieces
fit. -/
def GoesOn (sep : Char) (qs : List Piece) (s : List Char) : Prop :=
  ∃ b u z, s = b ++ sep :: (u ++ z) ∧ sep ∉ b ∧ Fits qs u

theorem GoesOn.mem {s : List Char} (h : GoesOn sep qs s) : sep ∈ s := by
  obtain ⟨b, u, z, rfl, -⟩ := h
  simp

/-- The separator comes before a wall, and then so does all that is behind it, or all of it comes
behind the wall. -/
theorem goesOn_append_cons_iff (hc : c ≠ sep) (hqs : avoids c qs = true) {s s' : List Char} :
    GoesOn sep qs (s ++ c :: s') ↔ GoesOn sep qs s ∨ sep ∉ s ∧ GoesOn sep qs s' := by
  constructor
  · rintro ⟨b, u, z, heq, hb, hu⟩
    have hmem : c ∉ sep :: u := by simp [hc, not_mem_of_fits hqs hu]
    rcases append_cons_eq_cases hmem heq.symm with ⟨r, rfl, -⟩ | ⟨k, rfl, rfl⟩
    · exact .inl ⟨b, u, r, rfl, hb, hu⟩
    · rw [List.mem_append, List.mem_cons, not_or, not_or] at hb
      exact .inr ⟨hb.1, k, u, z, rfl, hb.2.2, hu⟩
  · rintro (⟨b, u, z, rfl, hb, hu⟩ | ⟨hs, b, u, z, rfl, hb, hu⟩)
    · exact ⟨b, u, z ++ c :: s', by simp, hb, hu⟩
    · refine ⟨s ++ c :: b, u, z, by simp, ?_, hu⟩
      rw [List.mem_append, List.mem_cons, not_or, not_or]
      exact ⟨hs, hc.symm, hb⟩

/-- Some pieces that begin a word, and the separator and other pieces where it comes next. -/
def across (ps : List Piece) (sep : Char) (qs : List Piece) : Pattern :=
  .ofWord (ps ++ upToMark sep ++ (mark sep ++ qs))

theorem fits_across {t : List Char} {x : Option Char} :
    (across ps sep qs).Fits x t ↔
      ∃ o b u, t = o ++ (b ++ sep :: u) ∧ (Pattern.ofWord ps).Fits x o ∧ sep ∉ b ∧ Fits qs u := by
  simp only [Pattern.Fits, across, Pattern.ofWord, List.mem_singleton, exists_eq_left]
  rw [fits_through]
  constructor
  · rintro ⟨hword, o, b, v, rfl, ho, hb, hv⟩
    obtain ⟨m, u, rfl, hm, hu⟩ := fits_append.1 hv
    obtain rfl := fits_mark.1 hm
    exact ⟨o, b, u, rfl, ⟨hword, ho⟩, hb, hu⟩
  · rintro ⟨o, b, u, rfl, ⟨hword, ho⟩, hb, hu⟩
    exact ⟨hword, o, b, sep :: u, rfl, ho, hb, fits_append.2 ⟨[sep], u, rfl, fits_mark.2 rfl, hu⟩⟩

theorem occursAfter_across_iff {s : List Char} {x : Option Char} :
    (across ps sep qs).occursAfter x s = true ↔
      ∃ rest, (Pattern.ofWord ps).Leaves x s rest ∧ GoesOn sep qs rest := by
  rw [Pattern.occursAfter_iff]
  constructor
  · rintro ⟨a, t, z, rfl, ht⟩
    obtain ⟨o, b, u, rfl, ho, hb, hu⟩ := fits_across.1 ht
    exact ⟨b ++ sep :: (u ++ z), ⟨a, o, by simp, ho⟩, b, u, z, rfl, hb, hu⟩
  · rintro ⟨_, ⟨a, o, rfl, ho⟩, b, u, z, rfl, hb, hu⟩
    exact ⟨a, o ++ (b ++ sep :: u), z, by simp, fits_across.2 ⟨o, b, u, rfl, ho, hb, hu⟩⟩

/-- Whether the character is a wall on both sides of the separator, and a word may begin behind
it. -/
def isWall (ps : List Piece) (sep : Char) (qs : List Piece) (c : Char) : Bool :=
  avoids c ps && avoids c qs && c != sep && !isWord c

theorem isWall_iff : isWall ps sep qs c = true ↔
    avoids c ps = true ∧ avoids c qs = true ∧ c ≠ sep ∧ isWord c = false := by
  simp [isWall, and_assoc]

/-- Such a pattern occurs on either side of a wall, or it begins on one side, with no separator up
to the wall, and goes on behind it. -/
theorem occursIn_across_append_cons_iff (hc : isWall ps sep qs c = true) {s s' : List Char} :
    (across ps sep qs).occursIn (s ++ c :: s') = true ↔
      (across ps sep qs).occursIn s = true ∨
        (∃ rest, (Pattern.ofWord ps).Leaves none s rest ∧ sep ∉ rest) ∧ GoesOn sep qs s' ∨
        (across ps sep qs).occursIn s' = true := by
  obtain ⟨hps, hqs, hsep, hmark⟩ := isWall_iff.1 hc
  have hopening : (Pattern.ofWord ps).avoids c = true := by
    simpa [Pattern.avoids, Pattern.ofWord] using hps
  have hstart : wordMayStart (some c) = true := by simp [wordMayStart, hmark]
  rw [← Pattern.occursAfter_eq_occursIn (x := some c) (fun _ => hstart) s', Pattern.occursIn,
    Pattern.occursIn]
  simp only [occursAfter_across_iff, Pattern.leaves_append_cons_iff hopening]
  constructor
  · rintro ⟨_, ⟨rest, hrest, rfl⟩ | hrest, hgoes⟩
    · rcases (goesOn_append_cons_iff hsep hqs).1 hgoes with hgoes | ⟨hnot, hgoes⟩
      · exact .inl ⟨rest, hrest, hgoes⟩
      · exact .inr (.inl ⟨⟨rest, hrest, hnot⟩, hgoes⟩)
    · exact .inr (.inr ⟨_, hrest, hgoes⟩)
  · rintro (⟨rest, hrest, hgoes⟩ | ⟨⟨rest, hrest, hnot⟩, hgoes⟩ | ⟨rest, hrest, hgoes⟩)
    · exact ⟨_, .inl ⟨rest, hrest, rfl⟩, (goesOn_append_cons_iff hsep hqs).2 (.inl hgoes)⟩
    · exact ⟨_, .inl ⟨rest, hrest, rfl⟩, (goesOn_append_cons_iff hsep hqs).2 (.inr ⟨hnot, hgoes⟩)⟩
    · exact ⟨rest, .inr hrest, hgoes⟩

/-- Text between two walls does not matter if no stretch of what such a pattern begins with can end
in it, and no separator stands in it. -/
theorem occursIn_across_append_walls {d : Char} (hc : isWall ps sep qs c = true)
    (hd : isWall ps sep qs d = true) {L : CharSet}
    (hends : (Pattern.ofWord ps).endsIn L = true) {m : List Char}
    (hm : ∀ e ∈ m, L.has e = false) (hm' : sep ∉ m) (s s' : List Char) :
    (across ps sep qs).occursIn (s ++ c :: (m ++ d :: s')) =
      (across ps sep qs).occursIn (s ++ c :: s') := by
  obtain ⟨-, hqs, hsep, -⟩ := isWall_iff.1 hd
  have hnone : (across ps sep qs).occursIn m = false := by
    rw [Bool.eq_false_iff]
    intro hoccurs
    obtain ⟨rest, hrest, -⟩ := occursAfter_across_iff.1 hoccurs
    exact Pattern.not_leaves_of_endsIn hends hm rest hrest
  have hbehind : (across ps sep qs).occursIn (m ++ d :: s') = true ↔
      (across ps sep qs).occursIn s' = true := by
    rw [occursIn_across_append_cons_iff hd, hnone]
    simp [Pattern.not_leaves_of_endsIn hends hm]
  have hgoes : GoesOn sep qs (m ++ d :: s') ↔ GoesOn sep qs s' := by
    have hnot : ¬ GoesOn sep qs m := fun h => hm' h.mem
    simp [goesOn_append_cons_iff hsep hqs, hnot, hm']
  rw [Bool.eq_iff_iff, occursIn_across_append_cons_iff hc, occursIn_across_append_cons_iff hc,
    hbehind, hgoes]

end

end ComponentCensus
