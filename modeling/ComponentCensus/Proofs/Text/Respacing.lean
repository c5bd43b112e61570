import ComponentCensus.Text.Blank

/-!
# Texts that differ in their blanks

Indenting a text, wrapping its lines or changing its line ends replaces runs of blanks by other
runs of blanks.

* `Respaced s t` — `t` is `s` with every run of blanks replaced by some run of blanks, never by
  nothing.
* `Respaced.count_eq` — a character that is not blank stays as often as it is there.
* `squeeze` — one space in place of every run of blanks; two texts differ in their blanks only if
  this makes them equal (`respaced_iff_squeeze_eq`).
* `Respaced.exists_append_cons` — the two texts can be cut at a character that is not blank, and the
  parts correspond.
-/

set_option autoImplicit false

namespace ComponentCensus
namespace Text

/-- The second text is the first one with other blanks in the same places.  Two runs that touch
are one run, so a run may be replaced in one step or piece by piece. -/
inductive Respaced : List Char → List Char → Prop
  | nil : Respaced [] []
  | solid {c : Char} {s t : List Char} (hc : isBlank c = false) (h : Respaced s t) :
      Respaced (c :: s) (c :: t)
  | blanks {u v s t : List Char} (hu : u ≠ []) (hv : v ≠ []) (hublank : ∀ c ∈ u, isBlank c = true)
      (hvblank : ∀ c ∈ v, isBlank c = true) (h : Respaced s t) : Respaced (u ++ s) (v ++ t)

namespace Respaced

theorem refl : ∀ s : List Char, Respaced s s
  | [] => .nil
  | c :: s => by
    cases hc : isBlank c with
    | false => exact .solid hc (refl s)
    | true =>
      have hall : ∀ d ∈ [c], isBlank d = true := by simpa using hc
      exact .blanks (List.cons_ne_nil c []) (List.cons_ne_nil c []) hall hall (refl s)

theorem symm {s t : List Char} (h : Respaced s t) : Respaced t s := by
  induction h with
  | nil => exact .nil
  | solid hc _ ih => exact .solid hc ih
  | blanks hu hv hublank hvblank _ ih => exact .blanks hv hu hvblank hublank ih

theorem append {s t s' t' : List Char} (h : Respaced s t) (h' : Respaced s' t') :
    Respaced (s ++ s') (t ++ t') := by
  induction h with
  | nil => exact h'
  | solid hc _ ih => exact .solid hc ih
  | blanks hu hv hublank hvblank _ ih =>
    rw [List.append_assoc, List.append_assoc]
    exact .blanks hu hv hublank hvblank ih

theorem eq_nil_iff {s t : List Char} (h : Respaced s t) : s = [] ↔ t = [] := by
  cases h with
  | nil => rfl
  | solid => simp
  | blanks hu hv => simp [hu, hv]

theorem isEmpty_eq {s t : List Char} (h : Respaced s t) : s.isEmpty = t.isEmpty := by
  rw [Bool.eq_iff_iff, List.isEmpty_iff, List.isEmpty_iff]
  exact h.eq_nil_iff

/-- Only blanks come in. -/
theorem isBlank_or_mem {s t : List Char} (h : Respaced s t) :
    ∀ c ∈ t, isBlank c = true ∨ c ∈ s := by
  induction h with
  | nil => simp
  | solid hc _ ih =>
    intro d hd
    rcases List.mem_cons.1 hd with rfl | hd
    · exact Or.inr (List.mem_cons_self ..)
    · exact (ih d hd).imp_right (List.mem_cons_of_mem _)
  | blanks _ _ _ hvblank _ ih =>
    intro d hd
    rcases List.mem_append.1 hd with hd | hd
    · exact Or.inl (hvblank d hd)
    · exact (ih d hd).imp_right (List.mem_append_right _)

/-- The characters that are not blank stay, as often as they are there. -/
theorem count_eq {s t : List Char} (h : Respaced s t) {c : Char} (hc : isBlank c = false) :
    s.count c = t.count c := by
  have hzero : ∀ u : List Char, (∀ d ∈ u, isBlank d = true) → u.count c = 0 := by
    intro u hu
    rw [List.count_eq_zero]
    intro hmem
    simp [hu c hmem] at hc
  induction h with
  | nil => rfl
  | solid _ _ ih => rw [List.count_cons, List.count_cons, ih]
  | blanks _ _ hublank hvblank _ ih =>
    rw [List.count_append, List.count_append, hzero _ hublank, hzero _ hvblank, ih]

/-- A character that is not blank splits both texts at corresponding places. -/
theorem exists_append_cons {a b t : List Char} {c : Char} (h : Respaced (a ++ c :: b) t)
    (hc : isBlank c = false) :
    ∃ a' b', t = a' ++ c :: b' ∧ Respaced a a' ∧ Respaced b b' := by
  generalize hs : a ++ c :: b = s at h
  induction h generalizing a with
  | nil => simp at hs
  | @solid d s t hd h ih =>
    cases a with
    | nil =>
      obtain ⟨rfl, rfl⟩ := List.cons.inj hs
      exact ⟨[], t, rfl, .nil, h⟩
    | cons e a =>
      obtain ⟨rfl, hrest⟩ := List.cons.inj hs
      obtain ⟨a', b', rfl, ha, hb⟩ := ih hrest
      exact ⟨e :: a', b', rfl, .solid hd ha, hb⟩
  | @blanks u v s t hu hv hublank hvblank h ih =>
    rcases List.append_eq_append_iff.1 hs with ⟨m, hum, hcb⟩ | ⟨m, rfl, hrest⟩
    · -- the run would go on beyond the cut, where there is no blank
      cases m with
      | nil =>
        obtain rfl : u = a := by simpa using hum
        obtain ⟨a', b', rfl, ha, hb⟩ := ih (a := []) (by simpa using hcb)
        refine ⟨v ++ a', b', by simp, ?_, hb⟩
        simpa using Respaced.blanks hu hv hublank hvblank ha
      | cons e m =>
        obtain ⟨rfl, -⟩ := List.cons.inj hcb
        simp [hublank c (by simp [hum])] at hc
    · obtain ⟨a', b', rfl, ha, hb⟩ := ih hrest.symm
      exact ⟨v ++ a', b', by simp, .blanks hu hv hublank hvblank ha, hb⟩

/-- A text that starts with a character that is not blank. -/
theorem exists_cons {b t : List Char} {c : Char} (h : Respaced (c :: b) t)
    (hc : isBlank c = false) : ∃ b', t = c :: b' ∧ Respaced b b' := by
  obtain ⟨a', b', rfl, ha, hb⟩ := exists_append_cons (a := []) h hc
  obtain rfl : a' = [] := ha.eq_nil_iff.1 rfl
  exact ⟨b', rfl, hb⟩

/-- A stretch at the front that ends with a character that is not blank. -/
theorem exists_append_of_concat {u z s : List Char} {c : Char} (h : Respaced (u ++ [c] ++ z) s)
    (hc : isBlank c = false) :
    ∃ t' z', s = t' ++ z' ∧ Respaced (u ++ [c]) t' ∧ Respaced z z' := by
  rw [List.append_assoc] at h
  obtain ⟨u', z', rfl, hu, hz⟩ := exists_append_cons h hc
  refine ⟨u' ++ [c], z', ?_, hu.append (.solid hc .nil), hz⟩
  rw [List.append_assoc, List.singleton_append]

theorem forall_isBlank {s t : List Char} (h : Respaced s t) (hs : ∀ c ∈ s, isBlank c = true) :
    ∀ c ∈ t, isBlank c = true := by
  intro c hc
  rcases h.isBlank_or_mem c hc with hblank | hmem
  · exact hblank
  · exact hs c hmem

theorem of_forall_isBlank {s t : List Char} (hne : s = [] ↔ t = [])
    (hs : ∀ c ∈ s, isBlank c = true) (ht : ∀ c ∈ t, isBlank c = true) : Respaced s t := by
  by_cases hnil : s = []
  · rw [hnil, hne.1 hnil]
    exact .nil
  · have h := Respaced.blanks hnil (fun h => hnil (hne.2 h)) hs ht .nil
    rwa [List.append_nil, List.append_nil] at h

/-- A text is a row of blanks, or it has a first character that is not blank. -/
theorem forall_isBlank_or_exists (s : List Char) :
    (∀ c ∈ s, isBlank c = true) ∨
      ∃ a c b, s = a ++ c :: b ∧ (∀ d ∈ a, isBlank d = true) ∧ isBlank c = false := by
  induction s with
  | nil => exact .inl (by simp)
  | cons d s ih =>
    cases hd : isBlank d with
    | false => exact .inr ⟨[], d, s, rfl, by simp, hd⟩
    | true =>
      rcases ih with h | ⟨a, c, b, rfl, ha, hc⟩
      · exact .inl (List.forall_mem_cons.2 ⟨hd, h⟩)
      · exact .inr ⟨d :: a, c, b, rfl, List.forall_mem_cons.2 ⟨hd, ha⟩, hc⟩

theorem trans {s m t : List Char} (h : Respaced s m) (h' : Respaced m t) : Respaced s t := by
  induction hn : m.length using Nat.strongRecOn generalizing s m t with
  | _ n ih =>
    subst hn
    rcases forall_isBlank_or_exists m with hm | ⟨a, c, b, rfl, ha, hc⟩
    · exact of_forall_isBlank (h.eq_nil_iff.trans h'.eq_nil_iff) (h.symm.forall_isBlank hm)
        (h'.forall_isBlank hm)
    · obtain ⟨a₁, b₁, rfl, ha₁, hb₁⟩ := h.symm.exists_append_cons hc
      obtain ⟨a₂, b₂, rfl, ha₂, hb₂⟩ := h'.exists_append_cons hc
      have hfront : Respaced a₁ a₂ :=
        of_forall_isBlank (ha₁.symm.eq_nil_iff.trans ha₂.eq_nil_iff) (ha₁.forall_isBlank ha)
          (ha₂.forall_isBlank ha)
      have hlt : b.length < (a ++ c :: b).length := by
        rw [List.length_append, List.length_cons]
        omega
      exact hfront.append (.solid hc (ih b.length hlt hb₁.symm hb₂ rfl))

end Respaced

/-! ## A normal form -/

/-- The text with one space in place of every run of blanks. -/
def squeeze : List Char → List Char
  | [] => []
  | c :: s =>
    if !isBlank c then c :: squeeze s
    else if s.head?.any isBlank then squeeze s
    else ' ' :: squeeze s

theorem squeeze_append_of_blanks {u s : List Char} (hne : u ≠ []) (hu : ∀ c ∈ u, isBlank c = true) :
    squeeze (u ++ s) = if s.head?.any isBlank then squeeze s else ' ' :: squeeze s := by
  induction u with
  | nil => exact absurd rfl hne
  | cons b u ih =>
    obtain ⟨hb, hu⟩ := List.forall_mem_cons.1 hu
    rw [List.cons_append, squeeze, hb]
    cases u with
    | nil => rfl
    | cons b' u =>
      have hhead : (b' :: u ++ s).head?.any isBlank = true := by
        simpa using (List.forall_mem_cons.1 hu).1
      rw [hhead, ih (List.cons_ne_nil b' u) hu]
      rfl

theorem Respaced.any_head?_eq {s t : List Char} (h : Respaced s t) :
    s.head?.any isBlank = t.head?.any isBlank := by
  cases h with
  | nil => rfl
  | solid => rfl
  | @blanks u v s t hu hv hublank hvblank =>
    obtain ⟨b, u, rfl⟩ := List.exists_cons_of_ne_nil hu
    obtain ⟨b', v, rfl⟩ := List.exists_cons_of_ne_nil hv
    have hb := (List.forall_mem_cons.1 hublank).1
    have hb' := (List.forall_mem_cons.1 hvblank).1
    simp [hb, hb']

theorem Respaced.squeeze_eq {s t : List Char} (h : Respaced s t) : squeeze s = squeeze t := by
  induction h with
  | nil => rfl
  | solid hc _ ih => simp only [squeeze, hc, ih, Bool.not_false, if_true]
  | blanks hu hv hublank hvblank h ih =>
    rw [squeeze_append_of_blanks hu hublank, squeeze_append_of_blanks hv hvblank, ih,
      h.any_head?_eq]

theorem respaced_squeeze (s : List Char) : Respaced s (squeeze s) := by
  induction s with
  | nil => exact .nil
  | cons c s ih =>
    rw [squeeze]
    split
    · rename_i hc
      exact .solid (by simpa using hc) ih
    · rename_i hc
      have hblank : isBlank c = true := by simpa using hc
      split
      · -- one more blank in front of a run
        rename_i hhead
        obtain ⟨b, s', rfl⟩ : ∃ b s', s = b :: s' := by
          cases s with
          | nil => simp at hhead
          | cons b s' => exact ⟨b, s', rfl⟩
        have hb : isBlank b = true := by simpa using hhead
        have hfront : Respaced ([c, b] ++ s') ([b] ++ s') :=
          .blanks (by simp) (by simp) (by simp [hblank, hb]) (by simp [hb]) (.refl s')
        exact hfront.trans ih
      · have hspace : isBlank ' ' = true := by decide
        exact .blanks (List.cons_ne_nil c []) (List.cons_ne_nil ' ' []) (by simpa using hblank)
          (by simpa using hspace) ih

/-- Two texts differ in their blanks only if the normal forms agree. -/
theorem respaced_iff_squeeze_eq {s t : List Char} : Respaced s t ↔ squeeze s = squeeze t := by
  constructor
  · exact Respaced.squeeze_eq
  · intro h
    refine (respaced_squeeze s).trans ?_
    rw [h]
    exact (respaced_squeeze t).symm

instance (s t : List Char) : Decidable (Respaced s t) :=
  decidable_of_iff _ respaced_iff_squeeze_eq.symm

end Text
end ComponentCensus
