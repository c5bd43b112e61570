import Mathlib.Data.List.TakeWhile
import ComponentCensus.Component.Assessment
import ComponentCensus.Proofs.Pattern.Place

/-!
# Lifecycle hooks

The number of lifecycle hooks of a component is the number of places where one is called, and a
place is a matter of the few characters around it.  That the hooks are looked for all at once, and
each search goes on behind the last call, does not show in the number.

* `HookAt` — a hook is called at a place: what stands there and in front of it.
* `hookPlaces` — the places where any of the hooks is called.
* `fitsAt_hookCall_iff` — these are the places where the pattern of the hooks fits.
* `hooks_are_places` — what is counted, place by place.
-/

set_option autoImplicit false

namespace ComponentCensus

open Text

/-- The hook of this name is called at a place of the text: no word character is in front of the
place, the name stands at it, and an opening parenthesis comes behind the name and any blanks. -/
def HookAt (text : List Char) (i : Nat) (name : String) : Prop :=
  wordMayStart (charBefore none text i) = true ∧ name.toList <+: text.drop i ∧
    (trimLeft (text.drop (i + name.length))).head? = some '('

instance (text : List Char) (i : Nat) (name : String) : Decidable (HookAt text i name) :=
  inferInstanceAs (Decidable (_ ∧ _ ∧ _))

/-- The places of the text where a hook is called, from left to right. -/
def hookPlaces (text : List Char) : List Nat :=
  (List.range text.length).filter fun i => ∃ name ∈ lifecycleHooks, HookAt text i name

/-! ## The pieces of a call -/

/-- Behind any blanks comes a certain character that is not blank. -/
theorem head?_trimLeft_eq_some_iff {s : List Char} {c : Char} (hc : isBlank c = false) :
    (trimLeft s).head? = some c ↔ ∃ a z, s = a ++ c :: z ∧ ∀ d ∈ a, isBlank d = true := by
  rw [trimLeft]
  constructor
  · intro h
    obtain ⟨z, hz⟩ := List.head?_eq_some_iff.1 h
    refine ⟨s.takeWhile isBlank, z, ?_, fun d hd => List.mem_takeWhile_imp hd⟩
    rw [← hz, List.takeWhile_append_dropWhile]
  · rintro ⟨a, z, rfl, ha⟩
    rw [List.dropWhile_append_of_pos ha, List.dropWhile_cons_of_neg (by simp [hc])]
    rfl

/-- The stretches of a call: the name, any blanks and the parenthesis. -/
theorem fits_call_iff {name : String} {t : List Char} :
    Fits (asWritten name ++ gap ++ mark '(') t ↔
      ∃ a, t = name.toList ++ (a ++ ['(']) ∧ ∀ c ∈ a, isBlank c = true := by
  rw [List.append_assoc, fits_append]
  simp only [fits_asWritten]
  constructor
  · rintro ⟨_, v, rfl, rfl, hv⟩
    obtain ⟨a, u, rfl, ha, hu⟩ := fits_run_cons.1 hv
    obtain rfl := fits_mark.1 hu
    exact ⟨a, rfl, ha⟩
  · rintro ⟨a, rfl, ha⟩
    exact ⟨name.toList, a ++ ['('], rfl, rfl,
      fits_run_cons.2 ⟨a, ['('], rfl, ha, fits_mark.2 rfl⟩⟩

theorem hookAt_iff {text : List Char} {i : Nat} {name : String} :
    HookAt text i name ↔ wordMayStart (charBefore none text i) = true ∧
      ∃ t z, text.drop i = t ++ z ∧ Fits (asWritten name ++ gap ++ mark '(') t := by
  have hparenthesis : isBlank '(' = false := by decide
  simp only [HookAt, fits_call_iff, head?_trimLeft_eq_some_iff hparenthesis]
  refine and_congr_right fun _ => ?_
  constructor
  · rintro ⟨⟨r, hr⟩, a, z, hz, ha⟩
    have hbehind : r = text.drop (i + name.length) := by
      rw [← List.drop_drop, ← hr, ← String.length_toList, List.drop_left]
    refine ⟨name.toList ++ (a ++ ['(']), z, ?_, a, rfl, ha⟩
    rw [← hr, hbehind, hz]
    simp
  · rintro ⟨_, z, hdrop, a, rfl, ha⟩
    rw [List.append_assoc] at hdrop
    refine ⟨⟨_, hdrop.symm⟩, a, z, ?_, ha⟩
    rw [← List.drop_drop, hdrop, ← String.length_toList, List.drop_left]
    simp

/-! ## The places of all hooks -/

theorem fitsAt_hookCall_iff {text : List Char} {i : Nat} :
    hookCall.fitsAt none text i = true ↔ ∃ name ∈ lifecycleHooks, HookAt text i name := by
  have hchoice : ∀ {t : List Char}, (∃ ps ∈ hookCall.choices, Fits ps t) ↔
      ∃ name ∈ lifecycleHooks, Fits (asWritten name ++ gap ++ mark '(') t := by
    intro t
    simp only [hookCall, List.mem_map, exists_exists_and_eq_and]
  simp only [Pattern.fitsAt_iff, Pattern.Fits, hchoice, hookAt_iff]
  constructor
  · rintro ⟨t, z, hdrop, hmay, name, hname, ht⟩
    exact ⟨name, hname, hmay rfl, t, z, hdrop, ht⟩
  · rintro ⟨name, hname, hmay, t, z, hdrop, ht⟩
    exact ⟨t, z, hdrop, fun _ => hmay, name, hname, ht⟩

theorem hookPlaces_eq (text : List Char) : hookPlaces text = hookCall.placesAfter none text := by
  refine List.filter_congr fun i _ => ?_
  rw [Bool.eq_iff_iff, decide_eq_true_eq, fitsAt_hookCall_iff]

/-- A place where a hook is called is a place of the text. -/
theorem mem_hookPlaces {text : List Char} {i : Nat} :
    i ∈ hookPlaces text ↔ ∃ name ∈ lifecycleHooks, HookAt text i name := by
  rw [hookPlaces, List.mem_filter, List.mem_range, decide_eq_true_eq, and_iff_right_iff_imp]
  rintro ⟨name, -, -, -, hparenthesis⟩
  by_contra hi
  rw [List.drop_of_length_le (by omega)] at hparenthesis
  cases hparenthesis

/-- What is found for the hooks begins a word, holds no other one, and is found in one way only. -/
theorem hookCall_leadsWithWord : hookCall.leadsWithWord = true ∧ hookCall.definite = true := by
  decide +kernel

theorem forall₂_matchesIn_hookPlaces (text : List Char) :
    List.Forall₂ (hookCall.FoundAt none text) (hookCall.matchesIn text) (hookPlaces text) := by
  rw [hookPlaces_eq]
  exact Pattern.forall₂_matchesAfter_placesAfter hookCall_leadsWithWord.2
    hookCall_leadsWithWord.1 none text

/-- No hook's name begins with the name of another. -/
theorem eq_of_prefix_lifecycleHooks : ∀ name ∈ lifecycleHooks, ∀ other ∈ lifecycleHooks,
    name.toList <+: other.toList → name = other := by
  decide +kernel

theorem HookAt.unique {text : List Char} {i : Nat} {name other : String}
    (hname : name ∈ lifecycleHooks) (hother : other ∈ lifecycleHooks) (h : HookAt text i name)
    (h' : HookAt text i other) : name = other := by
  rcases List.prefix_or_prefix_of_prefix h.2.1 h'.2.1 with hprefix | hprefix
  · exact eq_of_prefix_lifecycleHooks name hname other hother hprefix
  · exact (eq_of_prefix_lifecycleHooks other hother name hname hprefix).symm

/-- **The number of hooks of a component is the number of places where a hook is called.**  The
stretches that are counted are those at these places, one for each and in order, so every place
counts once; and no place is one of two hooks. -/
theorem hooks_are_places (c : Component) (scoring : Scoring) :
    let text := c.content.toList
    (c.assess scoring).hooks = (hookPlaces text).length ∧
      (hookPlaces text).Nodup ∧
      (∀ i, i ∈ hookPlaces text ↔ ∃ name ∈ lifecycleHooks, HookAt text i name) ∧
      List.Forall₂ (fun stretch i => stretch <+: text.drop i) (hookCall.matchesIn text)
        (hookPlaces text) ∧
      ∀ i, ∀ name ∈ lifecycleHooks, ∀ other ∈ lifecycleHooks,
        HookAt text i name → HookAt text i other → name = other := by
  intro text
  have hfound := forall₂_matchesIn_hookPlaces text
  refine ⟨?_, List.nodup_range.filter _, fun i => mem_hookPlaces, hfound.imp fun _ _ h => h.1, ?_⟩
  · exact congrArg Int.ofNat hfound.length_eq
  · intro i name hname other hother h h'
    exact h.unique hname hother h'

/-- A name with a longer name around it is no place of its own, and a call may go on over a line
end. -/
example :
    hookPlaces "beforeCreate() \x7b\x7d, created\n(), recreated(), mounted".toList = [0, 19] := by
  decide +kernel

end ComponentCensus
