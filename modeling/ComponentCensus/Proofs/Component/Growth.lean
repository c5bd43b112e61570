import Mathlib.Data.Bool.Basic
import Mathlib.Data.List.Infix
import ComponentCensus.Proofs.Component.Blocks
import ComponentCensus.Proofs.Component.Hooks

/-!
# Components that grow

Text that is appended to a component never makes it simpler: what was found in the component is
still found, what was counted still counts, and so its score does not sink.  The text may close a
block that was open so far, or finish a pattern whose front was there already, but it takes nothing
away from what stands in front of it.

* `Features.AtMost`, `Features.ofText_append` — the features of a text and of one that goes on.
* `Scoring.score_le`, `Scoring.rank_tierOf_le` — more features have a higher score, and a higher
  score has no lower tier.
* `firing_append` — signals without a veto go on firing.
* `Assessment.AtMost`, `assess_append` — the assessments of the two, and their signals.
-/

set_option autoImplicit false

namespace ComponentCensus

open Text

/-! ## Features -/

/-- Every count of the first features is at most that of the second, and every flag that is set in
the first is set in the second. -/
structure Features.AtMost (f g : Features) : Prop where
  hooks : f.hooks ≤ g.hooks
  computedEntries : f.computedEntries ≤ g.computedEntries
  methodEntries : f.methodEntries ≤ g.methodEntries
  watchBlocks : f.watchBlocks ≤ g.watchBlocks
  watchesImmediately : f.watchesImmediately = true → g.watchesImmediately = true
  watchesDeeply : f.watchesDeeply = true → g.watchesDeeply = true
  hasMixins : f.hasMixins = true → g.hasMixins = true
  hasFilters : f.hasFilters = true → g.hasFilters = true
  hasProps : f.hasProps = true → g.hasProps = true
  hasData : f.hasData = true → g.hasData = true

theorem entriesAmong_le_of_prefix {ts us : List (List Char)} (h : ts <+: us) :
    entriesAmong ts ≤ entriesAmong us := by
  obtain ⟨vs, rfl⟩ := h
  cases ts with
  | nil => exact Nat.zero_le _
  | cons t ts =>
    simp only [entriesAmong, List.cons_append, List.isEmpty_cons, List.map_cons, List.map_append,
      List.sum_cons, List.sum_append]
    exact Nat.add_le_add_left (Nat.add_le_add_left (Nat.le_add_right ..) _) 1

/-- The blocks of a text are the first ones of every text that goes on. -/
theorem prefix_blockTexts (name : String) (s more : List Char) :
    blockTexts name (splitOn '}' s).dropLast <+:
      blockTexts name (splitOn '}' (s ++ more)).dropLast :=
  (prefix_dropLast_splitOn '}' s more).filterMap _

theorem length_matchesIn_hookCall_le (s more : List Char) :
    (hookCall.matchesIn s).length ≤ (hookCall.matchesIn (s ++ more)).length := by
  rw [(forall₂_matchesIn_hookPlaces s).length_eq,
    (forall₂_matchesIn_hookPlaces (s ++ more)).length_eq, hookPlaces_eq, hookPlaces_eq]
  exact Pattern.length_placesAfter_append_le hookCall none s more

theorem occursIn_append {p : Pattern} {s : List Char} (h : p.occursIn s = true)
    (more : List Char) : p.occursIn (s ++ more) = true :=
  Pattern.occursAfter_append h more

theorem any_occursIn_append {ps : List Pattern} {s : List Char}
    (h : (ps.any fun p => p.occursIn s) = true) (more : List Char) :
    (ps.any fun p => p.occursIn (s ++ more)) = true := by
  obtain ⟨p, hp, hs⟩ := List.any_eq_true.1 h
  exact List.any_eq_true.2 ⟨p, hp, occursIn_append hs more⟩

/-- A text has at most the features of a text that goes on from it. -/
theorem Features.ofText_append (s more : List Char) :
    (ofText s).AtMost (ofText (s ++ more)) := by
  have hs := ofText_readsBlocks s
  have hmore := ofText_readsBlocks (s ++ more)
  refine ⟨length_matchesIn_hookCall_le s more, ?_, ?_, ?_, fun h => occursIn_append h more,
    fun h => occursIn_append h more, fun h => occursIn_append h more,
    fun h => occursIn_append h more, fun h => any_occursIn_append h more,
    fun h => any_occursIn_append h more⟩
  · rw [hs.computedEntries, hmore.computedEntries]
    exact entriesAmong_le_of_prefix (prefix_blockTexts "computed" s more)
  · -- the first block is still the first one
    rw [hs.methodEntries, hmore.methodEntries]
    exact entriesAmong_le_of_prefix (List.IsPrefix.take (prefix_blockTexts "methods" s more) 1)
  · rw [hs.watchBlocks, hmore.watchBlocks]
    exact (prefix_dropLast_splitOn '}' s more).sublist.countP_le

/-! ## Scores and tiers -/

namespace Scoring

theorem score_le (scoring : Scoring) {f g : Features} (h : f.AtMost g) :
    scoring.score f ≤ scoring.score g := by
  have hflag : ∀ {a b : Bool} (weight : Nat), (a = true → b = true) →
      a.toNat * weight ≤ b.toNat * weight := by
    intro a b weight hab
    exact Nat.mul_le_mul_right weight (Bool.toNat_le_toNat (Bool.le_iff_imp.2 hab))
  have hmixins := hflag scoring.mixins h.hasMixins
  have himmediate := hflag scoring.watchImmediate h.watchesImmediately
  have hdeep := hflag scoring.watchDeep h.watchesDeeply
  have hfilters := hflag scoring.filters h.hasFilters
  have hhooks := Nat.mul_le_mul_right scoring.lifecycleHook h.hooks
  have hcomputed := Nat.mul_le_mul_right scoring.computedEntry h.computedEntries
  have hmethods := Nat.mul_le_mul_right scoring.methodEntry h.methodEntries
  have hwatch := Nat.mul_le_mul_right scoring.simpleWatch h.watchBlocks
  simp only [score]
  omega

/-- A higher score has no lower tier, nor has a score under lower boundaries. -/
theorem rank_tierOf_le_of_boundaries {a b : Scoring} (hhigh : b.highThreshold ≤ a.highThreshold)
    (hmedium : b.mediumThreshold ≤ a.mediumThreshold) {m n : Int} (h : m ≤ n) :
    (a.tierOf m).rank ≤ (b.tierOf n).rank := by
  have hcross := b.medium_le_high
  simp only [tierOf]
  split
  · rename_i hm
    rw [if_pos (by omega)]
  · split
    · rename_i hm
      split
      · decide
      · rw [if_pos (by omega)]
    · exact Nat.zero_le _

theorem rank_tierOf_le (scoring : Scoring) {m n : Int} (h : m ≤ n) :
    (scoring.tierOf m).rank ≤ (scoring.tierOf n).rank :=
  rank_tierOf_le_of_boundaries (Nat.le_refl _) (Nat.le_refl _) h

end Scoring

/-! ## Signals -/

/-- Signals that nothing vetoes go on firing, and the signals that fire are listed in one order. -/
theorem firing_append {family : List Signal} (hfamily : ∀ sig ∈ family, sig.veto = none)
    (s more : List Char) : (firing family s).Sublist (firing family (s ++ more)) := by
  have hfires : ∀ sig ∈ family, sig.firesIn s = true → sig.firesIn (s ++ more) = true := by
    intro sig hsig h
    rw [Signal.firesIn, hfamily sig hsig, Option.any_none, Bool.not_false, Bool.and_true] at h ⊢
    exact occursIn_append h more
  have hkept : family.filter (fun sig => sig.firesIn s) =
      (family.filter fun sig => sig.firesIn (s ++ more)).filter fun sig => sig.firesIn s := by
    rw [List.filter_filter]
    refine List.filter_congr fun sig hsig => ?_
    rw [Bool.eq_iff_iff, Bool.and_eq_true]
    exact ⟨fun h => ⟨h, hfires sig hsig h⟩, And.left⟩
  rw [firing, firing, hkept]
  exact List.filter_sublist.map Signal.name

/-- No options signal can be vetoed. -/
theorem veto_optionsSignals : ∀ sig ∈ optionsSignals, sig.veto = none := by
  decide +kernel

/-! ## Assessments -/

/-- An assessment that is nowhere above another one: neither in a count, nor in its score, its tier
or a flag. -/
structure Assessment.AtMost (a b : Assessment) : Prop where
  hooks : a.hooks ≤ b.hooks
  computedEntries : a.computedEntries ≤ b.computedEntries
  methodEntries : a.methodEntries ≤ b.methodEntries
  score : a.score ≤ b.score
  tier : a.tier.rank ≤ b.tier.rank
  hasWatchers : a.hasWatchers = true → b.hasWatchers = true
  hasMixins : a.hasMixins = true → b.hasMixins = true
  hasFilters : a.hasFilters = true → b.hasFilters = true
  hasProps : a.hasProps = true → b.hasProps = true
  hasData : a.hasData = true → b.hasData = true

theorem Component.assess_atMost (scoring : Scoring) {c d : Component}
    (h : (Features.ofText c.content.toList).AtMost (Features.ofText d.content.toList)) :
    (c.assess scoring).AtMost (d.assess scoring) where
  hooks := Int.ofNat_le.2 h.hooks
  computedEntries := Int.ofNat_le.2 h.computedEntries
  methodEntries := Int.ofNat_le.2 h.methodEntries
  score := Int.ofNat_le.2 (scoring.score_le h)
  tier := scoring.rank_tierOf_le (Int.ofNat_le.2 (scoring.score_le h))
  hasWatchers hwatches :=
    decide_eq_true (Nat.lt_of_lt_of_le (of_decide_eq_true hwatches) h.watchBlocks)
  hasMixins := h.hasMixins
  hasFilters := h.hasFilters
  hasProps := h.hasProps
  hasData := h.hasData

/-- **Appended text never makes a component simpler**: under every scoring, the assessment of the
longer text is nowhere below that of the text, and every options signal of the text is one of the
longer text. -/
theorem assess_append (path text more : String) (scoring : Scoring) :
    ((Component.mk path text).assess scoring).AtMost
        ((Component.mk path (text ++ more)).assess scoring) ∧
      (traceOf text.toList).options.Sublist (traceOf (text ++ more).toList).options := by
  have happend : (text ++ more).toList = text.toList ++ more.toList := String.toList_append
  constructor
  · refine Component.assess_atMost scoring ?_
    rw [happend]
    exact Features.ofText_append text.toList more.toList
  · rw [happend]
    exact firing_append veto_optionsSignals text.toList more.toList

end ComponentCensus
