import Mathlib.Data.List.Induction
import ComponentCensus.Census.Tally
import ComponentCensus.Proofs.Census.Table

/-!
# What running totals say

Running totals are updated in many places: one counter for each style, an example, and for each
tier a list of assessments and a table of module counts.  What they say about the components so far
is one statement, `Tally.Describes`; it holds before the first component, and counting a component
keeps it.

* `moduleCounts`, `sectionOf` — the table that belongs to a list of assessments, and the section.
* `Tally.Describes.add` — the step; `Tally.describes_tallyOf` — the run.
* `Summary.Describes` — what a summary says, `census_describes` that it is true of a census.
-/

set_option autoImplicit false

namespace ComponentCensus

/-! ## Sections -/

/-- How often each name occurs, the names in the order in which they are first seen. -/
def moduleCounts (names : List String) : List (String × Int) :=
  names.eraseDups.map fun name => (name, (names.count name : Int))

namespace Section

theorem countModule_eq (name : String) (counts : List (String × Int)) :
    countModule name counts = alterEntry name 1 (· + 1) counts := by
  induction counts with
  | nil => rfl
  | cons e counts ih => rw [countModule, alterEntry, ih]

theorem count_concat (names : List String) (name n : String) :
    ((names ++ [name]).count n : Int) =
      if n = name then (names.count n : Int) + 1 else (names.count n : Int) := by
  rw [List.count_append, List.count_singleton]
  by_cases hn : n = name
  · simp [hn]
  · simp [hn, Ne.symm hn]

/-- Counting one more name keeps the table that of the names so far. -/
theorem countModule_moduleCounts (name : String) (names : List String) :
    countModule name (moduleCounts names) = moduleCounts (names ++ [name]) := by
  rw [countModule_eq]
  refine alterEntry_eraseDups (fun n hn => ?_) (fun hnew => ?_) (fun _ => ?_)
  · rw [count_concat, if_neg hn]
  · rw [count_concat, if_pos rfl, List.count_eq_zero.2 hnew]
    rfl
  · rw [count_concat, if_pos rfl]

theorem foldr_countModule (name : String) (counts : List (String × Int)) :
    (countModule name counts).foldr (fun m n => m.2 + n) 0 =
      counts.foldr (fun m n => m.2 + n) 0 + 1 := by
  induction counts with
  | nil => rfl
  | cons e counts ih =>
    rw [countModule]
    split
    · rw [List.foldr_cons, List.foldr_cons]; omega
    · rw [List.foldr_cons, List.foldr_cons, ih]; omega

theorem total_add (s : Section) (a : Assessment) : (s.add a).total = s.total + 1 :=
  foldr_countModule a.moduleName s.modules

end Section

/-- The section of some assessments. -/
def sectionOf (as : List Assessment) : Section := as.foldl Section.add {}

theorem sectionOf_concat (as : List Assessment) (a : Assessment) :
    sectionOf (as ++ [a]) = (sectionOf as).add a := by
  rw [sectionOf, sectionOf, List.foldl_append, List.foldl_cons, List.foldl_nil]

/-- A section lists its assessments in order, counts their modules, and adds up to their number. -/
theorem sectionOf_eq (as : List Assessment) :
    (sectionOf as).details = as ∧
      (sectionOf as).modules = moduleCounts (as.map Assessment.moduleName) ∧
      (sectionOf as).total = as.length := by
  induction as using List.reverseRecOn with
  | nil => exact ⟨rfl, rfl, rfl⟩
  | append_singleton as a ih =>
    obtain ⟨hdetails, hmodules, htotal⟩ := ih
    rw [sectionOf_concat]
    refine ⟨?_, ?_, ?_⟩
    · rw [Section.add, hdetails]
    · rw [Section.add, hmodules, List.map_append, List.map_singleton,
        Section.countModule_moduleCounts]
    · rw [Section.total_add, htotal, List.length_append, List.length_singleton]
      omega

theorem Breakdown.forTier_add (b : Breakdown) (a : Assessment) (t : Tier) :
    (b.add a).forTier t = if a.tier = t then (b.forTier t).add a else b.forTier t := by
  unfold Breakdown.add
  cases ha : a.tier <;> cases t <;> rfl

/-! ## The invariant -/

/-- The components of a style, or those without one. -/
def ofStyle (style : Option Style) (cs : List Component) : List Component :=
  cs.filter fun c => c.style? = style

/-- The assessments that a census makes: those of the options components, if there is a scoring. -/
def scored (scoring : Option Scoring) (cs : List Component) : List Assessment :=
  match scoring with
  | none => []
  | some s => (ofStyle (some .options) cs).map fun c => c.assess s

/-- The assessments of a tier. -/
def ofTier (tier : Tier) (as : List Assessment) : List Assessment :=
  as.filter fun a => a.tier = tier

/-- The first path that is not empty; empty if there is none. -/
def firstPath (cs : List Component) : String :=
  ((cs.map Component.path).find? fun path => !path.isEmpty).getD ""

/-- What running totals say about the components so far. -/
structure Tally.Describes (scoring : Option Scoring) (cs : List Component) (t : Tally) : Prop where
  scoring_eq : t.scoring = scoring
  total : t.total = cs.length
  options : t.options = (ofStyle (some .options) cs).length
  composition : t.composition = (ofStyle (some .composition) cs).length
  templateOnly : t.templateOnly = (ofStyle (some .templateOnly) cs).length
  unclassified : t.unclassified = (ofStyle (some .unclassified) cs).length
  exampleUnclassified : t.exampleUnclassified = firstPath (ofStyle (some .unclassified) cs)
  breakdown : ∀ tier, t.breakdown.forTier tier = sectionOf (ofTier tier (scored scoring cs))

theorem ofStyle_concat (style : Option Style) (cs : List Component) (c : Component) :
    ofStyle style (cs ++ [c]) =
      if c.style? = style then ofStyle style cs ++ [c] else ofStyle style cs := by
  unfold ofStyle
  split <;> simp [List.filter_append, *]

theorem length_ofStyle_concat (style : Option Style) (cs : List Component) (c : Component) :
    (ofStyle style (cs ++ [c])).length =
      (ofStyle style cs).length + if c.style? = style then 1 else 0 := by
  rw [ofStyle_concat]
  split
  · rw [List.length_append, List.length_singleton]
  · rfl

theorem scored_concat (scoring : Option Scoring) (cs : List Component) (c : Component) :
    scored scoring (cs ++ [c]) =
      match scoring with
      | none => scored scoring cs
      | some s =>
        if c.style? = some .options then scored scoring cs ++ [c.assess s]
        else scored scoring cs := by
  cases scoring with
  | none => rfl
  | some s =>
    simp only [scored, ofStyle_concat]
    split
    · rw [List.map_append, List.map_singleton]
    · rfl

theorem ofTier_concat (tier : Tier) (as : List Assessment) (a : Assessment) :
    ofTier tier (as ++ [a]) = if a.tier = tier then ofTier tier as ++ [a] else ofTier tier as := by
  unfold ofTier
  split <;> simp [List.filter_append, *]

theorem firstPath_concat (cs : List Component) (c : Component) :
    firstPath (cs ++ [c]) = if (firstPath cs).isEmpty then c.path else firstPath cs := by
  unfold firstPath
  rw [List.map_append, List.find?_append, List.map_singleton]
  cases hfound : (cs.map Component.path).find? fun path => !path.isEmpty with
  | none =>
    by_cases hempty : c.path = ""
    · simp [hempty]
    · simp [hempty]
  | some path =>
    have hpath : path ≠ "" := by simpa using List.find?_some hfound
    simp [hpath]

/-! ### What counting a component does -/

namespace Tally

/-- Everything that counting a component changes: one counter, and the example or the breakdown. -/
theorem add_eq (t : Tally) (c : Component) :
    t.add c =
      { scoring := t.scoring
        total := t.total + 1
        options := t.options + if c.style? = some .options then 1 else 0
        composition := t.composition + if c.style? = some .composition then 1 else 0
        templateOnly := t.templateOnly + if c.style? = some .templateOnly then 1 else 0
        unclassified := t.unclassified + if c.style? = some .unclassified then 1 else 0
        exampleUnclassified :=
          if c.style? = some .unclassified ∧ t.exampleUnclassified.isEmpty then c.path
          else t.exampleUnclassified
        breakdown :=
          match t.scoring with
          | none => t.breakdown
          | some s =>
            if c.style? = some .options then t.breakdown.add (c.assess s) else t.breakdown } := by
  obtain ⟨scoring, _, _, _, _, _, _, _⟩ := t
  unfold add
  cases c.style? with
  | none => cases scoring <;> simp
  | some style => cases style <;> cases scoring <;> simp

theorem describes_new (scoring : Option Scoring) :
    Describes scoring [] (Tally.new scoring) where
  scoring_eq := rfl
  total := rfl
  options := rfl
  composition := rfl
  templateOnly := rfl
  unclassified := rfl
  exampleUnclassified := rfl
  breakdown tier := by cases scoring <;> cases tier <;> rfl

/-- Counting a component keeps the totals true. -/
theorem Describes.add {scoring : Option Scoring} {cs : List Component} {t : Tally}
    (h : Describes scoring cs t) (c : Component) : Describes scoring (cs ++ [c]) (t.add c) := by
  rw [add_eq]
  refine ⟨h.scoring_eq, ?_, ?_, ?_, ?_, ?_, ?_, ?_⟩
  · rw [h.total, List.length_append, List.length_singleton]
  · rw [length_ofStyle_concat, h.options]
  · rw [length_ofStyle_concat, h.composition]
  · rw [length_ofStyle_concat, h.templateOnly]
  · rw [length_ofStyle_concat, h.unclassified]
  · rw [h.exampleUnclassified, ofStyle_concat]
    by_cases hstyle : c.style? = some .unclassified
    · simp only [hstyle, true_and, if_true, firstPath_concat]
    · simp only [hstyle, false_and, if_false]
  · intro tier
    rw [h.scoring_eq, scored_concat]
    cases scoring with
    | none => exact h.breakdown tier
    | some s =>
      by_cases hstyle : c.style? = some .options
      · simp only [hstyle, if_true]
        rw [Breakdown.forTier_add, ofTier_concat, h.breakdown tier]
        split
        · rw [sectionOf_concat]
        · rfl
      · simp only [hstyle, if_false]
        exact h.breakdown tier

/-- The totals of some components are true of them. -/
theorem describes_tallyOf (scoring : Option Scoring) (cs : List Component) :
    Describes scoring cs (tallyOf scoring cs) := by
  induction cs using List.reverseRecOn with
  | nil => exact describes_new scoring
  | append_singleton cs c ih =>
    rw [tallyOf, List.foldl_append, List.foldl_cons, List.foldl_nil]
    exact ih.add c

end Tally

/-! ## Summaries -/

/-- What a summary says about some components. -/
structure Summary.Describes (scoring : Option Scoring) (cs : List Component) (s : Summary) :
    Prop where
  total : s.total = cs.length
  options : s.options = (ofStyle (some .options) cs).length
  composition : s.composition = (ofStyle (some .composition) cs).length
  templateOnly : s.templateOnly = (ofStyle (some .templateOnly) cs).length
  unclassified : s.unclassified = (ofStyle (some .unclassified) cs).length
  dropped : s.dropped = (ofStyle none cs).length
  /-- The example is the first path that is not empty among the unclassified components. -/
  exampleUnclassified : s.exampleUnclassified = firstPath (ofStyle (some .unclassified) cs)
  /-- Without a scoring there is no breakdown. -/
  unscored : scoring = none → s.complexity = none
  /-- With a scoring, each tier lists the assessments of its options components in order, counts
  their modules in the order in which these are first seen, and adds up to their number. -/
  sections : ∀ sc, scoring = some sc → ∃ b, s.complexity = some b ∧
    (∀ tier, (b.forTier tier).details =
        ofTier tier ((ofStyle (some .options) cs).map fun c => c.assess sc) ∧
      (b.forTier tier).modules =
        moduleCounts ((b.forTier tier).details.map Assessment.moduleName) ∧
      (b.forTier tier).total = (b.forTier tier).details.length) ∧
    b.low.total + b.medium.total + b.high.total = s.options

/-- Every component has exactly one style or none. -/
theorem length_eq_sum_ofStyle (cs : List Component) :
    cs.length = (ofStyle (some .options) cs).length + (ofStyle (some .composition) cs).length +
      (ofStyle (some .templateOnly) cs).length + (ofStyle (some .unclassified) cs).length +
      (ofStyle none cs).length := by
  induction cs using List.reverseRecOn with
  | nil => rfl
  | append_singleton cs c ih =>
    rw [List.length_append, List.length_singleton, ih]
    simp only [length_ofStyle_concat]
    cases c.style? with
    | none => simp; omega
    | some style => cases style <;> simp <;> omega

/-- Every assessment is in one tier. -/
theorem length_eq_sum_ofTier (as : List Assessment) :
    as.length = (ofTier .low as).length + (ofTier .medium as).length +
      (ofTier .high as).length := by
  induction as with
  | nil => rfl
  | cons a as ih =>
    unfold ofTier at ih ⊢
    cases ha : a.tier <;> simp [ha, ih] <;> omega

theorem Tally.Describes.summary {scoring : Option Scoring} {cs : List Component} {t : Tally}
    (h : t.Describes scoring cs) : t.summary.Describes scoring cs where
  total := congrArg Nat.cast h.total
  options := congrArg Nat.cast h.options
  composition := congrArg Nat.cast h.composition
  templateOnly := congrArg Nat.cast h.templateOnly
  unclassified := congrArg Nat.cast h.unclassified
  dropped := by
    have hsum := length_eq_sum_ofStyle cs
    simp only [Tally.summary, Summary.dropped, Summary.classified, h.total, h.options,
      h.composition, h.templateOnly, h.unclassified]
    omega
  exampleUnclassified := h.exampleUnclassified
  unscored := by
    intro hnone
    rw [Tally.summary, h.scoring_eq, hnone, Option.map_none]
  sections := by
    rintro sc rfl
    have hsection : ∀ tier, t.breakdown.forTier tier =
        sectionOf (ofTier tier ((ofStyle (some .options) cs).map fun c => c.assess sc)) :=
      h.breakdown
    refine ⟨t.breakdown, ?_, ?_, ?_⟩
    · rw [Tally.summary, h.scoring_eq, Option.map_some]
    · intro tier
      obtain ⟨hdetails, hmodules, htotal⟩ :=
        sectionOf_eq (ofTier tier ((ofStyle (some .options) cs).map fun c => c.assess sc))
      rw [hsection, hdetails]
      exact ⟨rfl, hmodules, htotal⟩
    · have hsum := length_eq_sum_ofTier ((ofStyle (some .options) cs).map fun c => c.assess sc)
      rw [List.length_map] at hsum
      have htotal := fun tier =>
        (sectionOf_eq (ofTier tier ((ofStyle (some .options) cs).map fun c => c.assess sc))).2.2
      have hlow := hsection .low
      have hmedium := hsection .medium
      have hhigh := hsection .high
      simp only [Breakdown.forTier] at hlow hmedium hhigh
      rw [hlow, hmedium, hhigh, htotal, htotal, htotal]
      simp only [Tally.summary, h.options]
      omega

/-- The summary of a census is true of its components. -/
theorem census_describes (scoring : Option Scoring) (cs : List Component) :
    (census scoring cs).Describes scoring cs :=
  (Tally.describes_tallyOf scoring cs).summary

end ComponentCensus
