import ComponentCensus.Proofs.Census.Totals

/-!
# What scoring adds to a census

Scoring adds a breakdown and changes nothing else.  Weights and boundaries decide the scores and
the tiers of the assessments, and nothing else about them, so another scoring moves assessments
between the tiers without adding, losing or repeating one.

* `Assessment.unscored` — an assessment without its score and its tier; `unscored_assess` says that
  it does not depend on the scoring.
* `perm_flatMap_ofTier` — the tiers divide the assessments among them.
* `Summary.Describes.withoutComplexity_eq` — but for the breakdown, there is only one summary that
  is true of some components.
* `census_rescored` — the census with one scoring, with another one, and with none.
-/

set_option autoImplicit false

namespace ComponentCensus

variable {cs : List Component}

/-- The assessment without its score and its tier. -/
def Assessment.unscored (a : Assessment) : Assessment := { a with score := 0, tier := .low }

/-- But for the score and the tier, the assessment of a component does not depend on the scoring. -/
theorem unscored_assess (c : Component) (sc₁ sc₂ : Scoring) :
    (c.assess sc₁).unscored = (c.assess sc₂).unscored := rfl

/-- The assessments of all tiers. -/
def Breakdown.assessments (b : Breakdown) : List Assessment :=
  Tier.all.flatMap fun tier => (b.forTier tier).details

theorem count_ofTier (tier : Tier) (a : Assessment) (as : List Assessment) :
    (ofTier tier as).count a = if a.tier = tier then as.count a else 0 := by
  split
  · rename_i h
    exact List.count_filter (by simpa using h)
  · rename_i h
    refine List.count_eq_zero.2 fun hmem => h ?_
    simpa using (List.mem_filter.1 hmem).2

/-- The tiers divide the assessments among them. -/
theorem perm_flatMap_ofTier (as : List Assessment) :
    (Tier.all.flatMap fun tier => ofTier tier as).Perm as := by
  refine List.perm_iff_count.2 fun a => ?_
  simp only [Tier.all, List.flatMap_cons, List.flatMap_nil, List.append_nil, List.count_append,
    count_ofTier]
  cases a.tier <;> simp

namespace Summary

/-- But for the breakdown, there is only one summary that is true of some components. -/
theorem Describes.withoutComplexity_eq {scoring₁ scoring₂ : Option Scoring} {s₁ s₂ : Summary}
    (h₁ : s₁.Describes scoring₁ cs) (h₂ : s₂.Describes scoring₂ cs) :
    { s₁ with complexity := none } = { s₂ with complexity := none } := by
  rw [h₁.total, h₁.options, h₁.composition, h₁.templateOnly, h₁.unclassified,
    h₁.exampleUnclassified, h₂.total, h₂.options, h₂.composition, h₂.templateOnly, h₂.unclassified,
    h₂.exampleUnclassified]

/-- The breakdown holds one assessment for each options component, each in its tier. -/
theorem Describes.exists_breakdown {sc : Scoring} {s : Summary} (h : s.Describes (some sc) cs) :
    ∃ b, s.complexity = some b ∧
      (∀ tier, ∀ a ∈ (b.forTier tier).details, a.tier = tier) ∧
      b.assessments.Perm ((ofStyle (some .options) cs).map fun c => c.assess sc) := by
  obtain ⟨b, hb, hsections, -⟩ := h.sections sc rfl
  refine ⟨b, hb, fun tier a ha => ?_, ?_⟩
  · rw [(hsections tier).1] at ha
    simpa using (List.mem_filter.1 ha).2
  · simp only [Breakdown.assessments, (hsections _).1]
    exact perm_flatMap_ofTier _

end Summary

/-- **Scoring is an addition to a census.**  Without its breakdown, a census with a scoring is the
census without one.  The breakdowns of two scorings hold the same assessments up to score and tier,
namely one for each options component, and every assessment is in its own tier. -/
theorem census_rescored (sc₁ sc₂ : Scoring) (cs : List Component) :
    { census (some sc₁) cs with complexity := none } = census none cs ∧
      ∃ b₁ b₂, (census (some sc₁) cs).complexity = some b₁ ∧
        (census (some sc₂) cs).complexity = some b₂ ∧
        (b₁.assessments.map Assessment.unscored).Perm (b₂.assessments.map Assessment.unscored) ∧
        (b₁.assessments.map Assessment.unscored).Perm
          ((ofStyle (some .options) cs).map fun c => (c.assess sc₁).unscored) ∧
        ∀ tier, (∀ a ∈ (b₁.forTier tier).details, a.tier = tier) ∧
          ∀ a ∈ (b₂.forTier tier).details, a.tier = tier := by
  have hnone := census_describes none cs
  obtain ⟨b₁, hb₁, htier₁, hperm₁⟩ := (census_describes (some sc₁) cs).exists_breakdown
  obtain ⟨b₂, hb₂, htier₂, hperm₂⟩ := (census_describes (some sc₂) cs).exists_breakdown
  have hunscored : ∀ {b : Breakdown} {sc : Scoring},
      b.assessments.Perm ((ofStyle (some .options) cs).map fun c => c.assess sc) →
        (b.assessments.map Assessment.unscored).Perm
          ((ofStyle (some .options) cs).map fun c => (c.assess sc₁).unscored) := fun {b sc} h => by
    have hmapped := h.map Assessment.unscored
    rw [List.map_map] at hmapped
    exact hmapped.trans (.of_eq (List.map_congr_left fun c _ => unscored_assess c sc sc₁))
  refine ⟨?_, b₁, b₂, hb₁, hb₂, (hunscored hperm₁).trans (hunscored hperm₂).symm,
    hunscored hperm₁, fun tier => ⟨htier₁ tier, htier₂ tier⟩⟩
  rw [(census_describes (some sc₁) cs).withoutComplexity_eq hnone, ← hnone.unscored rfl]

end ComponentCensus
