import Mathlib.Tactic.Ring
import ComponentCensus.Proofs.Census.Rescoring
import ComponentCensus.Proofs.Component.Growth
import ComponentCensus.Proofs.Settings.Resolution

/-!
# Weights and boundaries

The numbers that a table gives for the scoring are checked once, and then trusted: a score is the
sum of the weights as they are given, each times what the text has of it, and its tier is settled by
the boundaries as they are given.  So heavier weights and lower boundaries never lead to a lower
score or tier, and they change nothing else in an assessment.

* `Settings.numberIn`, `Settings.weightsIn` — the numbers that a table gives.
* `Features.amounts`, `weigh` — what a text has of each weight, and the sum over all weights.
* `Scoring.FollowsTable` — scores and tiers in terms of the numbers in the table;
  `Settings.followsTable_of_accepted` says that this is how every accepted table is used.
* `Settings.MilderThan` — a table with weights that are no heavier and boundaries that are no lower.
* `assess_mono_in_weights` — one component under two accepted tables.
-/

set_option autoImplicit false

namespace ComponentCensus

/-! ## The numbers in a table -/

namespace Settings

/-- The number that a table gives for a weight or boundary, and the usual one if it gives none. -/
def numberIn (table : Entries) (usual : String × Nat) : Int :=
  match weightValue table usual with
  | .int n => n
  | _ => 0

/-- The names of the weights, with what is usual for each. -/
def usualWeights : List (String × Nat) := Scoring.usual.fields.take 8

/-- The weights that a table gives. -/
def weightsIn (table : Entries) : List Int := usualWeights.map (numberIn table)

/-- The least score of the high tier that a table gives. -/
def highIn (table : Entries) : Int :=
  numberIn table ("high_threshold", Scoring.usual.highThreshold)

/-- The least score of the medium tier that a table gives. -/
def mediumIn (table : Entries) : Int :=
  numberIn table ("medium_threshold", Scoring.usual.mediumThreshold)

/-- The weights of the first table are nowhere heavier, and its boundaries nowhere lower. -/
structure MilderThan (t u : Entries) : Prop where
  weights : ∀ usual ∈ usualWeights, numberIn t usual ≤ numberIn u usual
  high : highIn u ≤ highIn t
  medium : mediumIn u ≤ mediumIn t

instance (t u : Entries) : Decidable (MilderThan t u) :=
  decidable_of_iff ((∀ usual ∈ usualWeights, numberIn t usual ≤ numberIn u usual) ∧
      highIn u ≤ highIn t ∧ mediumIn u ≤ mediumIn t)
    ⟨fun h => ⟨h.1, h.2.1, h.2.2⟩, fun h => ⟨h.weights, h.high, h.medium⟩⟩

/-- An accepted table gives the numbers that the scoring has. -/
theorem numbers_of_accepted {table : Entries} {scoring : Scoring}
    (h : scoringOf table = .ok scoring) :
    Scoring.usual.fields.map (numberIn table) =
      scoring.fields.map fun field => (field.2 : Int) := by
  have hfields := (scoringOf_eq_ok_iff.1 h).2
  generalize Scoring.usual.fields = usuals at hfields ⊢
  generalize scoring.fields = fields at hfields ⊢
  induction hfields with
  | nil => rfl
  | cons hvalue _ ih => rw [List.map_cons, List.map_cons, numberIn, hvalue, ih]

end Settings

/-! ## Weighing -/

/-- What a text has of each weight, in the order of the weights. -/
def Features.amounts (f : Features) : List Nat :=
  [f.hasMixins.toNat, f.watchesImmediately.toNat, f.watchesDeeply.toNat, f.hasFilters.toNat,
    f.hooks, f.computedEntries, f.methodEntries, f.watchBlocks]

/-- The sum of all weights, each times the amount that there is of it. -/
def weigh (weights : List Int) (amounts : List Nat) : Int :=
  (List.zipWith (fun (weight : Int) (amount : Nat) => weight * amount) weights amounts).sum

/-- Heavier weights weigh more. -/
theorem weigh_le_weigh {weights weights' : List Int} (h : List.Forall₂ (· ≤ ·) weights weights')
    (amounts : List Nat) : weigh weights amounts ≤ weigh weights' amounts := by
  unfold weigh
  induction h generalizing amounts with
  | nil => exact Int.le_refl _
  | cons hweight _ ih =>
    cases amounts with
    | nil => exact Int.le_refl _
    | cons amount amounts =>
      simp only [List.zipWith_cons_cons, List.sum_cons]
      exact Int.add_le_add (Int.mul_le_mul_of_nonneg_right hweight (Int.natCast_nonneg _))
        (ih amounts)

/-- A scoring weighs the amounts with its weights. -/
theorem score_eq_weigh (scoring : Scoring) (f : Features) :
    (scoring.score f : Int) =
      weigh ((scoring.fields.map fun field => (field.2 : Int)).take 8) f.amounts := by
  simp only [Scoring.score, Scoring.fields, Features.amounts, weigh, List.map_cons,
    List.take_succ_cons, List.take_zero, List.zipWith_cons_cons, List.zipWith_nil_left,
    List.sum_cons, List.sum_nil, Nat.cast_add, Nat.cast_mul]
  ring

namespace Scoring

open Settings

/-- Scores and tiers are those that the numbers in a table call for. -/
structure FollowsTable (scoring : Scoring) (table : Entries) : Prop where
  score : ∀ c : Component, (c.assess scoring).score =
    weigh (weightsIn table) (Features.ofText c.content.toList).amounts
  tier : ∀ c : Component, (c.assess scoring).tier = scoring.tierOf (c.assess scoring).score
  low : ∀ n : Int, scoring.tierOf n = .low ↔ n < mediumIn table
  medium : ∀ n : Int, scoring.tierOf n = .medium ↔ mediumIn table ≤ n ∧ n < highIn table
  high : ∀ n : Int, scoring.tierOf n = .high ↔ highIn table ≤ n
  monotone : ∀ m n : Int, m ≤ n → (scoring.tierOf m).rank ≤ (scoring.tierOf n).rank

theorem tierOf_eq_medium_iff (scoring : Scoring) (n : Int) :
    scoring.tierOf n = .medium ↔ scoring.mediumThreshold ≤ n ∧ n < scoring.highThreshold := by
  have hlow := scoring.tierOf_eq_low_iff n
  have hhigh := scoring.tierOf_eq_high_iff n
  rw [← Int.not_lt, ← hlow, ← Int.not_le, ← hhigh]
  cases scoring.tierOf n <;> simp

end Scoring

namespace Settings

section
variable {table : Entries} {scoring : Scoring} (h : scoringOf table = .ok scoring)
include h

/-- The boundaries of an accepted table are those of the scoring. -/
theorem boundaries_of_accepted :
    highIn table = scoring.highThreshold ∧ mediumIn table = scoring.mediumThreshold := by
  have hnumbers := numbers_of_accepted h
  simp only [Scoring.fields, List.map_cons, List.map_nil, List.cons.injEq, and_true] at hnumbers
  exact ⟨hnumbers.2.2.2.2.2.2.2.2.1, hnumbers.2.2.2.2.2.2.2.2.2⟩

/-- Every accepted table is used as it stands. -/
theorem followsTable_of_accepted : scoring.FollowsTable table where
  score c := by
    rw [weightsIn, usualWeights, List.map_take, numbers_of_accepted h]
    exact score_eq_weigh scoring _
  tier _ := rfl
  low n := by rw [(boundaries_of_accepted h).2]; exact scoring.tierOf_eq_low_iff n
  medium n := by
    rw [(boundaries_of_accepted h).1, (boundaries_of_accepted h).2]
    exact scoring.tierOf_eq_medium_iff n
  high n := by rw [(boundaries_of_accepted h).1]; exact scoring.tierOf_eq_high_iff n
  monotone _ _ := scoring.rank_tierOf_le

end

end Settings

open Settings

/-- **Heavier weights and lower boundaries never lead down.**  Of two tables that are accepted, let
one have no heavier weights and no lower boundaries.  Then it gives every component the same counts
and flags as the other one, a score that is not negative and not higher, and no higher tier.  Under
both, the score is the sum of the given weights times what the text has of them, and the given
boundaries settle the tier. -/
theorem assess_mono_in_weights {t u : Entries} {a b : Scoring} (ht : scoringOf t = .ok a)
    (hu : scoringOf u = .ok b) (h : MilderThan t u) (c : Component) :
    (c.assess a).unscored = (c.assess b).unscored ∧
      0 ≤ (c.assess a).score ∧ (c.assess a).score ≤ (c.assess b).score ∧
      (c.assess a).tier.rank ≤ (c.assess b).tier.rank ∧
      a.FollowsTable t ∧ b.FollowsTable u := by
  have ha := followsTable_of_accepted ht
  have hb := followsTable_of_accepted hu
  have hscore : (c.assess a).score ≤ (c.assess b).score := by
    rw [ha.score, hb.score]
    refine weigh_le_weigh ?_ _
    exact List.forall₂_map_left_iff.2 (List.forall₂_map_right_iff.2
      (List.forall₂_same.2 h.weights))
  have hhigh := h.high
  have hmedium := h.medium
  rw [(boundaries_of_accepted ht).1, (boundaries_of_accepted hu).1, Int.ofNat_le] at hhigh
  rw [(boundaries_of_accepted ht).2, (boundaries_of_accepted hu).2, Int.ofNat_le] at hmedium
  exact ⟨unscored_assess c a b, Int.natCast_nonneg _, hscore,
    Scoring.rank_tierOf_le_of_boundaries hhigh hmedium hscore, ha, hb⟩

/-- A component with a list of mixins. -/
def mixedComponent : Component :=
  { path := "src/Mixed.vue", content := "<script>export default \x7b mixins: [a] \x7d</script>" }

/-- A mild table: the high tier begins later than usual. -/
def mildTable : Entries := [("high_threshold", .int 60)]

/-- A severe table: a list of mixins weighs more than usual, and the medium tier begins at once. -/
def severeTable : Entries := [("mixins_weight", .int 45), ("medium_threshold", .int 0)]

/-- The scoring of the mild table. -/
def mildScoring : Scoring := { highThreshold := 60 }

/-- The scoring of the severe table. -/
def severeScoring : Scoring := { mixins := 45, mediumThreshold := 0 }

theorem assess_mono_mixedComponent :
    scoringOf mildTable = .ok mildScoring ∧ scoringOf severeTable = .ok severeScoring ∧
      MilderThan mildTable severeTable ∧
      (mixedComponent.assess mildScoring).tier = .medium ∧
      (mixedComponent.assess severeScoring).tier = .high ∧
      (mixedComponent.assess mildScoring).unscored =
        (mixedComponent.assess severeScoring).unscored ∧
      0 ≤ (mixedComponent.assess mildScoring).score ∧
      (mixedComponent.assess mildScoring).score ≤ (mixedComponent.assess severeScoring).score ∧
      (mixedComponent.assess mildScoring).tier.rank ≤
        (mixedComponent.assess severeScoring).tier.rank ∧
      mildScoring.FollowsTable mildTable ∧ severeScoring.FollowsTable severeTable :=
  have hmild : scoringOf mildTable = .ok mildScoring := rfl
  have hsevere : scoringOf severeTable = .ok severeScoring := rfl
  have hmilder : MilderThan mildTable severeTable := by decide
  ⟨hmild, hsevere, hmilder, by decide +kernel, by decide +kernel,
    assess_mono_in_weights hmild hsevere hmilder mixedComponent⟩

end ComponentCensus
