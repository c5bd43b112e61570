/-!
# Scoring

The weights of the complexity signals and the boundaries of the tiers.

* `Scoring` — weights and boundaries are natural numbers, and the boundary of the medium tier
  does not exceed that of the high tier.
* `Tier`, `Scoring.tierOf` — the tier of a score.
-/

set_option autoImplicit false

namespace ComponentCensus

/-- The weights of the complexity signals and the boundaries of the tiers. -/
structure Scoring where
  /-- For a list of mixins. -/
  mixins : Nat := 30
  /-- For a watcher that runs at once. -/
  watchImmediate : Nat := 20
  /-- For a watcher that looks into its value. -/
  watchDeep : Nat := 20
  /-- For a block of filters. -/
  filters : Nat := 15
  /-- For each lifecycle hook. -/
  lifecycleHook : Nat := 5
  /-- For each computed entry. -/
  computedEntry : Nat := 3
  /-- For each method. -/
  methodEntry : Nat := 2
  /-- For each block of watchers. -/
  simpleWatch : Nat := 4
  /-- The least score of the high tier. -/
  highThreshold : Nat := 30
  /-- The least score of the medium tier. -/
  mediumThreshold : Nat := 10
  /-- The tiers do not cross. -/
  medium_le_high : mediumThreshold ≤ highThreshold := by decide
deriving Repr, DecidableEq

/-- The usual weights and boundaries. -/
def Scoring.usual : Scoring := {}

instance : Inhabited Scoring := ⟨.usual⟩

/-- The tiers of complexity. -/
inductive Tier where
  | low
  | medium
  | high
deriving Repr, DecidableEq, Inhabited

namespace Tier

/-- The tiers in the order of the reports. -/
def all : List Tier := [low, medium, high]

/-- The name of a tier. -/
def name : Tier → String
  | low => "low"
  | medium => "medium"
  | high => "high"

/-- The position of a tier among all tiers. -/
def rank : Tier → Nat
  | low => 0
  | medium => 1
  | high => 2

end Tier

namespace Scoring

/-- The tier of a score. -/
def tierOf (s : Scoring) (score : Int) : Tier :=
  if s.highThreshold ≤ score then .high
  else if s.mediumThreshold ≤ score then .medium
  else .low

/-- The weights and boundaries with the names that settings give them, in their order. -/
def fields (s : Scoring) : List (String × Nat) :=
  [("mixins_weight", s.mixins), ("watch_immediate_weight", s.watchImmediate),
    ("watch_deep_weight", s.watchDeep), ("filters_weight", s.filters),
    ("lifecycle_hook_weight", s.lifecycleHook), ("computed_entry_weight", s.computedEntry),
    ("method_entry_weight", s.methodEntry), ("simple_watch_weight", s.simpleWatch),
    ("high_threshold", s.highThreshold), ("medium_threshold", s.mediumThreshold)]

/-- The names of the weights and boundaries. -/
def fieldNames : List String := usual.fields.map Prod.fst

theorem tierOf_eq_high_iff (s : Scoring) (score : Int) :
    s.tierOf score = .high ↔ s.highThreshold ≤ score := by
  simp only [tierOf]
  split
  · simp [*]
  · split <;> simp [*]

theorem tierOf_eq_low_iff (s : Scoring) (score : Int) :
    s.tierOf score = .low ↔ score < s.mediumThreshold := by
  have h := s.medium_le_high
  simp only [tierOf]
  split
  · rename_i hs
    simp only [reduceCtorEq, false_iff]
    omega
  · split
    · rename_i hs
      simp only [reduceCtorEq, false_iff]
      omega
    · rename_i hs
      simp only [true_iff]
      omega

end Scoring
end ComponentCensus
