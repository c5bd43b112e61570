import Mathlib.Algebra.GroupWithZero.Nat
import Mathlib.Logic.Relation
import ComponentCensus.Component.Entries
import ComponentCensus.Proofs.Text.Splitting

/-!
# Entries of several blocks

Blocks are put end to end before their entries are counted, so the last piece of one and the first
piece of the next are one.  What is left of the blocks are their commas: how these are spread over
the blocks, in which order the blocks come and where one of them ends makes no difference, except
that no text at all has no entries.

* `commasAmong`, `filledAmong` — the commas of some blocks, and the blocks that are not empty.
* `sum_entryCount` — the entries of the blocks, each counted on its own.
* `Recut` — one change of a list of blocks, and `Recut.perm_flatten`: it loses no character.
* `entryCountAll_by_commas` — the count in terms of commas and of the single blocks, and what leaves
  it as it is.
-/

set_option autoImplicit false

namespace ComponentCensus

open Text

/-! ## One block -/

theorem entryCount_nil : entryCount [] = 0 := rfl

theorem entryCount_of_ne_nil {block : List Char} (h : block ≠ []) :
    entryCount block = 1 + block.count ',' := by
  rw [entryCount, List.isEmpty_eq_false_iff.2 h, length_splitOn]
  exact Nat.add_comm _ 1

/-- The order of the characters does not matter. -/
theorem entryCount_perm {block other : List Char} (h : block.Perm other) :
    entryCount block = entryCount other := by
  rw [entryCount, entryCount, h.isEmpty_eq, length_splitOn, length_splitOn, h.count_eq]

/-! ## Several blocks -/

/-- The number of commas in some blocks. -/
def commasAmong (blocks : List (List Char)) : Nat := (blocks.map (List.count ',')).sum

/-- The number of blocks that are not empty. -/
def filledAmong (blocks : List (List Char)) : Nat := blocks.countP fun block => !block.isEmpty

theorem filledAmong_eq_zero_iff {blocks : List (List Char)} :
    filledAmong blocks = 0 ↔ ∀ block ∈ blocks, block = [] := by
  simp [filledAmong]

theorem entryCountAll_of_empty {blocks : List (List Char)} (h : ∀ block ∈ blocks, block = []) :
    entryCountAll blocks = 0 := by
  rw [entryCountAll, List.flatten_eq_nil_iff.2 h, entryCount_nil]

theorem entryCountAll_of_filled {blocks : List (List Char)}
    (h : ¬ ∀ block ∈ blocks, block = []) : entryCountAll blocks = 1 + commasAmong blocks := by
  rw [entryCountAll, entryCount_of_ne_nil (mt List.flatten_eq_nil_iff.1 h), List.count_flatten,
    commasAmong]

/-- Counted on its own, each block that is not empty has one entry more than it has commas. -/
theorem sum_entryCount (blocks : List (List Char)) :
    (blocks.map entryCount).sum = commasAmong blocks + filledAmong blocks := by
  rw [commasAmong, filledAmong]
  induction blocks with
  | nil => rfl
  | cons block blocks ih =>
    rw [List.map_cons, List.sum_cons, ih, List.map_cons, List.sum_cons, List.countP_cons]
    cases block with
    | nil => simp [entryCount_nil]
    | cons c block =>
      rw [entryCount_of_ne_nil (List.cons_ne_nil c block), List.isEmpty_cons, Bool.not_false,
        if_pos rfl]
      omega

/-! ## Blocks cut another way -/

/-- One change of a list of blocks. -/
inductive Recut : List (List Char) → List (List Char) → Prop where
  /-- The blocks come in another order. -/
  | reordered {blocks others : List (List Char)} : blocks.Perm others → Recut blocks others
  /-- An empty block is put in. -/
  | padded (front back : List (List Char)) : Recut (front ++ back) (front ++ [] :: back)
  /-- A block is cut in two. -/
  | cut (front : List (List Char)) (left right : List Char) (back : List (List Char)) :
      Recut (front ++ (left ++ right) :: back) (front ++ left :: right :: back)

section
variable {blocks others : List (List Char)}

/-- A change moves characters around and loses none. -/
theorem Recut.perm_flatten (h : Recut blocks others) : blocks.flatten.Perm others.flatten := by
  cases h with
  | reordered hperm => exact hperm.flatten
  | padded front back => simp
  | cut front left right back => simp

theorem entryCountAll_of_recut (h : Recut blocks others) :
    entryCountAll others = entryCountAll blocks :=
  (entryCount_perm h.perm_flatten).symm

theorem entryCountAll_of_eqvGen (h : Relation.EqvGen Recut blocks others) :
    entryCountAll others = entryCountAll blocks := by
  induction h with
  | rel _ _ hrecut => exact entryCountAll_of_recut hrecut
  | refl _ => rfl
  | symm _ _ _ ih => exact ih.symm
  | trans _ _ _ _ _ ih ih' => exact ih'.trans ih

end

/-- **Several blocks have one entry more than they have commas**, or none if all of them are empty.
Against the blocks counted one by one, that is one entry less for each block but one that is not
empty.  So the count stays as it is through any number of changes, made or taken back, that give the
blocks another order, put in an empty block or cut a block in two. -/
theorem entryCountAll_by_commas (blocks : List (List Char)) :
    (entryCountAll blocks =
        if ∀ block ∈ blocks, block = [] then 0 else 1 + commasAmong blocks) ∧
      (blocks.map entryCount).sum = entryCountAll blocks + (filledAmong blocks - 1) ∧
      ∀ others, Relation.EqvGen Recut blocks others →
        entryCountAll others = entryCountAll blocks := by
  refine ⟨?_, ?_, fun others hchanges => entryCountAll_of_eqvGen hchanges⟩
  · split
    · rename_i hempty
      exact entryCountAll_of_empty hempty
    · rename_i hfilled
      exact entryCountAll_of_filled hfilled
  · rw [sum_entryCount]
    by_cases hempty : ∀ block ∈ blocks, block = []
    · have hcommas : commasAmong blocks = 0 := by
        rw [commasAmong, ← List.count_flatten, List.flatten_eq_nil_iff.2 hempty, List.count_nil]
      rw [entryCountAll_of_empty hempty, filledAmong_eq_zero_iff.2 hempty, hcommas]
    · have hfilled : filledAmong blocks ≠ 0 := mt filledAmong_eq_zero_iff.1 hempty
      rw [entryCountAll_of_filled hempty]
      omega

/-- A piece that is cut in two by the end of a block is counted once. -/
example : entryCountAll ["computed: \x7b a, b".toList, "c, d \x7d".toList] = 3 := by decide

end ComponentCensus
