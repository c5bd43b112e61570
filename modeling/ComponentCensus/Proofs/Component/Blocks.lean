import Mathlib.Algebra.GroupWithZero.Nat
import ComponentCensus.Proofs.Component.Layout
import ComponentCensus.Proofs.Pattern.Segment

/-!
# Blocks and closing braces

The scoring reads blocks of an options object without parsing it: a block goes on to the next
closing brace, whatever that brace closes.  So all there is to know about the blocks of a text is in
its segments between closing braces.

* `blockTexts` — what comes behind the first opening of a block, in each segment that has one;
  `forall₂_matchesIn_block` ties it to the blocks that are found.
* `entriesAmong`, `entryCountAll_eq` — the estimated number of entries, by commas alone.
* `Features.ReadsBlocks` — the features that are read off blocks, in terms of segments.
* `assess_reads_blocks` — every assessment rests on exactly these.
-/

set_option autoImplicit false

namespace ComponentCensus

open Text

/-! ## Blocks -/

/-- The texts behind the first opening of a block, in the segments in which one is opened. -/
def blockTexts (name : String) (segments : List (List Char)) : List (List Char) :=
  segments.filterMap ((writtenEntry name '{').textBehind? none)

/-- The names of the blocks that are looked for. -/
def blockNames : List String := ["computed", "methods", "watch"]

/-- What opens one of these blocks holds neither a closing brace nor a comma, and takes its stretch
in one way only; so does the whole block. -/
theorem blockPieces_settle : ∀ name ∈ blockNames,
    (avoids '}' (entryPieces (asWritten name) '{') = true ∧
      avoids ',' (entryPieces (asWritten name) '{') = true) ∧
    (writtenEntry name '{').definite = true ∧
      (closing (entryPieces (asWritten name) '{') '}').definite = true := by
  decide +kernel

/-- A block is found in each segment that is closed and in which one is opened. -/
theorem forall₂_matchesIn_block (name : String) (hname : name ∈ blockNames) (s : List Char) :
    List.Forall₂ (Closes (entryPieces (asWritten name) '{') '}')
      ((Pattern.of (blockPieces name)).matchesIn s)
      (blockTexts name (splitOn '}' s).dropLast) := by
  obtain ⟨⟨hbrace, -⟩, hopening, hblock⟩ := blockPieces_settle name hname
  exact forall₂_matchesAfter_closing hblock hopening hbrace none s

theorem length_blockTexts (name : String) (segments : List (List Char)) :
    (blockTexts name segments).length = segments.countP (writtenEntry name '{').occursIn := by
  rw [blockTexts, List.length_filterMap_eq_countP]
  exact List.countP_congr fun segment _ => by rw [Pattern.isSome_textBehind?, Pattern.occursIn]

/-! ## Commas -/

/-- The estimated number of entries of some blocks: if there is one at all, one more than the commas
in all of them. -/
def entriesAmong (texts : List (List Char)) : Nat :=
  if texts.isEmpty then 0 else 1 + (texts.map (List.count ',')).sum

/-- The commas of a block are behind its opening. -/
theorem Closes.count_eq {ps : List Piece} {sep : Char} {t b : List Char} (h : Closes ps sep t b)
    {c : Char} (hps : avoids c ps = true) (hc : c ≠ sep) : t.count c = b.count c := by
  obtain ⟨o, rfl, ho⟩ := h
  rw [List.count_append, List.count_append, List.count_eq_zero.2 (not_mem_of_fits hps ho),
    List.count_singleton, if_neg (by simpa using hc.symm), Nat.zero_add, Nat.add_zero]

theorem Closes.ne_nil {ps : List Piece} {sep : Char} {t b : List Char} (h : Closes ps sep t b) :
    t ≠ [] := by
  obtain ⟨o, rfl, -⟩ := h
  simp

/-- Put end to end, blocks have as many entries as their commas say. -/
theorem entryCountAll_eq {ps : List Piece} {sep : Char} (hps : avoids ',' ps = true)
    (hsep : ',' ≠ sep) {ts bs : List (List Char)} (h : List.Forall₂ (Closes ps sep) ts bs) :
    entryCountAll ts = entriesAmong bs := by
  have hcommas : ts.map (List.count ',') = bs.map (List.count ',') := by
    induction h with
    | nil => rfl
    | cons hcloses _ ih => rw [List.map_cons, List.map_cons, hcloses.count_eq hps hsep, ih]
  cases h with
  | nil => rfl
  | @cons t b ts bs hcloses _ =>
    have hne : (t ++ ts.flatten).isEmpty = false := by simp [hcloses.ne_nil]
    rw [entryCountAll, entryCount, List.flatten_cons, hne, ← List.flatten_cons, length_splitOn,
      List.count_flatten, hcommas, entriesAmong, List.isEmpty_cons]
    exact Nat.add_comm _ 1

/-- The first block is all that is left if all others are dropped. -/
theorem entryCount_head? (ts : List (List Char)) :
    entryCount (ts.head?.getD []) = entryCountAll (ts.take 1) := by
  cases ts <;> simp [entryCountAll]

/-! ## Features -/

/-- The pieces of an option that is switched on. -/
def switchPieces (name : String) : List Piece :=
  anyCase name ++ gap ++ mark ':' ++ gap ++ anyCase "true"

/-- A block of watchers is opened, and behind that the option is switched on. -/
def Watches (name : String) (segment : List Char) : Prop :=
  Follows (entryPieces (anyCase "watch") '{') (switchPieces name) segment

/-- The options of watchers that are looked for. -/
def watchOptionNames : List String := ["immediate", "deep"]

/-- Neither what opens a block of watchers nor what switches an option on holds a closing brace. -/
theorem avoids_switchPieces : avoids '}' (entryPieces (anyCase "watch") '{') = true ∧
    ∀ name ∈ watchOptionNames, avoids '}' (switchPieces name) = true := by
  decide +kernel

theorem occursIn_watchOption_iff {name : String} (hname : name ∈ watchOptionNames)
    {s : List Char} :
    (watchOption name).occursIn s = true ↔ ∃ segment ∈ splitOn '}' s, Watches name segment := by
  have hpieces : watchOption name =
      .of (entryPieces (anyCase "watch") '{' ++ upToMark '}' ++ switchPieces name) := by
    simp only [watchOption, switchPieces, List.append_assoc]
  rw [hpieces]
  exact occursIn_through_iff avoids_switchPieces.1 (avoids_switchPieces.2 name hname)

/-- The features that are read off blocks are those of the segments: the counts are those of the
segments that are closed, that is, of all but the last. -/
structure Features.ReadsBlocks (f : Features) (segments : List (List Char)) : Prop where
  watchBlocks : f.watchBlocks = segments.dropLast.countP (writtenEntry "watch" '{').occursIn
  computedEntries : f.computedEntries = entriesAmong (blockTexts "computed" segments.dropLast)
  /-- Of methods, only the first block counts. -/
  methodEntries : f.methodEntries = entriesAmong ((blockTexts "methods" segments.dropLast).take 1)
  watchesImmediately : f.watchesImmediately = true ↔
    ∃ segment ∈ segments, Watches "immediate" segment
  watchesDeeply : f.watchesDeeply = true ↔ ∃ segment ∈ segments, Watches "deep" segment

theorem Features.ofText_readsBlocks (text : List Char) :
    (ofText text).ReadsBlocks (splitOn '}' text) := by
  have hblocks := fun name hname => forall₂_matchesIn_block name hname text
  have hcommas := fun name hname => (blockPieces_settle name hname).1.2
  refine ⟨?_, ?_, ?_, ?_, ?_⟩
  · rw [← length_blockTexts]
    exact (hblocks "watch" (by decide)).length_eq
  · exact entryCountAll_eq (hcommas "computed" (by decide)) (by decide)
      (hblocks "computed" (by decide))
  · refine (entryCount_head? _).trans ?_
    exact entryCountAll_eq (hcommas "methods" (by decide)) (by decide)
      (List.forall₂_take 1 (hblocks "methods" (by decide)))
  · exact occursIn_watchOption_iff (by decide)
  · exact occursIn_watchOption_iff (by decide)

/-- **What the scoring reads off the blocks of a component is what its segments between closing
braces hold**, and the assessment is made of that. -/
theorem assess_reads_blocks (c : Component) (scoring : Scoring) :
    let f := Features.ofText c.content.toList
    f.ReadsBlocks (splitOn '}' c.content.toList) ∧
      c.assess scoring =
        { c.assess scoring with
          score := scoring.score f
          tier := scoring.tierOf (scoring.score f)
          computedEntries := f.computedEntries
          methodEntries := f.methodEntries
          hasWatchers := decide (0 < f.watchBlocks) } :=
  ⟨Features.ofText_readsBlocks c.content.toList, rfl⟩

end ComponentCensus
