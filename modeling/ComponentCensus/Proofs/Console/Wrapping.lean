import Mathlib.Data.List.DropRight
import Mathlib.Data.List.TakeDrop
import ComponentCensus.Proofs.Console.Verbatim

/-!
# Lines that a width leaves alone

A console with a width breaks lines between words, cuts words that are wider than a line, takes
blanks away at the ends of lines, and cuts what is left at the width.  Breaking never loses a
character, so a text is printed the same with and without a width exactly if every line of it fits.

* `cells` — the columns of a text, character by character.
* `flatMap_text_wordsOfLine`, `flatten_layWords` — the words of a line, and the lines that words
  are laid on, join to the whole.
* `FitsOn` — a line fits on a width; `wrapLine_eq_self_iff` says that these are the lines that
  wrapping leaves alone, and `fitsOn_iff_length_le` that for plain characters the length decides.
* `printed_eq_iff_fitsOn` — texts are printed the same with and without a width exactly if all
  their lines fit.
-/

set_option autoImplicit false

namespace ComponentCensus
namespace Console

open Text

variable {width used : Nat} {s line : List Char}

/-! ## Cropping -/

/-- The columns of a text, character by character. -/
def cells (s : List Char) : Nat := (s.map columnsOf).sum

@[simp] theorem cells_nil : cells [] = 0 := rfl

@[simp] theorem cells_cons (c : Char) (s : List Char) :
    cells (c :: s) = columnsOf c + cells s := rfl

theorem cells_append (s₁ s₂ : List Char) : cells (s₁ ++ s₂) = cells s₁ + cells s₂ := by
  rw [cells, List.map_append, List.sum_append]
  rfl

theorem columnsOf_le_two (c : Char) : columnsOf c ≤ 2 := by
  simp only [columnsOf]
  repeat' split
  all_goals decide

theorem cropColumns_eq_self_iff : cropColumns width s = s ↔ cells s ≤ width := by
  fun_induction cropColumns width s with
  | case1 => simp
  | case2 width c s hc ih =>
    simp only [List.cons.injEq, true_and, ih, cells_cons]
    omega
  | case3 width c s hc =>
    -- a blank is not cut, as there is room for it on any width but zero
    refine iff_of_false (fun h => hc ?_) (by rw [cells_cons]; omega)
    have hlength : width = s.length + 1 := by simpa using congrArg List.length h
    have hmem : c ∈ List.replicate width ' ' := h ▸ List.mem_cons_self
    have hblank : columnsOf ' ' = 1 := by decide
    rw [List.eq_of_mem_replicate hmem, hblank]
    omega

theorem length_cropColumns_le (width : Nat) (s : List Char) :
    (cropColumns width s).length ≤ s.length := by
  fun_induction cropColumns width s with
  | case1 => exact Nat.le_refl _
  | case2 width c s hc ih => simpa using ih
  | case3 width c s hc =>
    have hle := columnsOf_le_two c
    rw [List.length_replicate, List.length_cons]
    omega

theorem mem_cropColumns {c : Char} (h : c ∈ cropColumns width s) : c = ' ' ∨ c ∈ s := by
  fun_induction cropColumns width s with
  | case1 => cases h
  | case2 width d s hd ih =>
    rcases List.mem_cons.1 h with rfl | h
    · exact .inr List.mem_cons_self
    · exact (ih h).imp_right (List.mem_cons_of_mem d)
  | case3 width d s hd => exact .inl (List.eq_of_mem_replicate h)

/-- A text keeps its trailing blanks if it has none, or no more characters than columns. -/
theorem cropBlanks_eq_self_iff :
    cropBlanks width s = s ↔ ∀ c ∈ s.getLast?, isBlank c = true → s.length ≤ width := by
  simp only [cropBlanks, List.take_eq_self_iff, List.getLast?_eq_head?_reverse,
    ← @List.length_reverse _ s]
  cases s.reverse with
  | nil => simp
  | cons c s =>
    by_cases hc : isBlank c = true
    · simp [hc]
      omega
    · simp [hc]

/-- Cropping columns does not make up for blanks that were taken away. -/
theorem crop_eq_self_iff :
    cropColumns width (cropBlanks width s) = s ↔
      cropBlanks width s = s ∧ cells s ≤ width := by
  constructor
  · intro h
    have hle := length_cropColumns_le width (cropBlanks width s)
    rw [h] at hle
    have hblanks : cropBlanks width s = s := (List.take_prefix _ s).eq_of_length_le hle
    exact ⟨hblanks, cropColumns_eq_self_iff.1 (by rwa [hblanks] at h)⟩
  · rintro ⟨hblanks, hcells⟩
    rw [hblanks, cropColumns_eq_self_iff.2 hcells]

/-! ## Words -/

theorem dropWhile_of_wordsFrom_eq_nil {fuel : Nat} (hfuel : s.length ≤ fuel)
    (h : wordsFrom fuel s = []) : s.dropWhile isBlank = [] := by
  cases fuel with
  | zero => simp [List.eq_nil_of_length_eq_zero (Nat.le_zero.1 hfuel)]
  | succ fuel =>
    simp only [wordsFrom] at h
    split at h
    · rename_i hbody
      cases hrest : s.dropWhile isBlank with
      | nil => rfl
      | cons c rest =>
        have hc : isBlank c = false := by
          have := isBlank_of_mem_head?_trimLeft (s := s) (c := c)
          exact this (by rw [trimLeft, hrest, List.head?_cons])
        simp [hrest, hc] at hbody
    · cases h

/-- The words of a line join to the line. -/
theorem flatMap_text_wordsFrom {fuel : Nat} (hfuel : s.length ≤ fuel) (h : wordsFrom fuel s ≠ []) :
    (wordsFrom fuel s).flatMap Word.text = s := by
  induction fuel generalizing s with
  | zero => exact absurd rfl h
  | succ fuel ih =>
    simp only [wordsFrom] at h ⊢
    split at h
    · exact absurd rfl h
    · rename_i hbody
      rw [if_neg hbody, List.flatMap_cons]
      generalize hafter : (s.dropWhile isBlank).dropWhile (fun c => !isBlank c) = after
      have hs : s.takeWhile isBlank ++ (s.dropWhile isBlank).takeWhile (fun c => !isBlank c) ++
          after = s := by
        rw [← hafter, List.append_assoc, List.takeWhile_append_dropWhile,
          List.takeWhile_append_dropWhile]
      have hshorter : (after.dropWhile isBlank).length ≤ fuel := by
        have hpos := List.length_pos_iff.2 (fun hnil => hbody (List.isEmpty_iff.2 hnil))
        have hlength := congrArg List.length hs
        have hle := (List.dropWhile_suffix isBlank (l := after)).length_le
        simp only [List.length_append] at hlength
        omega
      have hrest : (wordsFrom fuel (after.dropWhile isBlank)).flatMap Word.text =
          after.dropWhile isBlank := by
        by_cases hnil : wordsFrom fuel (after.dropWhile isBlank) = []
        · have := dropWhile_of_wordsFrom_eq_nil hshorter hnil
          rw [hnil, ← List.dropWhile_idempotent isBlank after, this]
          rfl
        · exact ih hshorter hnil
      rw [hrest, Word.text, List.append_assoc, List.takeWhile_append_dropWhile]
      exact hs

theorem flatMap_text_wordsOfLine (h : wordsOfLine s ≠ []) :
    (wordsOfLine s).flatMap Word.text = s :=
  flatMap_text_wordsFrom (Nat.le_refl _) h

/-! ## Words on lines -/

@[simp] theorem flatten_consFirst (c : Char) (pieces : List (List Char)) :
    (consFirst c pieces).flatten = c :: pieces.flatten := by
  cases pieces <;> rfl

theorem flatten_chop (width used : Nat) (s : List Char) : (chop width used s).flatten = s := by
  fun_induction chop width used s with
  | case1 => rfl
  | case2 used c s hc ih => simp [ih]
  | case3 used c s hc ih => simp [ih]

/-- A text that fits on the line is not cut. -/
theorem chop_of_fits (h : used + cells s ≤ width) : chop width used s = [s] := by
  induction s generalizing used with
  | nil => rfl
  | cons c s ih =>
    rw [cells_cons] at h
    rw [chop, if_neg (by omega), ih (by omega)]
    rfl

theorem layWords_ne_nil (width : Nat) (line : List Char) (used : Nat) (ws : List Word) :
    layWords width line used ws ≠ [] := by
  fun_induction layWords width line used ws with
  | case1 => simp
  | case2 line used w ws hw ih => exact ih
  | case3 line used w ws hw hwide pieces last full hline ih => simp [ih]
  | case4 => simp
  | case5 => simp

/-- The pieces but the last, and then the last, are the whole. -/
theorem flatten_dropLast_append_getLast? (pieces : List (List Char)) :
    pieces.dropLast.flatten ++ pieces.getLast?.getD [] = pieces.flatten := by
  cases h : pieces.getLast? with
  | none => simp [List.getLast?_eq_none_iff.1 h]
  | some last =>
    rw [← List.dropLast_append_getLast? last h]
    simp

/-- Laying words on lines loses nothing. -/
theorem flatten_layWords (width : Nat) (line : List Char) (used : Nat) (ws : List Word) :
    (layWords width line used ws).flatten = line ++ ws.flatMap Word.text := by
  fun_induction layWords width line used ws with
  | case1 => simp
  | case2 line used w ws hw ih =>
    rw [ih, List.flatMap_cons, List.append_assoc]
  | case3 line used w ws hw hwide pieces last full hline ih =>
    have hpieces : full.flatten ++ last = w.text :=
      (flatten_dropLast_append_getLast? pieces).trans (flatten_chop width 0 w.text)
    rw [List.flatten_append, ih, ← List.append_assoc, hpieces, List.isEmpty_iff.1 hline]
    rfl
  | case4 line used w ws hw hwide pieces last full hline ih =>
    have hpieces : full.flatten ++ last = w.text :=
      (flatten_dropLast_append_getLast? pieces).trans (flatten_chop width 0 w.text)
    rw [List.cons_append, List.flatten_cons, List.flatten_append, ih, ← List.append_assoc _ last,
      hpieces, List.flatMap_cons]
  | case5 line used w ws hw hwide ih =>
    rw [List.flatten_cons, ih, List.flatMap_cons]

/-- Behind a text, words stay on the line exactly if each of them ends within the width. -/
theorem layWords_eq_singleton_iff {ws : List Word} (hline : line ≠ []) :
    (∃ l, layWords width line used ws = [l]) ↔
      ∀ before w after, ws = before ++ w :: after →
        used + (before.map Word.fullWidth).sum + w.width ≤ width := by
  induction ws generalizing line used with
  | nil => exact iff_of_true ⟨line, rfl⟩ fun before w after h => by simp at h
  | cons w ws ih =>
    by_cases hw : w.width + used ≤ width
    · rw [layWords, if_pos hw, ih fun h => hline (List.append_eq_nil_iff.1 h).1]
      constructor
      · intro h before v after hws
        cases before with
        | nil =>
          cases hws
          simpa [Nat.add_comm] using hw
        | cons _ before =>
          cases hws
          simpa [Nat.add_assoc] using h before v after rfl
      · intro h before v after hws
        simpa [Nat.add_assoc, hws] using h (w :: before) v after
    · -- the line is full, and the word begins or continues another one
      refine iff_of_false ?_ fun h => hw ?_
      · have hfull : line.isEmpty = false := by simpa using hline
        rw [layWords, if_neg hw]
        split
        · simp [hfull, layWords_ne_nil]
        · simp [layWords_ne_nil]
      · simpa [Nat.add_comm] using h [] w ws rfl

/-! ## Lines that fit -/

/-- The line fits on a width: it has no more columns, it has no more characters if it ends with a
blank, and every word but the first one ends within the width, where words take the columns that
they have on their own. -/
structure FitsOn (width : Nat) (line : List Char) : Prop where
  columns : cells line ≤ width
  blanks : ∀ c ∈ line.getLast?, isBlank c = true → line.length ≤ width
  words : ∀ before w after, wordsOfLine line = before ++ w :: after → before ≠ [] →
    (before.map Word.fullWidth).sum + w.width ≤ width

/-- No word is without characters. -/
theorem text_ne_nil_of_mem {fuel : Nat} {w : Word} (h : w ∈ wordsFrom fuel s) : w.text ≠ [] := by
  induction fuel generalizing s with
  | zero => cases h
  | succ fuel ih =>
    simp only [wordsFrom] at h
    split at h
    · cases h
    · rename_i hbody
      rcases List.mem_cons.1 h with rfl | h
      · exact fun hnil => hbody (List.isEmpty_iff.2
          (List.append_eq_nil_iff.1 (List.append_eq_nil_iff.1 hnil).1).2)
      · exact ih h

/-- On a line of its own, the first word is not cut if the line has no more columns than the
width. -/
theorem layWords_nil_cons {w : Word} {ws : List Word} (hw : cells w.text ≤ width) :
    layWords width [] 0 (w :: ws) = layWords width w.text w.fullWidth ws := by
  rw [layWords]
  split
  · simp
  · rename_i hwide
    rw [if_pos (by omega), chop_of_fits (by omega)]
    rfl

/-- **A width leaves a line alone exactly if the line fits.** -/
theorem wrapLine_eq_self_iff : wrapLine width line = [line] ↔ FitsOn width line := by
  cases hws : wordsOfLine line with
  | nil =>
    simp only [wrapLine, hws, List.map_cons, List.map_nil, List.cons.injEq, and_true,
      crop_eq_self_iff, cropBlanks_eq_self_iff]
    exact ⟨fun ⟨hblanks, hcells⟩ => ⟨hcells, hblanks, fun before w after h => by simp [hws] at h⟩,
      fun h => ⟨h.blanks, h.columns⟩⟩
  | cons w ws =>
    have hjoin : w.text ++ ws.flatMap Word.text = line := by
      rw [← List.flatMap_cons, ← hws]
      exact flatMap_text_wordsOfLine (by simp [hws])
    have hfirst : cells w.text ≤ cells line := by
      rw [← hjoin, cells_append]
      omega
    have hne : w.text ≠ [] := text_ne_nil_of_mem (hws ▸ List.mem_cons_self)
    -- the condition on the words behind the first one, as the layout of these words has it
    have hwords : (∀ before v after, wordsOfLine line = before ++ v :: after → before ≠ [] →
        (before.map Word.fullWidth).sum + v.width ≤ width) ↔
        ∃ l, layWords width w.text w.fullWidth ws = [l] := by
      rw [layWords_eq_singleton_iff hne]
      constructor
      · intro h before v after hsplit
        simpa using h (w :: before) v after (by rw [hws, hsplit, List.cons_append]) (by simp)
      · intro h before v after hsplit hbefore
        obtain ⟨_, before, rfl⟩ := List.exists_cons_of_ne_nil hbefore
        rw [hws] at hsplit
        cases hsplit
        simpa using h before v after rfl
    have hall : ∀ l, layWords width [] 0 (w :: ws) = [l] → l = line := fun l hl => by
      have hflat := flatten_layWords width [] 0 (w :: ws)
      rw [hl] at hflat
      simpa [hjoin] using hflat
    simp only [wrapLine, hws]
    constructor
    · intro h
      obtain ⟨l, hl, hcrop⟩ := List.map_eq_singleton_iff.1 h
      cases hall l hl
      obtain ⟨hblanks, hcells⟩ := crop_eq_self_iff.1 hcrop
      rw [layWords_nil_cons (hfirst.trans hcells)] at hl
      exact ⟨hcells, cropBlanks_eq_self_iff.1 hblanks, hwords.2 ⟨line, hl⟩⟩
    · intro h
      obtain ⟨l, hl⟩ := hwords.1 h.words
      rw [← layWords_nil_cons (hfirst.trans h.columns)] at hl
      cases hall l hl
      rw [hl, List.map_singleton,
        crop_eq_self_iff.2 ⟨cropBlanks_eq_self_iff.2 h.blanks, h.columns⟩]

/-- The second word ends with the width, so the third one begins a line. -/
example : wrapLine 5 "ab cd ef".toList = ["ab cd".toList, "ef".toList] := by decide +kernel

/-! ## Plain characters -/

theorem columnsFrom_of_plain (h : ∀ c ∈ s, columnsOf c = 1) (last : Option Char) :
    columnsFrom last s = s.length := by
  fun_induction columnsFrom last s with
  | case1 => rfl
  | case2 last => exact absurd (h joiner List.mem_cons_self) (by decide)
  | case3 last _ s ih => exact absurd (h joiner List.mem_cons_self) (by decide)
  | case4 last s _ ih => exact absurd (h pictureSelector List.mem_cons_self) (by decide)
  | case5 last c s _ _ ih =>
    obtain ⟨hc, hs⟩ := List.forall_mem_cons.1 h
    rw [ih hs, hc, List.length_cons, Nat.add_comm]

theorem cells_of_plain (h : ∀ c ∈ s, columnsOf c = 1) : cells s = s.length := by
  rw [cells, List.map_congr_left h, List.map_const', List.sum_replicate_nat, Nat.mul_one]

/-- **A line of characters that take one column each fits exactly if it is not longer than the
width.** -/
theorem fitsOn_iff_length_le (h : ∀ c ∈ line, columnsOf c = 1) :
    FitsOn width line ↔ line.length ≤ width := by
  refine ⟨fun hfits => cells_of_plain h ▸ hfits.columns, fun hlength =>
    ⟨cells_of_plain h ▸ hlength, fun _ _ _ => hlength, fun before w after hws _ => ?_⟩⟩
  have hjoin : (before.flatMap Word.text) ++ (w.text ++ after.flatMap Word.text) = line := by
    rw [← List.flatMap_cons, ← List.flatMap_append, ← hws]
    exact flatMap_text_wordsOfLine (by simp [hws])
  have hbefore : ∀ v ∈ before, v.fullWidth = v.text.length := fun v hv =>
    columnsFrom_of_plain (fun c hc => h c
      (hjoin ▸ List.mem_append_left _ (List.mem_flatMap.2 ⟨v, hv, hc⟩))) none
  have hw : w.width = (w.leading ++ w.body).length :=
    columnsFrom_of_plain (fun c hc => h c
      (hjoin ▸ List.mem_append_right _ (List.mem_append_left _ (List.mem_append_left _ hc)))) none
  have hcount : (before.map Word.fullWidth).sum = (before.flatMap Word.text).length := by
    rw [List.map_congr_left hbefore, List.length_flatMap]
  rw [← hjoin] at hlength
  simp only [List.length_append, Word.text] at hlength hw
  rw [hcount, hw]
  omega

/-! ## Printing with and without a width -/

/-- A line is cut into lines, and then each of these is cropped. -/
theorem exists_wrapLine_eq (width : Nat) (line : List Char) :
    ∃ lines, lines ≠ [] ∧ lines.flatten = line ∧
      wrapLine width line = lines.map fun l => cropColumns width (cropBlanks width l) := by
  cases hws : wordsOfLine line with
  | nil => exact ⟨[line], by simp, by simp, by simp [wrapLine, hws]⟩
  | cons w ws =>
    refine ⟨layWords width [] 0 (w :: ws), layWords_ne_nil _ _ _ _, ?_, by simp [wrapLine, hws]⟩
    rw [flatten_layWords, ← hws]
    exact flatMap_text_wordsOfLine (by simp [hws])

theorem wrapLine_ne_nil (width : Nat) (line : List Char) : wrapLine width line ≠ [] := by
  obtain ⟨lines, hne, -, hlines⟩ := exists_wrapLine_eq width line
  simpa [hlines] using hne

theorem mem_of_mem_wrapLine {l : List Char} {c : Char} (hl : l ∈ wrapLine width line) (hc : c ∈ l) :
    c = ' ' ∨ c ∈ line := by
  obtain ⟨lines, -, hflat, hlines⟩ := exists_wrapLine_eq width line
  rw [hlines] at hl
  obtain ⟨uncropped, huncropped, rfl⟩ := List.mem_map.1 hl
  refine (mem_cropColumns hc).imp_right fun hc => ?_
  exact hflat ▸ List.mem_flatten.2 ⟨uncropped, huncropped, List.mem_of_mem_take hc⟩

/-- No line on the screen holds a line end. -/
theorem not_mem_of_mem_screenLines (hline : line ∈ screenLines none s) : '\n' ∉ line := by
  obtain ⟨row, hrow, hline⟩ := List.mem_flatMap.1 hline
  rw [List.mem_singleton.1 hline]
  intro hmem
  rcases mem_joinAtStops hmem with hblank | ⟨piece, hpiece, hmem⟩
  · exact absurd hblank (by decide)
  · exact not_mem_of_mem_splitOn hrow (mem_of_mem_splitOn hpiece hmem)

/-- With a width, the lines that are printed without one are broken. -/
theorem screenLines_some (width : Nat) (s : List Char) :
    screenLines (some width) s = (screenLines none s).flatMap (wrapLine width) := by
  simp [screenLines, List.flatMap_assoc]

/-- If at least one line stands for each of some lines and they are the same altogether, they are
the same one by one. -/
theorem eq_singleton_of_flatMap_eq_self {α : Type} {f : α → List α} (hf : ∀ a, f a ≠ [])
    {l : List α} (h : l.flatMap f = l) : ∀ a ∈ l, f a = [a] := by
  have hle : ∀ l : List α, l.length ≤ (l.flatMap f).length := fun l => by
    induction l with
    | nil => exact Nat.le_refl _
    | cons a l ih =>
      have hpos := List.length_pos_iff.2 (hf a)
      rw [List.flatMap_cons, List.length_append, List.length_cons]
      omega
  induction l with
  | nil => simp
  | cons a l ih =>
    obtain ⟨b, rest, hfa⟩ := List.exists_cons_of_ne_nil (hf a)
    have hrest := hle l
    have hlength := congrArg List.length h
    rw [List.flatMap_cons, hfa] at h hlength
    simp only [List.length_append, List.length_cons] at hlength
    have hnil : rest = [] := List.eq_nil_of_length_eq_zero (by omega)
    subst hnil
    obtain ⟨rfl, hl⟩ := List.cons.inj h
    exact List.forall_mem_cons.2 ⟨hfa, ih hl⟩

theorem printed_eq_flatMap (width : Option Nat) (texts : List (List Char)) :
    texts.flatMap (printed width) = (texts.flatMap (screenLines width)).flatMap (· ++ ['\n']) := by
  rw [List.flatMap_assoc]
  rfl

/-- The lines that are written are the lines on the screen, and an empty one behind the last line
end. -/
theorem splitOn_printed (texts : List (List Char)) :
    splitOn '\n' (texts.flatMap (printed none)) = texts.flatMap (screenLines none) ++ [[]] := by
  rw [printed_eq_flatMap]
  refine splitOn_flatMap fun line hline => ?_
  obtain ⟨s, -, hline⟩ := List.mem_flatMap.1 hline
  exact not_mem_of_mem_screenLines hline

/-- A visible text without line ends is one line. -/
theorem screenLines_of_visible (hvisible : Visible s) (hend : '\n' ∉ s) :
    screenLines none s = [s] := by
  have hlines := splitOn_printed [s]
  rw [List.flatMap_singleton, List.flatMap_singleton, printed_of_visible hvisible, splitOn_eq,
    List.splitOn_append_cons_self_of_not_mem hend, ← splitOn_eq] at hlines
  exact (List.append_cancel_right hlines).symm

/-- **Texts are printed the same with and without a width exactly if every line of what is printed
fits.** -/
theorem printed_eq_iff_fitsOn (texts : List (List Char)) :
    texts.flatMap (printed (some width)) = texts.flatMap (printed none) ↔
      ∀ line ∈ splitOn '\n' (texts.flatMap (printed none)), FitsOn width line := by
  have hbroken : texts.flatMap (screenLines (some width)) =
      (texts.flatMap (screenLines none)).flatMap (wrapLine width) := by
    rw [List.flatMap_assoc]
    exact congrArg (texts.flatMap ·) (funext (screenLines_some width))
  have hlines := splitOn_printed texts
  have hfree : ∀ line ∈ texts.flatMap (screenLines none), '\n' ∉ line := fun line hline =>
    not_mem_of_mem_splitOn (hlines ▸ List.mem_append_left _ hline)
  rw [hlines, printed_eq_flatMap, hbroken, printed_eq_flatMap] at *
  generalize texts.flatMap (screenLines none) = lines at hfree ⊢
  have hempty : FitsOn width [] := (fitsOn_iff_length_le (by simp)).2 (Nat.zero_le width)
  rw [List.forall_mem_append, List.forall_mem_singleton, and_iff_left hempty]
  constructor
  · intro h line hline
    have hwrapped : ∀ l ∈ lines.flatMap (wrapLine width), '\n' ∉ l := fun l hl hmem => by
      obtain ⟨line, hline, hl⟩ := List.mem_flatMap.1 hl
      exact (mem_of_mem_wrapLine hl hmem).elim (by decide) (hfree line hline)
    have hsame := congrArg (splitOn '\n') h
    rw [splitOn_flatMap hwrapped, splitOn_flatMap hfree] at hsame
    exact wrapLine_eq_self_iff.1
      (eq_singleton_of_flatMap_eq_self (wrapLine_ne_nil width) (List.append_cancel_right hsame)
        line hline)
  · intro h
    have hsame : lines.flatMap (wrapLine width) = lines.flatMap fun line => [line] := by
      rw [List.flatMap_def, List.flatMap_def,
        List.map_congr_left fun line hline => wrapLine_eq_self_iff.2 (h line hline)]
    rw [hsame, List.flatMap_singleton']

end Console
end ComponentCensus
