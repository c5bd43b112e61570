import Mathlib.Algebra.GroupWithZero.Nat
import ComponentCensus.Proofs.Console.Markup
import ComponentCensus.Proofs.Text.Splitting

/-!
# Markup that is printed as it is

Rendering and printing can only take opening brackets, backslashes and colons away from a text, and
add emoji, blanks and line ends to it.  So a text is printed as it is exactly if nothing in it is
taken for a tag, shown as an emoji or dropped.

* `marks` — how many opening brackets, backslashes and colons a text has; `marks_shownBy_le` and
  `eq_of_marks_shownBy` say what the pieces of a text keep of them, `marks_replace_le` and
  `replace_eq_of_marks` what emoji do.
* `printed_of_visible`, `visible_of_mem_printed`, `marks_printed` — what printing keeps.
* `PrintsAsIs`, `printedMarkup_styled_iff` — when a text behind a title in a style is printed as it
  is.
-/

set_option autoImplicit false

namespace ComponentCensus
namespace Console

open Text

/-! ## Brackets, backslashes and colons -/

/-- A character that markup and emoji can take away. -/
def isMark (c : Char) : Bool := c = '[' || c = '\\' || c = ':'

/-- The number of opening brackets, backslashes and colons. -/
def marks (s : List Char) : Nat := s.countP isMark

@[simp] theorem marks_nil : marks [] = 0 := rfl

theorem marks_append (s₁ s₂ : List Char) : marks (s₁ ++ s₂) = marks s₁ + marks s₂ :=
  List.countP_append

theorem marks_cons (c : Char) (s : List Char) :
    marks (c :: s) = marks s + if isMark c then 1 else 0 := List.countP_cons

theorem marks_replicate_backslash (n : Nat) : marks (List.replicate n '\\') = n := by
  rw [marks, List.countP_replicate, if_pos (by decide)]

theorem marks_plainText_le (s : List Char) : marks (plainText s) ≤ marks s := by
  fun_induction plainText s with
  | case1 s ih =>
    simp only [marks_cons]
    omega
  | case2 c s _ ih =>
    simp only [marks_cons]
    omega
  | case3 => exact Nat.le_refl _

/-- Between tags, only a backslash in front of a bracket is taken away. -/
theorem plainText_of_unescaped {s : List Char} (h : ¬['\\', '['] <:+: s) : plainText s = s := by
  fun_induction plainText s with
  | case1 s => exact absurd ⟨[], s, rfl⟩ h
  | case2 c s _ ih => rw [ih fun hinside => h (List.infix_cons hinside)]
  | case3 => rfl

theorem unescaped_of_marks_plainText {s : List Char} (h : marks (plainText s) = marks s) :
    ¬['\\', '['] <:+: s := by
  fun_induction plainText s with
  | case1 s ih =>
    have hle := marks_plainText_le s
    have hbracket : isMark '[' = true := by decide
    have hbackslash : isMark '\\' = true := by decide
    simp only [marks_cons, hbracket, hbackslash, if_true] at h
    omega
  | case2 c s hc ih =>
    simp only [marks_cons] at h
    have hfree := ih (by omega)
    intro hinside
    rcases List.infix_cons_iff.1 hinside with hfront | hinside
    · obtain ⟨rest, hrest⟩ := hfront
      cases hrest
      exact hc _ rfl rfl
    · exact hfree hinside
  | case3 => simp

/-! ## What pieces keep -/

theorem marks_pieces_lt {s : List Char} {t : TagText} (h : tagAt? s = some t) (position : Nat) :
    marks (shownBy (t.pieces position)) + marks (s.drop t.length) < marks s := by
  obtain ⟨-, hs⟩ := tagAt?_eq_some h
  generalize s.drop t.length = rest at hs
  have hbracketed : 0 < marks t.bracketed := by
    have hbracket : isMark '[' = true := by decide
    simp only [TagText.bracketed, List.cons_append, marks_cons, hbracket, if_true]
    omega
  rw [hs, marks_append, marks_append, marks_replicate_backslash, TagText.pieces]
  split
  · -- an odd number of backslashes, at least one of which is taken away
    simp only [shownBy_plain, shownBy_nil, List.append_nil, marks_append,
      marks_replicate_backslash]
    omega
  · simp only [shownBy_plain, shownBy_tag, shownBy_nil, List.append_nil,
      marks_replicate_backslash]
    omega

theorem shownBy_append (pieces₁ pieces₂ : List MarkupPiece) :
    shownBy (pieces₁ ++ pieces₂) = shownBy pieces₁ ++ shownBy pieces₂ := List.flatMap_append

/-- The pieces of a text show no more marks than the text has. -/
theorem marks_shownBy_le (s : List Char) : ∀ position held,
    marks (shownBy (piecesFrom position 0 held s)) ≤ marks (held.reverse ++ s) := by
  induction s using induction_on_tags with
  | nil =>
    intro position held
    simpa [piecesFrom] using marks_plainText_le held.reverse
  | char c s h ih =>
    intro position held
    have hle := ih (position + 1) (c :: held)
    rw [List.reverse_cons, List.append_assoc] at hle
    rw [piecesFrom_of_none position h]
    exact hle
  | tag s t h ih =>
    intro position held
    have hle := ih (position + t.length) []
    have hlt := marks_pieces_lt h position
    have hheld := marks_plainText_le held.reverse
    rw [piecesFrom_of_some position h, shownBy_plain, shownBy_append, marks_append, marks_append,
      marks_append]
    rw [List.reverse_nil, List.nil_append] at hle
    omega

/-- If they show as many, there is no tag in the text, and no backslash in front of a bracket. -/
theorem eq_of_marks_shownBy (s : List Char) : ∀ position held,
    marks (shownBy (piecesFrom position 0 held s)) = marks (held.reverse ++ s) →
      Tagless s ∧ ¬['\\', '['] <:+: held.reverse ++ s := by
  induction s using induction_on_tags with
  | nil =>
    intro position held h
    rw [List.append_nil] at h ⊢
    refine ⟨tagless_of_not_mem List.not_mem_nil, unescaped_of_marks_plainText ?_⟩
    simpa [piecesFrom] using h
  | char c s hnone ih =>
    intro position held h
    rw [piecesFrom_of_none position hnone] at h
    have hsplit : held.reverse ++ c :: s = (c :: held).reverse ++ s := by simp
    rw [hsplit] at h ⊢
    obtain ⟨htagless, hfree⟩ := ih _ _ h
    exact ⟨tagless_cons.2 ⟨hnone, htagless⟩, hfree⟩
  | tag s t hsome ih =>
    -- a tag takes something away, which nothing else makes up for
    intro position held h
    have hle := marks_shownBy_le (s.drop t.length) (position + t.length) []
    have hlt := marks_pieces_lt hsome position
    have hheld := marks_plainText_le held.reverse
    rw [piecesFrom_of_some position hsome, shownBy_plain, shownBy_append, marks_append,
      marks_append, marks_append] at h
    rw [List.reverse_nil, List.nil_append] at hle
    omega

/-! ## What emoji keep -/

section
variable {emoji : EmojiTable}

theorem marks_of_ofWord? {word shown : List Char} (h : emoji.ofWord? word = some shown) :
    marks shown = 0 := by
  refine List.countP_eq_zero.2 fun c hc => ?_
  simpa [isMark, and_comm, and_left_comm] using EmojiTable.plain_of_ofWord? h c hc

/-- An emoji takes the colons of its code away. -/
theorem marks_shown_lt {word shown : List Char} (h : emoji.ofWord? word = some shown) :
    marks (emoji.shown word) < marks (codeText word) := by
  have hcolon : isMark ':' = true := by decide
  rw [EmojiTable.shown, h, Option.getD_some, marks_of_ofWord? h, codeText, List.cons_append,
    marks_cons, hcolon, if_pos rfl]
  omega

variable (emoji)

theorem marks_shown_le (word : List Char) : marks (emoji.shown word) ≤ marks (codeText word) := by
  cases h : emoji.ofWord? word with
  | some shown => exact (marks_shown_lt h).le
  | none => rw [EmojiTable.shown, h, Option.getD_none]

theorem marks_replace_le (s : List Char) : marks (emoji.replace s) ≤ marks s := by
  induction s using induction_on_codes with
  | nil => exact Nat.le_refl _
  | char c s h ih =>
    rw [EmojiTable.replace_cons_of_none emoji h, marks_cons, marks_cons]
    omega
  | code word s h ih =>
    have hle := marks_shown_le emoji word
    rw [EmojiTable.replace_of_some emoji h, marks_append, marks_append]
    omega

theorem marks_withEmoji_le (pieces : List MarkupPiece) :
    marks (shownBy (pieces.map (·.withEmoji emoji))) ≤ marks (shownBy pieces) := by
  induction pieces with
  | nil => exact Nat.le_refl _
  | cons p pieces ih =>
    cases p with
    | tag position inner => simpa using ih
    | plain text =>
      have hle := marks_replace_le emoji text
      simp only [List.map_cons, MarkupPiece.withEmoji_plain, shownBy_plain, marks_append]
      omega

variable {emoji}

/-- A text that keeps its marks has no code that stands for an emoji. -/
theorem replace_eq_of_marks {s : List Char} (h : marks (emoji.replace s) = marks s) :
    emoji.replace s = s := by
  induction s using induction_on_codes with
  | nil => rfl
  | char c s hnone ih =>
    rw [EmojiTable.replace_cons_of_none emoji hnone, marks_cons, marks_cons] at h
    rw [EmojiTable.replace_cons_of_none emoji hnone, ih (by omega)]
  | code word s hsome ih =>
    have hle := marks_replace_le emoji s
    have hshown := marks_shown_le emoji word
    rw [EmojiTable.replace_of_some emoji hsome, marks_append, marks_append] at h
    rw [EmojiTable.replace_of_some emoji hsome, ih (by omega)]
    cases hword : emoji.ofWord? word with
    | none => rw [EmojiTable.shown, hword, Option.getD_none]
    | some shown =>
      have hlt := marks_shown_lt hword
      omega

end

/-! ## What rendering keeps -/

theorem renderPieces_text {opened : List OpenTag} {start : Nat} {pieces : List MarkupPiece}
    {r : Rendered} (h : renderPieces opened start pieces = .ok r) : r.text = shownBy pieces := by
  induction pieces generalizing opened start r with
  | nil =>
    cases h
    rfl
  | cons p pieces ih =>
    cases p with
    | plain text =>
      rw [renderPieces] at h
      cases hrest : renderPieces opened (start + text.length) pieces with
      | error fault =>
        rw [hrest] at h
        cases h
      | ok rest =>
        rw [hrest] at h
        cases h
        rw [shownBy_plain, ← ih hrest]
    | tag position inner =>
      rw [renderPieces] at h
      split at h
      · cases h
      · rename_i opened' closed hafter
        cases hrest : renderPieces opened' start pieces with
        | error fault =>
          rw [hrest] at h
          cases h
        | ok rest =>
          rw [hrest] at h
          cases h
          rw [shownBy_tag, ← ih hrest]

/-- What is rendered is what the pieces show. -/
theorem eq_shownBy_of_render {emoji : EmojiTable} {markup shown : List Char}
    (h : render emoji markup = .ok shown) :
    shown = shownBy ((piecesFrom 0 0 [] markup).map (·.withEmoji emoji)) := by
  rw [render] at h
  split at h
  · split at h
    · cases h
    · rename_i r hpieces
      split at h
      · cases h
      · cases h
        exact renderPieces_text hpieces
  · rename_i hbracket
    have hmem : '[' ∉ markup := fun hmem => hbracket (List.contains_iff_mem.2 hmem)
    cases h
    rw [piecesFrom_tagless 0 [] (tagless_of_not_mem hmem), List.map_cons, List.map_nil,
      MarkupPiece.withEmoji_plain, shownBy_plain, shownBy_nil, List.append_nil, List.reverse_nil,
      List.nil_append, plainText_of_not_mem hmem]

/-! ## What printing keeps -/

/-- Separators have no mark, so the pieces between them have all marks. -/
theorem marks_splitOn {sep : Char} (hsep : isMark sep = false) (s : List Char) :
    ((splitOn sep s).map marks).sum = marks s := by
  induction s with
  | nil => rfl
  | cons c s ih =>
    by_cases hc : c = sep
    · have hnone : marks (c :: s) = marks s := by
        rw [marks_cons, hc, hsep]
        rfl
      rw [hnone, hc, splitOn_cons_sep, List.map_cons, List.sum_cons, ih, marks_nil, Nat.zero_add]
    · obtain ⟨first, pieces, hs, hcs⟩ := splitOn_cons_of_ne hc s
      rw [hs, List.map_cons, List.sum_cons] at ih
      rw [hcs, List.map_cons, List.sum_cons, marks_cons, marks_cons, ← ih]
      omega

theorem marks_joinAtStops (column : Nat) (pieces : List (List Char)) :
    marks (joinAtStops column pieces) = (pieces.map marks).sum := by
  have hblank : isMark ' ' = false := by decide
  have hblanks : ∀ n, marks (List.replicate n ' ') = 0 := fun n => by
    rw [marks, List.countP_replicate, if_neg (by decide)]
  fun_induction joinAtStops column pieces with
  | case1 => rfl
  | case2 column piece => simp
  | case3 column piece pieces hpieces reached blanks ih =>
    simp only [marks_append, marks_cons, hblank, hblanks, ih, List.map_cons, List.sum_cons]
    simp

theorem marks_expandTabs (line : List Char) : marks (expandTabs line) = marks line := by
  rw [expandTabs, marks_joinAtStops, marks_splitOn (by decide)]

theorem marks_withoutControls (s : List Char) : marks (withoutControls s) = marks s := by
  rw [marks, withoutControls, List.countP_filter]
  refine List.countP_congr fun c _ => ?_
  have hmark : isMark c = true → isDropped c = false := by
    intro hc
    simp only [isMark, Bool.or_eq_true, decide_eq_true_eq] at hc
    rcases hc with (rfl | rfl) | rfl <;> decide
  simpa using hmark

theorem marks_flatMap (f : List Char → List Char) (lines : List (List Char)) :
    marks (lines.flatMap f) = (lines.map fun line => marks (f line)).sum := by
  rw [marks, List.countP_flatMap]
  rfl

/-- Without a width, a text is printed line by line. -/
theorem printed_none (s : List Char) :
    printed none s =
      (splitOn '\n' (withoutControls s)).flatMap fun line => expandTabs line ++ ['\n'] := by
  simp [printed, screenLines, List.flatMap_assoc]

/-- Printing keeps all marks. -/
theorem marks_printed (s : List Char) : marks (printed none s) = marks s := by
  have hend : marks ['\n'] = 0 := by decide
  rw [printed_none, marks_flatMap]
  simp only [marks_append, marks_expandTabs, hend, Nat.add_zero]
  rw [marks_splitOn (by decide), marks_withoutControls]

/-- A character that is printed as it is. -/
def IsVisible (c : Char) : Prop := isDropped c = false ∧ c ≠ '\t'

instance (c : Char) : Decidable (IsVisible c) :=
  inferInstanceAs (Decidable (isDropped c = false ∧ c ≠ '\t'))

/-- All characters of the text are printed as they are. -/
def Visible (s : List Char) : Prop := ∀ c ∈ s, IsVisible c

instance (s : List Char) : Decidable (Visible s) := List.decidableBAll IsVisible s

theorem mem_joinAtStops {column : Nat} {pieces : List (List Char)} {c : Char}
    (h : c ∈ joinAtStops column pieces) : c = ' ' ∨ ∃ piece ∈ pieces, c ∈ piece := by
  fun_induction joinAtStops column pieces with
  | case1 => cases h
  | case2 column piece => exact .inr ⟨piece, List.mem_cons_self, h⟩
  | case3 column piece pieces hpieces reached blanks ih =>
    simp only [List.mem_append, List.mem_cons, List.mem_replicate] at h
    rcases h with (h | h | ⟨-, h⟩) | h
    · exact .inr ⟨piece, List.mem_cons_self, h⟩
    · exact .inl h
    · exact .inl h
    · rcases ih h with h | ⟨piece', hpiece', h⟩
      · exact .inl h
      · exact .inr ⟨piece', List.mem_cons_of_mem piece hpiece', h⟩

/-- What is printed is visible. -/
theorem visible_of_mem_printed {s : List Char} {c : Char} (h : c ∈ printed none s) :
    IsVisible c := by
  rw [printed_none] at h
  obtain ⟨line, hline, hc⟩ := List.mem_flatMap.1 h
  rcases List.mem_append.1 hc with hc | hc
  · rcases mem_joinAtStops hc with rfl | ⟨piece, hpiece, hc⟩
    · exact ⟨by decide, by decide⟩
    · have hkept := mem_of_mem_splitOn hline (mem_of_mem_splitOn hpiece hc)
      refine ⟨?_, ?_⟩
      · simpa using (List.mem_filter.1 hkept).2
      · rintro rfl
        exact not_mem_of_mem_splitOn hpiece hc
  · rw [List.mem_singleton.1 hc]
    exact ⟨by decide, by decide⟩

/-- A visible text is printed as it is. -/
theorem printed_of_visible {s : List Char} (h : Visible s) :
    printed none s = s ++ ['\n'] := by
  have hkept : withoutControls s = s :=
    List.filter_eq_self.2 fun c hc => by rw [(h c hc).1]; rfl
  have hlines : ∀ line ∈ splitOn '\n' s, expandTabs line ++ ['\n'] = line ++ ['\n'] := by
    intro line hline
    have htab : '\t' ∉ line := fun hmem => (h _ (mem_of_mem_splitOn hline hmem)).2 rfl
    rw [expandTabs, splitOn_of_not_mem htab]
    rfl
  rw [printed_none, hkept, List.flatMap_def, List.map_congr_left hlines, ← List.flatMap_def,
    flatMap_eq_intercalate (splitOn_ne_nil _ _), intercalate_splitOn]

/-! ## Texts behind a title -/

section
variable {emoji : EmojiTable}

/-- The text is printed as it is: nothing in it is taken for a tag, no bracket has a backslash in
front of it, no code in it is shown as an emoji, and there are no tabs and no control characters
that are dropped. -/
structure PrintsAsIs (emoji : EmojiTable) (s : List Char) : Prop where
  tagless : Tagless s
  unescaped : ¬['\\', '['] <:+: s
  uncoded : emoji.replace s = s
  visible : Visible s

theorem printsAsIs_of_not_mem {s : List Char} (h : '[' ∉ s) (hcode : emoji.Lacks s)
    (hvisible : Visible s) : PrintsAsIs emoji s :=
  ⟨tagless_of_not_mem h, fun hinside => h (hinside.subset (by simp)),
    EmojiTable.replace_of_lacks hcode, hvisible⟩

/-- Behind a blank, nothing changes. -/
theorem printsAsIs_blank_cons {s : List Char} :
    PrintsAsIs emoji (' ' :: s) ↔ PrintsAsIs emoji s := by
  have hcode : emoji.replace (' ' :: s) = ' ' :: emoji.replace s :=
    EmojiTable.replace_cons_of_ne (by decide) s
  constructor
  · exact fun h => ⟨(tagless_cons.1 h.tagless).2,
      fun hinside => h.unescaped (List.infix_cons hinside),
      (List.cons.inj (hcode.symm.trans h.uncoded)).2,
      fun c hc => h.visible c (List.mem_cons_of_mem _ hc)⟩
  · refine fun h => ⟨tagless_cons.2 ⟨tagAt?_of_ne (by decide) (by decide) s, h.tagless⟩,
      fun hinside => ?_, by rw [hcode, h.uncoded],
      List.forall_mem_cons.2 ⟨⟨by decide, by decide⟩, h.visible⟩⟩
    rcases List.infix_cons_iff.1 hinside with ⟨rest, hrest⟩ | hinside
    · cases hrest
    · exact h.unescaped hinside

/-- **A text behind a title in a style is printed as it is exactly if nothing in it is taken for
markup, shown as an emoji or dropped.** -/
theorem printedMarkup_styled_iff {style title rest : List Char} (hstyle : TitleStyle style)
    (htitle : Bare title) (hcode : emoji.Lacks title) (hvisible : Visible title) :
    (render emoji (styled style title ++ rest)).map (printed none) =
        .ok (title ++ rest ++ ['\n']) ↔
      PrintsAsIs emoji rest := by
  constructor
  · intro h
    cases hrender : render emoji (styled style title ++ rest) with
    | error fault =>
      rw [hrender] at h
      cases h
    | ok shown =>
      rw [hrender] at h
      have hprinted : printed none shown = title ++ rest ++ ['\n'] := Except.ok.inj h
      obtain ⟨_, position, hpieces⟩ := piecesFrom_styled hstyle htitle rest
      generalize hrest : piecesFrom position 0 [] rest = pieces at hpieces
      have hshown : shown = title ++ shownBy (pieces.map (·.withEmoji emoji)) := by
        rw [eq_shownBy_of_render hrender, hpieces]
        simp [EmojiTable.replace_of_lacks hcode]
      have hmarks : marks (shownBy (pieces.map (·.withEmoji emoji))) = marks rest := by
        have hend : marks ['\n'] = 0 := by decide
        have hall := congrArg marks hprinted
        rw [marks_printed, hshown, marks_append, marks_append, marks_append, hend] at hall
        omega
      -- neither markup nor emoji have taken anything away
      have hmarkup := marks_shownBy_le rest position []
      have hemoji := marks_withEmoji_le emoji pieces
      rw [hrest, List.reverse_nil, List.nil_append] at hmarkup
      have hboth : marks (shownBy (piecesFrom position 0 [] rest)) = marks rest := by
        rw [hrest]
        omega
      obtain ⟨htagless, hunescaped⟩ := eq_of_marks_shownBy rest position [] hboth
      have hpiece : pieces = [.plain rest] := by
        rw [← hrest, piecesFrom_tagless position [] htagless]
        exact congrArg (fun s => [MarkupPiece.plain s]) (plainText_of_unescaped hunescaped)
      rw [hpiece] at hmarks
      refine ⟨htagless, hunescaped, replace_eq_of_marks (by simpa using hmarks), fun c hc => ?_⟩
      have hmem : c ∈ printed none shown := by simp [hprinted, hc]
      exact visible_of_mem_printed hmem
  · intro h
    rw [render_styled hstyle htitle hcode h.tagless, plainText_of_unescaped h.unescaped, h.uncoded]
    refine congrArg Except.ok (printed_of_visible fun c hc => ?_)
    exact (List.mem_append.1 hc).elim (hvisible c) (h.visible c)

end

end Console
end ComponentCensus
