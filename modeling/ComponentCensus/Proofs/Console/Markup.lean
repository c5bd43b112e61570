import Mathlib.Data.List.TakeWhile
import ComponentCensus.Console.Markup
import ComponentCensus.Proofs.Console.Emoji

/-!
# Escaped texts in markup

Escaping and rendering look for tags from the left, each in its own text.  They agree on where the
tags are: a tag of a text, once escaped, is the first tag of what is left, and where the text has no
tag the escaped text has none either.

* `tagAt?_eq_some`, `tagAt?_append` — what a tag is made of.
* `induction_on_tags` — the induction that goes from tag to tag.
* `Tagless` — a text in which no tag begins; it is rendered as one piece.
* `tagAt?_escapeTags` — no tag comes into being by escaping what follows.
* `Shows`, `pieces_escapeTags` — what is shown for an escaped text is the text, up to its
  backslashes.
* `withEmoji_of_lacks` — pieces that lack emoji are shown as they are.
* `render_embedded` — the same between two texts without brackets.
* `renderPieces_styled` — a title in a style in front of other text.
-/

set_option autoImplicit false

namespace ComponentCensus
namespace Console

/-! ## Tags -/

/-- What a tag can stand for: its brackets hold no brackets, and begin as tags begin. -/
def TagText.Proper (t : TagText) : Prop :=
  ∃ c inner, t.inner = c :: inner ∧ startsTag c = true ∧ ∀ x ∈ inner, x ≠ '[' ∧ x ≠ ']'

theorem innerOf?_append {inner : List Char} (h : ∀ x ∈ inner, x ≠ '[' ∧ x ≠ ']')
    (rest : List Char) : innerOf? (inner ++ ']' :: rest) = some inner := by
  induction inner with
  | nil => rfl
  | cons c inner ih =>
    obtain ⟨hc, hinner⟩ := List.forall_mem_cons.1 h
    rw [List.cons_append, innerOf?, if_neg hc.2, if_neg hc.1, ih hinner]
    rfl

theorem innerOf?_eq_some {s inner : List Char} (h : innerOf? s = some inner) :
    (∀ x ∈ inner, x ≠ '[' ∧ x ≠ ']') ∧ s = inner ++ ']' :: s.drop (inner.length + 1) := by
  induction s generalizing inner with
  | nil => cases h
  | cons c s ih =>
    rw [innerOf?] at h
    split at h
    · rename_i hc
      cases h
      exact ⟨by simp, by rw [hc]; rfl⟩
    · split at h
      · cases h
      · rename_i hclose hopen
        obtain ⟨inner, hinner, rfl⟩ := Option.map_eq_some_iff.1 h
        obtain ⟨hfree, hs⟩ := ih hinner
        exact ⟨List.forall_mem_cons.2 ⟨⟨hopen, hclose⟩, hfree⟩, congrArg (c :: ·) hs⟩

/-- A tag behind some backslashes is found with them. -/
theorem tagAt?_append {t : TagText} (ht : t.Proper) (n : Nat) (rest : List Char) :
    tagAt? (List.replicate n '\\' ++ (t.bracketed ++ rest)) = some { t with backslashes := n } := by
  obtain ⟨c, inner, hinner, hc, hfree⟩ := ht
  induction n with
  | zero =>
    have hbracketed : t.bracketed ++ rest = '[' :: c :: (inner ++ ']' :: rest) := by
      simp [TagText.bracketed, hinner]
    rw [List.replicate_zero, List.nil_append, hbracketed, tagAt?, if_pos hc,
      innerOf?_append hfree, hinner]
    rfl
  | succ n ih =>
    rw [List.replicate_succ, List.cons_append, tagAt?, ih]
    rfl

/-- The tag that is found stands at the front of the text. -/
theorem tagAt?_eq_some {s : List Char} {t : TagText} (h : tagAt? s = some t) :
    t.Proper ∧
      s = List.replicate t.backslashes '\\' ++ (t.bracketed ++ s.drop t.length) := by
  fun_induction tagAt? s generalizing t with
  | case1 s ih =>
    obtain ⟨t, ht, rfl⟩ := Option.map_eq_some_iff.1 h
    obtain ⟨hproper, hs⟩ := ih ht
    refine ⟨hproper, ?_⟩
    have hlength : TagText.length { t with backslashes := t.backslashes + 1 } = t.length + 1 := by
      simp only [TagText.length]
      omega
    rw [hlength, List.drop_succ_cons, List.replicate_succ, List.cons_append]
    exact congrArg ('\\' :: ·) hs
  | case2 c s hc =>
    obtain ⟨inner, hinner, rfl⟩ := Option.map_eq_some_iff.1 h
    obtain ⟨hfree, hs⟩ := innerOf?_eq_some hinner
    refine ⟨⟨c, inner, rfl, hc, hfree⟩, ?_⟩
    have hlength : TagText.length { backslashes := 0, inner := c :: inner } = inner.length + 3 := by
      simp only [TagText.length, List.length_cons]
      omega
    rw [hlength]
    simp only [TagText.bracketed, List.replicate_zero, List.nil_append, List.drop_succ_cons,
      List.cons_append, List.append_assoc]
    exact congrArg (fun s => '[' :: c :: s) hs
  | case3 => cases h
  | case4 => cases h

theorem TagText.length_pos (t : TagText) : 0 < t.length := Nat.succ_pos _

/-- From tag to tag: a property of texts holds if it goes from the rest of a text to the text, both
for one character where no tag begins and for a whole tag. -/
@[elab_as_elim]
theorem induction_on_tags {P : List Char → Prop} (nil : P [])
    (char : ∀ c s, tagAt? (c :: s) = none → P s → P (c :: s))
    (tag : ∀ s t, tagAt? s = some t → P (s.drop t.length) → P s) (s : List Char) : P s := by
  induction hn : s.length using Nat.strongRecOn generalizing s with
  | _ n ih =>
    cases s with
    | nil => exact nil
    | cons c s =>
      cases h : tagAt? (c :: s) with
      | none => exact char c s h (ih s.length (by simp [← hn]) s rfl)
      | some t =>
        refine tag (c :: s) t h (ih _ ?_ _ rfl)
        have hpos := t.length_pos
        simp only [List.length_drop, ← hn, List.length_cons]
        omega

/-! ## One step of escaping and of rendering -/

section
variable {c : Char} {s held : List Char} {t : TagText}

theorem escapeTags_eq_drop (n : Nat) (s : List Char) :
    escapeTags n s = escapeTags 0 (s.drop n) := by
  induction s generalizing n with
  | nil => simp [escapeTags]
  | cons c s ih =>
    cases n with
    | zero => rfl
    | succ n => rw [escapeTags, ih, List.drop_succ_cons]

theorem escapeTags_of_none (h : tagAt? (c :: s) = none) :
    escapeTags 0 (c :: s) = c :: escapeTags 0 s := by
  rw [escapeTags, h]

theorem escapeTags_of_some (h : tagAt? s = some t) :
    escapeTags 0 s = t.escaped ++ escapeTags 0 (s.drop t.length) := by
  cases s with
  | nil => cases h
  | cons c s =>
    rw [escapeTags, h]
    dsimp only
    rw [escapeTags_eq_drop (t.length - 1)]
    rfl

theorem piecesFrom_eq_drop (position n : Nat) (held s : List Char) :
    piecesFrom position n held s = piecesFrom (position + n) 0 held (s.drop n) := by
  induction s generalizing position n with
  | nil => simp [piecesFrom]
  | cons c s ih =>
    cases n with
    | zero => rfl
    | succ n =>
      rw [piecesFrom, ih, List.drop_succ_cons]
      congr 1
      omega

theorem piecesFrom_of_none (position : Nat) (h : tagAt? (c :: s) = none) :
    piecesFrom position 0 held (c :: s) = piecesFrom (position + 1) 0 (c :: held) s := by
  rw [piecesFrom, h]

theorem piecesFrom_of_some (position : Nat) (h : tagAt? s = some t) :
    piecesFrom position 0 held s =
      .plain (plainText held.reverse) ::
        (t.pieces position ++ piecesFrom (position + t.length) 0 [] (s.drop t.length)) := by
  cases s with
  | nil => cases h
  | cons c s =>
    rw [piecesFrom, h]
    dsimp only
    rw [piecesFrom_eq_drop]
    have hposition : position + 1 + (t.length - 1) = position + t.length := by
      have hpos := t.length_pos
      omega
    rw [hposition]
    rfl

end

/-! ## Texts without tags -/

/-- No tag begins anywhere in the text. -/
def Tagless (s : List Char) : Prop := ∀ rest, rest <:+ s → tagAt? rest = none

theorem tagless_cons {c : Char} {s : List Char} :
    Tagless (c :: s) ↔ tagAt? (c :: s) = none ∧ Tagless s := by
  constructor
  · exact fun h => ⟨h _ List.suffix_rfl,
      fun rest hrest => h rest (hrest.trans (List.suffix_cons c s))⟩
  · rintro ⟨hc, hs⟩ rest hrest
    rcases List.suffix_cons_iff.1 hrest with rfl | hrest
    · exact hc
    · exact hs rest hrest

/-- There are no brackets in the text. -/
def Unbracketed (s : List Char) : Prop := ∀ c ∈ s, c ≠ '[' ∧ c ≠ ']'

instance (s : List Char) : Decidable (Unbracketed s) :=
  List.decidableBAll (fun c => c ≠ '[' ∧ c ≠ ']') s

theorem tagAt?_of_not_mem {s : List Char} (h : '[' ∉ s) : tagAt? s = none := by
  cases ht : tagAt? s with
  | none => rfl
  | some t =>
    have hs := (tagAt?_eq_some ht).2
    exact absurd (hs ▸ by simp [TagText.bracketed]) h

theorem tagless_of_not_mem {s : List Char} (h : '[' ∉ s) : Tagless s := fun _ hrest =>
  tagAt?_of_not_mem fun hmem => h (hrest.subset hmem)

theorem Unbracketed.not_mem {s : List Char} (h : Unbracketed s) : '[' ∉ s := fun hmem =>
  (h _ hmem).1 rfl

theorem innerOf?_of_unbracketed {s : List Char} (h : Unbracketed s) : innerOf? s = none := by
  cases hs : innerOf? s with
  | none => rfl
  | some inner =>
    have hmem : ']' ∈ s := (innerOf?_eq_some hs).2 ▸ by simp
    exact absurd rfl (h _ hmem).2

theorem plainText_of_not_mem {s : List Char} (h : '[' ∉ s) : plainText s = s := by
  fun_induction plainText s with
  | case1 s => exact absurd (by simp) h
  | case2 c s _ ih => rw [ih fun hmem => h (List.mem_cons_of_mem _ hmem)]
  | case3 => rfl

theorem plainText_of_no_backslash {s : List Char} (h : '\\' ∉ s) : plainText s = s := by
  fun_induction plainText s with
  | case1 s => exact absurd (by simp) h
  | case2 c s _ ih => rw [ih fun hmem => h (List.mem_cons_of_mem _ hmem)]
  | case3 => rfl

theorem filter_plainText (s : List Char) :
    (plainText s).filter (· ≠ '\\') = s.filter (· ≠ '\\') := by
  fun_induction plainText s with
  | case1 s ih => simpa using ih
  | case2 c s _ ih => rw [List.filter_cons, List.filter_cons, ih]
  | case3 => rfl

theorem piecesFrom_tagless (position : Nat) (held : List Char) {s : List Char} (h : Tagless s) :
    piecesFrom position 0 held s = [.plain (plainText (held.reverse ++ s))] := by
  induction s generalizing position held with
  | nil => rw [piecesFrom, List.append_nil]
  | cons c s ih =>
    obtain ⟨hc, hs⟩ := tagless_cons.1 h
    rw [piecesFrom_of_none position hc, ih _ _ hs, List.reverse_cons, List.append_assoc]
    rfl

/-! ## Escaping makes no tags -/

section
variable {s x : List Char} {t : TagText}

/-- The first tag of an escaped text is the first one of the text, with more backslashes. -/
theorem tagAt?_escaped (ht : t.Proper) (rest : List Char) :
    tagAt? (t.escaped ++ rest) = some { t with backslashes := 2 * t.backslashes + 1 } := by
  rw [TagText.escaped, List.append_assoc, tagAt?_append ht]

theorem exists_escaped_eq_cons (t : TagText) : ∃ rest, t.escaped = '\\' :: rest :=
  ⟨List.replicate (2 * t.backslashes) '\\' ++ t.bracketed, by
    rw [TagText.escaped, List.replicate_succ, List.cons_append]⟩

theorem innerOf?_escaped (t : TagText) (rest : List Char) :
    innerOf? (t.escaped ++ rest) = none := by
  rw [TagText.escaped]
  generalize 2 * t.backslashes + 1 = n
  induction n with
  | zero => rfl
  | succ n ih =>
    rw [List.replicate_succ, List.cons_append, List.cons_append, innerOf?, if_neg (by decide),
      if_neg (by decide), ih]
    rfl

/-- A bracket that is not closed in a text is not closed in the escaped text either. -/
theorem innerOf?_escapeTags (hx : Unbracketed x) (h : innerOf? s = none) :
    innerOf? (escapeTags 0 s ++ x) = none := by
  induction s with
  | nil => exact innerOf?_of_unbracketed hx
  | cons c s ih =>
    cases ht : tagAt? (c :: s) with
    | some t => rw [escapeTags_of_some ht, List.append_assoc, innerOf?_escaped]
    | none =>
      rw [innerOf?] at h
      rw [escapeTags_of_none ht, List.cons_append, innerOf?]
      split at h
      · cases h
      · rename_i hclose
        rw [if_neg hclose]
        split at h
        · rename_i hopen
          rw [if_pos hopen]
        · rename_i hopen
          rw [if_neg hopen, ih (Option.map_eq_none_iff.1 h)]
          rfl

theorem tagAt?_open_of_not {c : Char} (hc : startsTag c = false) (s : List Char) :
    tagAt? ('[' :: c :: s) = none := by
  rw [tagAt?, if_neg (by simp [hc])]

theorem tagAt?_open_of_innerOf? (c : Char) (h : innerOf? s = none) :
    tagAt? ('[' :: c :: s) = none := by
  rw [tagAt?, h, Option.map_none, ite_self]

theorem tagAt?_of_ne {c : Char} (hbackslash : c ≠ '\\') (hopen : c ≠ '[') (s : List Char) :
    tagAt? (c :: s) = none := by
  rw [tagAt?]
  · exact fun _ h => hbackslash (List.cons.inj h).1
  · exact fun _ _ h => hopen (List.cons.inj h).1

/-- An opening bracket that begins no tag begins none either after what follows has been escaped. -/
theorem tagAt?_open_escapeTags (hx : Unbracketed x) (h : tagAt? ('[' :: s) = none) :
    tagAt? ('[' :: (escapeTags 0 s ++ x)) = none := by
  cases s with
  | nil =>
    cases x with
    | nil => rfl
    | cons c x =>
      exact tagAt?_open_of_innerOf? c
        (innerOf?_of_unbracketed fun d hd => hx d (List.mem_cons_of_mem c hd))
  | cons c s =>
    cases hc : startsTag c with
    | false =>
      -- the escaped text begins with the same character or with a backslash
      cases ht : tagAt? (c :: s) with
      | none => rw [escapeTags_of_none ht, List.cons_append, tagAt?_open_of_not hc]
      | some t =>
        obtain ⟨rest, hrest⟩ := exists_escaped_eq_cons t
        rw [escapeTags_of_some ht, hrest, List.append_assoc, List.cons_append,
          tagAt?_open_of_not (by decide)]
    | true =>
      have hopen : c ≠ '[' := by
        rintro rfl
        exact absurd hc (by decide)
      have hbackslash : c ≠ '\\' := by
        rintro rfl
        exact absurd hc (by decide)
      rw [tagAt?, if_pos hc] at h
      rw [escapeTags_of_none (tagAt?_of_ne hbackslash hopen s), List.cons_append,
        tagAt?_open_of_innerOf? c (innerOf?_escapeTags hx (Option.map_eq_none_iff.1 h))]

/-- Where a text has no tag, it has none either after what follows has been escaped. -/
theorem tagAt?_escapeTags (hx : Unbracketed x) (h : tagAt? s = none) :
    tagAt? (escapeTags 0 s ++ x) = none := by
  induction s with
  | nil => exact tagAt?_of_not_mem hx.not_mem
  | cons c s ih =>
    rw [escapeTags_of_none h, List.cons_append]
    by_cases hbackslash : c = '\\'
    · subst hbackslash
      rw [tagAt?] at h ⊢
      rw [ih (Option.map_eq_none_iff.1 h), Option.map_none]
    · by_cases hopen : c = '['
      · subst hopen
        exact tagAt?_open_escapeTags hx h
      · exact tagAt?_of_ne hbackslash hopen _

end

/-! ## What is shown -/

/-- What a piece shows. -/
def MarkupPiece.shown : MarkupPiece → List Char
  | plain text => text
  | tag _ _ => []

/-- Whether a piece is no tag. -/
def MarkupPiece.IsPlain : MarkupPiece → Prop
  | plain _ => True
  | tag _ _ => False

/-- What some pieces show. -/
def shownBy (pieces : List MarkupPiece) : List Char := pieces.flatMap MarkupPiece.shown

@[simp] theorem shownBy_nil : shownBy [] = [] := rfl

@[simp] theorem shownBy_plain (text : List Char) (pieces : List MarkupPiece) :
    shownBy (.plain text :: pieces) = text ++ shownBy pieces := rfl

@[simp] theorem shownBy_tag (position : Nat) (inner : List Char) (pieces : List MarkupPiece) :
    shownBy (.tag position inner :: pieces) = shownBy pieces := rfl

section
variable {emoji : EmojiTable} {pieces : List MarkupPiece}

@[simp] theorem MarkupPiece.withEmoji_plain (text : List Char) :
    (plain text).withEmoji emoji = plain (emoji.replace text) := rfl

@[simp] theorem MarkupPiece.withEmoji_tag (position : Nat) (inner : List Char) :
    (tag position inner).withEmoji emoji = tag position inner := rfl

theorem shown_infix_shownBy {p : MarkupPiece} (h : p ∈ pieces) : p.shown <:+: shownBy pieces := by
  obtain ⟨before, after, rfl⟩ := List.append_of_mem h
  rw [shownBy, List.flatMap_append, List.flatMap_cons, ← List.append_assoc]
  exact List.infix_append _ _ _

/-- Where no code stands for an emoji, the emoji of the console do not matter. -/
theorem withEmoji_of_lacks (h : emoji.Lacks (shownBy pieces)) :
    pieces.map (·.withEmoji emoji) = pieces := by
  refine (List.map_congr_left fun p hp => ?_).trans (List.map_id _)
  cases p with
  | tag position inner => rfl
  | plain text =>
    have hlacks := h.of_infix (shown_infix_shownBy hp)
    exact congrArg MarkupPiece.plain (EmojiTable.replace_of_lacks hlacks)

theorem isPlain_withEmoji (h : ∀ p ∈ pieces, p.IsPlain) :
    ∀ p ∈ pieces.map (·.withEmoji emoji), p.IsPlain := by
  refine List.forall_mem_map.2 fun p hp => ?_
  cases p with
  | tag position inner => exact (h _ hp).elim
  | plain text => trivial

end

/-- A text is shown up to the number of its backslashes, and as it is if it has none. -/
structure Shows (s shown : List Char) : Prop where
  upToBackslashes : shown.filter (· ≠ '\\') = s.filter (· ≠ '\\')
  verbatim : '\\' ∉ s → shown = s

namespace Shows

theorem refl (s : List Char) : Shows s s := ⟨rfl, fun _ => rfl⟩

theorem append {s₁ s₂ shown₁ shown₂ : List Char} (h₁ : Shows s₁ shown₁) (h₂ : Shows s₂ shown₂) :
    Shows (s₁ ++ s₂) (shown₁ ++ shown₂) := by
  refine ⟨?_, fun h => ?_⟩
  · rw [List.filter_append, List.filter_append, h₁.upToBackslashes, h₂.upToBackslashes]
  · rw [h₁.verbatim fun hmem => h (List.mem_append_left _ hmem),
      h₂.verbatim fun hmem => h (List.mem_append_right _ hmem)]

theorem plainText (s : List Char) : Shows s (plainText s) :=
  ⟨filter_plainText s, plainText_of_no_backslash⟩

end Shows

/-- An escaped tag is shown as the tag, and its backslashes as they were. -/
theorem piecesFrom_escaped {t : TagText} (ht : t.Proper) (position : Nat) (held rest : List Char) :
    piecesFrom position 0 held (t.escaped ++ rest) =
      .plain (plainText held.reverse) :: .plain (List.replicate t.backslashes '\\') ::
        .plain t.bracketed :: piecesFrom (position + t.escaped.length) 0 [] rest := by
  have hlength : TagText.length { t with backslashes := 2 * t.backslashes + 1 } =
      t.escaped.length := by
    simp only [TagText.length, TagText.escaped, TagText.bracketed, List.length_append,
      List.length_replicate, List.length_cons, List.length_nil]
    omega
  have hhalf : (2 * t.backslashes + 1) / 2 = t.backslashes := by omega
  have hodd : (2 * t.backslashes + 1) % 2 = 1 := by omega
  rw [piecesFrom_of_some position (tagAt?_escaped ht rest), hlength, List.drop_left]
  simp only [TagText.pieces, hhalf, hodd, if_true, TagText.bracketed, List.cons_append,
    List.nil_append]

/-- **An escaped text has no tags, and what it shows is the text.**  A text without brackets may
follow, and text that belongs to no tag may be held back. -/
theorem pieces_escapeTags {x : List Char} (hx : Unbracketed x) (s : List Char) :
    ∀ position held,
      (∀ p ∈ piecesFrom position 0 held (escapeTags 0 s ++ x), p.IsPlain) ∧
        Shows (held.reverse ++ (s ++ x))
          (shownBy (piecesFrom position 0 held (escapeTags 0 s ++ x))) := by
  induction s using induction_on_tags with
  | nil =>
    intro position held
    rw [escapeTags, List.nil_append, piecesFrom_tagless _ _ (tagless_of_not_mem hx.not_mem)]
    refine ⟨fun p hp => ?_, ?_⟩
    · rw [List.mem_singleton.1 hp]
      trivial
    · rw [shownBy_plain, shownBy_nil, List.append_nil]
      exact Shows.plainText _
  | char c s h ih =>
    intro position held
    have hnone : tagAt? (c :: (escapeTags 0 s ++ x)) = none := by
      rw [← List.cons_append, ← escapeTags_of_none h]
      exact tagAt?_escapeTags hx h
    rw [escapeTags_of_none h, List.cons_append, piecesFrom_of_none _ hnone]
    obtain ⟨hplain, hshows⟩ := ih (position + 1) (c :: held)
    rw [List.reverse_cons, List.append_assoc] at hshows
    exact ⟨hplain, hshows⟩
  | tag s t h ih =>
    intro position held
    obtain ⟨hproper, hs⟩ := tagAt?_eq_some h
    have hescape := escapeTags_of_some h
    generalize s.drop t.length = rest at hs hescape ih
    obtain ⟨hplain, hshows⟩ := ih (position + t.escaped.length) []
    rw [hescape, List.append_assoc, piecesFrom_escaped hproper]
    refine ⟨fun p hp => ?_, ?_⟩
    · simp only [List.mem_cons] at hp
      rcases hp with rfl | rfl | rfl | hp
      · trivial
      · trivial
      · trivial
      · exact hplain p hp
    · rw [hs]
      simp only [shownBy_plain, List.append_assoc]
      exact (Shows.plainText _).append ((Shows.refl _).append ((Shows.refl _).append hshows))

/-! ## Rendering -/

theorem renderPieces_plain {pieces : List MarkupPiece} (h : ∀ p ∈ pieces, p.IsPlain) (start : Nat) :
    renderPieces [] start pieces = .ok { text := shownBy pieces, spans := [] } := by
  induction pieces generalizing start with
  | nil => rfl
  | cons p pieces ih =>
    obtain ⟨hp, hpieces⟩ := List.forall_mem_cons.1 h
    cases p with
    | tag position inner => exact hp.elim
    | plain text =>
      rw [renderPieces, ih hpieces]
      rfl

section
variable {emoji : EmojiTable} {markup : List Char}

/-- What is shown for the pieces of a text is shown for the text, with brackets or without. -/
theorem render_of_renderPieces {r : Rendered}
    (hpieces : renderPieces [] 0 ((piecesFrom 0 0 [] markup).map (·.withEmoji emoji)) = .ok r)
    (hnumber : r.numberFault? = none) : render emoji markup = .ok r.text := by
  rw [render]
  split
  · rw [hpieces]
    dsimp only
    rw [hnumber]
  · rename_i hbracket
    have hmem : '[' ∉ markup := fun hmem => hbracket (List.contains_iff_mem.2 hmem)
    rw [piecesFrom_tagless 0 [] (tagless_of_not_mem hmem)] at hpieces
    cases hpieces
    show Except.ok (emoji.replace markup) =
      .ok (emoji.replace (plainText ([].reverse ++ markup)) ++ [])
    rw [List.reverse_nil, List.nil_append, plainText_of_not_mem hmem, List.append_nil]

/-- There is no fault in the numbers of styles that can be shown. -/
theorem Rendered.numberFault?_eq_none {r : Rendered}
    (h : ∀ s ∈ r.spans, ∀ fault, StyleParts.ofText s.style ≠ .error (.number fault)) :
    r.numberFault? = none := by
  rw [numberFault?, List.findSome?_eq_none_iff]
  intro s hs
  have hmem : s ∈ r.spans := by
    simpa using (List.mem_filter.1 hs).1
  split
  · rename_i fault heq
    exact absurd heq (h s hmem fault)
  · rfl

theorem render_plain (h : ∀ p ∈ piecesFrom 0 0 [] markup, p.IsPlain) :
    render emoji markup =
      .ok (shownBy ((piecesFrom 0 0 [] markup).map (·.withEmoji emoji))) :=
  render_of_renderPieces (renderPieces_plain (isPlain_withEmoji h) 0)
    (Rendered.numberFault?_eq_none nofun)

theorem render_of_not_mem (h : '[' ∉ markup) :
    render emoji markup = .ok (emoji.replace markup) := by
  rw [render, if_neg fun hmem => h (List.contains_iff_mem.1 hmem)]

end

/-! ## Texts embedded between other texts -/

/-- There are neither brackets nor backslashes in the text. -/
def Bare (s : List Char) : Prop := Unbracketed s ∧ '\\' ∉ s

instance (s : List Char) : Decidable (Bare s) :=
  inferInstanceAs (Decidable (Unbracketed s ∧ '\\' ∉ s))

theorem Bare.append {s₁ s₂ : List Char} (h₁ : Bare s₁) (h₂ : Bare s₂) : Bare (s₁ ++ s₂) :=
  ⟨List.forall_mem_append.2 ⟨h₁.1, h₂.1⟩, List.not_mem_append h₁.2 h₂.2⟩

/-- In front of other text, a bare text belongs to no tag. -/
theorem piecesFrom_bare_append {label : List Char} (h : Bare label) (position : Nat)
    (held rest : List Char) :
    piecesFrom position 0 held (label ++ rest) =
      piecesFrom (position + label.length) 0 (label.reverse ++ held) rest := by
  induction label generalizing position held with
  | nil => rfl
  | cons c label ih =>
    have hopen : c ≠ '[' := (h.1 c List.mem_cons_self).1
    have hbackslash : c ≠ '\\' := fun hc => h.2 (hc ▸ List.mem_cons_self)
    have hlabel : Bare label :=
      ⟨fun d hd => h.1 d (List.mem_cons_of_mem c hd), fun hmem => h.2 (List.mem_cons_of_mem c hmem)⟩
    rw [List.cons_append, piecesFrom_of_none _ (tagAt?_of_ne hbackslash hopen _), ih hlabel,
      List.reverse_cons, List.append_assoc, List.length_cons]
    congr 1
    omega

/-- An escaped text ends as the text does. -/
theorem getLast?_escapeTags (s : List Char) : (escapeTags 0 s).getLast? = s.getLast? := by
  induction s using induction_on_tags with
  | nil => rfl
  | char c s h ih => rw [escapeTags_of_none h, List.getLast?_cons, List.getLast?_cons, ih]
  | tag s t h ih =>
    have hs := (tagAt?_eq_some h).2
    have hescape := escapeTags_of_some h
    generalize s.drop t.length = rest at hs hescape ih
    have hclose : t.bracketed.getLast? = some ']' := List.getLast?_concat
    rw [hescape, hs, TagText.escaped]
    simp only [List.getLast?_append, ih, hclose, Option.some_or, Option.or_assoc]

theorem mem_of_endsInOneBackslash {s : List Char} (h : endsInOneBackslash (escapeTags 0 s) = true) :
    '\\' ∈ s := by
  have hlast : (escapeTags 0 s).getLast? = some '\\' := by
    rw [List.getLast?_eq_head?_reverse]
    unfold endsInOneBackslash at h
    split at h
    · cases h
    · rename_i hreverse
      rw [hreverse, List.head?_cons]
    · cases h
  rw [getLast?_escapeTags] at hlast
  exact List.mem_of_getLast? hlast

/-- **Between a bare text and one without brackets, an escaped text is shown**, provided that no
code in the whole stands for an emoji. -/
theorem render_embedded (emoji : EmojiTable) {label suffix : List Char} (hlabel : Bare label)
    (hsuffix : Unbracketed suffix) (s : List Char) :
    ∃ shown, render emoji (label ++ (escape s ++ suffix)) = .ok shown ∧
      (emoji.Lacks ((label ++ (s ++ suffix)).filter (· ≠ '\\')) →
        Shows (label ++ (s ++ suffix)) shown) := by
  have hpieces : ∀ x, Unbracketed x → ∃ shown,
      render emoji (label ++ (escapeTags 0 s ++ x)) = .ok shown ∧
        (emoji.Lacks ((label ++ (s ++ x)).filter (· ≠ '\\')) →
          Shows (label ++ (s ++ x)) shown) := by
    intro x hx
    obtain ⟨hplain, hshows⟩ := pieces_escapeTags hx s (0 + label.length) (label.reverse ++ [])
    rw [← piecesFrom_bare_append hlabel] at hplain hshows
    rw [List.append_nil, List.reverse_reverse] at hshows
    refine ⟨_, render_plain hplain, fun hlacks => ?_⟩
    rw [← hshows.upToBackslashes] at hlacks
    rwa [withEmoji_of_lacks (EmojiTable.lacks_of_filter hlacks)]
  rw [escape]
  split
  · rename_i hends
    -- one more backslash at the end, which the text has already
    obtain ⟨shown, hrender, hshows⟩ :=
      hpieces ('\\' :: suffix) (List.forall_mem_cons.2 ⟨by decide, hsuffix⟩)
    refine ⟨shown, by rw [← hrender, List.append_assoc]; rfl, fun hlacks => ?_⟩
    have hfilter : (label ++ (s ++ '\\' :: suffix)).filter (· ≠ '\\') =
        (label ++ (s ++ suffix)).filter (· ≠ '\\') := by simp
    rw [← hfilter] at hlacks
    refine ⟨(hshows hlacks).upToBackslashes.trans hfilter, fun hmem => ?_⟩
    have hmem' := mem_of_endsInOneBackslash hends
    exact absurd (List.mem_append_right _ (List.mem_append_left _ hmem')) hmem
  · exact hpieces suffix hsuffix

example : (render .empty (escape "a[/b][1]".toList)).toOption = some "a[/b][1]".toList := by
  decide +kernel

/-! ## Titles in a style -/

/-- The name of a style that titles are shown in: one of letters, which stands for itself. -/
structure TitleStyle (style : List Char) : Prop where
  letter : (style.head?.any fun c => 'a' ≤ c && c ≤ 'z') = true
  unbracketed : Unbracketed style
  noParameters : '=' ∉ style
  trimmed : Text.trim style = style
  canonical : canonical style = .ok style

theorem titleStyle_red : TitleStyle "red".toList :=
  ⟨by decide, by decide, by decide, by decide, rfl⟩

theorem titleStyle_bold : TitleStyle "bold".toList :=
  ⟨by decide, by decide, by decide, by decide, rfl⟩

theorem titleStyle_boldCyan : TitleStyle "bold cyan".toList :=
  ⟨by decide, by decide, by decide, by decide, rfl⟩

/-- The tag that opens a style. -/
def openingTag (style : List Char) : TagText := { backslashes := 0, inner := style }

/-- The tag that closes a style. -/
def closingTag (style : List Char) : TagText := { backslashes := 0, inner := '/' :: style }

/-- A title in a style. -/
def styled (style title : List Char) : List Char :=
  (openingTag style).bracketed ++ (title ++ (closingTag style).bracketed)

section
variable {emoji : EmojiTable} {style title : List Char}

theorem nameAndParameters_of_not_mem {inner : List Char} (h : '=' ∉ inner) :
    nameAndParameters inner = (inner, none) := by
  replace h : ∀ c ∈ inner, c ≠ '=' := fun c hc heq => h (heq ▸ hc)
  rw [nameAndParameters, List.takeWhile_eq_self_iff.2 (by simpa using h),
    List.dropWhile_eq_nil_iff.2 (by simpa using h)]
  rfl

namespace TitleStyle

theorem exists_cons (h : TitleStyle style) :
    ∃ c rest, style = c :: rest ∧ startsTag c = true ∧ c ≠ '/' ∧ c ≠ '@' := by
  have hletter := h.letter
  cases style with
  | nil => cases hletter
  | cons c rest =>
    have hrange : ('a' ≤ c && c ≤ 'z') = true := hletter
    refine ⟨c, rest, rfl, by rw [startsTag, hrange]; rfl, ?_, ?_⟩
    · rintro rfl
      exact absurd hrange (by decide)
    · rintro rfl
      exact absurd hrange (by decide)

theorem proper_openingTag (h : TitleStyle style) : (openingTag style).Proper := by
  obtain ⟨c, rest, rfl, hstarts, -, -⟩ := h.exists_cons
  exact ⟨c, rest, rfl, hstarts, fun x hx => h.unbracketed x (List.mem_cons_of_mem c hx)⟩

theorem proper_closingTag (h : TitleStyle style) : (closingTag style).Proper :=
  ⟨'/', style, rfl, by decide, h.unbracketed⟩

/-- The opening tag opens the style. -/
theorem afterTag_opening (h : TitleStyle style) (start position : Nat) :
    afterTag [] start position style =
      .ok ([{ name := style, parameters := none, start }], none) := by
  obtain ⟨c, rest, hstyle, -, hslash, -⟩ := h.exists_cons
  rw [afterTag, nameAndParameters_of_not_mem h.noParameters]
  split
  · rename_i heq
    rw [hstyle] at heq
    exact absurd (List.cons.inj (Prod.mk.inj heq).1).1 hslash
  · rename_i heq
    obtain ⟨rfl, rfl⟩ := Prod.mk.inj heq
    rw [h.canonical]

/-- The closing tag closes it. -/
theorem afterTag_closing (h : TitleStyle style) (opened start position : Nat) :
    afterTag [{ name := style, parameters := none, start := opened }] start position
        ('/' :: style) =
      .ok ([], some { name := style, parameters := none, start := opened }) := by
  obtain ⟨c, rest, hstyle, -, -, hat⟩ := h.exists_cons
  have hequals : '=' ∉ '/' :: style := by simpa using h.noParameters
  have hne : style ≠ [] := by simp [hstyle]
  have hhead : style.head? ≠ some '@' := by simpa [hstyle] using hat
  rw [afterTag, nameAndParameters_of_not_mem hequals]
  simp [h.trimmed, hne, h.canonical, closed, OpenTag.handlerFault?, hhead]

end TitleStyle

theorem pieces_of_no_backslashes (inner : List Char) (position : Nat) :
    TagText.pieces { backslashes := 0, inner } position = [.plain [], .tag position inner] := by
  simp [TagText.pieces]

/-- A tag without backslashes is a tag. -/
theorem piecesFrom_tag {inner : List Char} (h : TagText.Proper { backslashes := 0, inner })
    (position : Nat) (held rest : List Char) :
    piecesFrom position 0 held (TagText.bracketed { backslashes := 0, inner } ++ rest) =
      .plain (plainText held.reverse) :: .plain [] :: .tag position inner ::
        piecesFrom (position + (inner.length + 2)) 0 [] rest := by
  have hlength : TagText.length { backslashes := 0, inner } =
      (TagText.bracketed { backslashes := 0, inner }).length := by
    simp only [TagText.length, TagText.bracketed, List.length_append, List.length_cons,
      List.length_nil]
    omega
  have htag := tagAt?_append h 0 rest
  rw [List.replicate_zero, List.nil_append] at htag
  rw [piecesFrom_of_some position htag, hlength, List.drop_left, ← hlength, TagText.length,
    Nat.zero_add, pieces_of_no_backslashes]
  rfl

/-- The pieces of a title in a style, and of what follows it. -/
theorem piecesFrom_styled (hstyle : TitleStyle style) (htitle : Bare title) (rest : List Char) :
    ∃ position position', piecesFrom 0 0 [] (styled style title ++ rest) =
      .plain [] :: .plain [] :: .tag 0 style :: .plain title :: .plain [] ::
        .tag position ('/' :: style) :: piecesFrom position' 0 [] rest := by
  rw [styled, openingTag, closingTag, List.append_assoc, List.append_assoc,
    piecesFrom_tag hstyle.proper_openingTag, piecesFrom_bare_append htitle,
    piecesFrom_tag hstyle.proper_closingTag, List.append_nil, List.reverse_reverse,
    plainText_of_not_mem htitle.1.not_mem]
  exact ⟨_, _, rfl⟩

/-- A title in a style is shown, and the style is closed behind it. -/
theorem renderPieces_styled (hstyle : TitleStyle style) (htitle : Bare title)
    (hcode : emoji.Lacks title) (rest : List Char) :
    ∃ position,
      renderPieces [] 0 ((piecesFrom 0 0 [] (styled style title ++ rest)).map (·.withEmoji emoji)) =
        (renderPieces [] title.length
          ((piecesFrom position 0 [] rest).map (·.withEmoji emoji))).map fun r =>
            { text := title ++ r.text,
              spans := { start := 0, stop := title.length, style } :: r.spans } := by
  obtain ⟨closing, position, hpieces⟩ := piecesFrom_styled hstyle htitle rest
  refine ⟨position, ?_⟩
  rw [hpieces]
  simp only [List.map_cons, MarkupPiece.withEmoji_plain, MarkupPiece.withEmoji_tag,
    EmojiTable.replace_nil, EmojiTable.replace_of_lacks hcode, renderPieces,
    hstyle.afterTag_opening, hstyle.afterTag_closing, List.length_nil, Nat.zero_add, Nat.add_zero]
  cases renderPieces [] title.length ((piecesFrom position 0 [] rest).map (·.withEmoji emoji)) with
  | error fault => rfl
  | ok r => simp [Except.map, OpenTag.spanTo]

/-- The style of a title can be shown. -/
theorem TitleStyle.number (h : TitleStyle style) (fault : NumberFault) :
    StyleParts.ofText style ≠ .error (.number fault) := by
  intro hfault
  have hcanonical := h.canonical
  rw [Console.canonical, hfault] at hcanonical
  cases hcanonical

/-- **A title in a style is shown in front of text without tags.** -/
theorem render_styled (hstyle : TitleStyle style) (htitle : Bare title)
    (hcode : emoji.Lacks title) {rest : List Char} (hrest : Tagless rest) :
    render emoji (styled style title ++ rest) =
      .ok (title ++ emoji.replace (plainText rest)) := by
  obtain ⟨position, hpieces⟩ := renderPieces_styled hstyle htitle hcode rest
  rw [piecesFrom_tagless position [] hrest] at hpieces
  rw [render_of_renderPieces hpieces]
  · simp
  · refine Rendered.numberFault?_eq_none fun span hspan => ?_
    have hspan : span = { start := 0, stop := title.length, style } := by simpa using hspan
    rw [hspan]
    exact hstyle.number

end

end Console
end ComponentCensus
