import ComponentCensus.Console.Emoji

/-!
# Texts that emoji codes leave alone

Where no code in a text names an emoji, the text is shown as it is.  As a code begins and ends with
a colon, that is so for every text with at most one of them.

* `codeAt?_eq_some`, `induction_on_codes` — what a code is made of, and the induction that goes from
  code to code.
* `EmojiTable.replace_cons_of_none`, `EmojiTable.replace_of_some` — one step of the replacement.
* `EmojiTable.Lacks` — the table has no emoji for the codes in a text;
  `EmojiTable.replace_of_lacks` says that it leaves such a text alone.
* `EmojiTable.lacks_of_filter` — backslashes do not make a code of what is none.
-/

set_option autoImplicit false

namespace ComponentCensus
namespace Console

open Text

/-! ## Codes -/

/-- What can stand between the colons of a code. -/
def IsWord (word : List Char) : Prop := ∀ c ∈ word, c ≠ ':' ∧ isBlank c = false

theorem length_codeText (word : List Char) : (codeText word).length = word.length + 2 := by
  simp [codeText]

theorem wordOf?_eq_some {s word : List Char} (h : wordOf? s = some word) :
    IsWord word ∧ s = word ++ ':' :: s.drop (word.length + 1) := by
  induction s generalizing word with
  | nil => cases h
  | cons c s ih =>
    rw [wordOf?] at h
    split at h
    · rename_i hc
      cases h
      exact ⟨nofun, by rw [hc]; rfl⟩
    · split at h
      · cases h
      · rename_i hcolon hblank
        obtain ⟨word, hword, rfl⟩ := Option.map_eq_some_iff.1 h
        obtain ⟨hfree, hs⟩ := ih hword
        exact ⟨List.forall_mem_cons.2 ⟨⟨hcolon, by simpa using hblank⟩, hfree⟩,
          congrArg (c :: ·) hs⟩

/-- The code that is found stands at the front of the text. -/
theorem codeAt?_eq_some {s word : List Char} (h : codeAt? s = some word) :
    IsWord word ∧ s = codeText word ++ s.drop (codeText word).length := by
  unfold codeAt? at h
  split at h
  · obtain ⟨hword, hs⟩ := wordOf?_eq_some h
    refine ⟨hword, ?_⟩
    rw [length_codeText, List.drop_succ_cons, codeText, List.cons_append, List.cons_append,
      List.append_assoc]
    exact congrArg (':' :: ·) hs
  · cases h

theorem codeAt?_of_ne {c : Char} (h : c ≠ ':') (s : List Char) : codeAt? (c :: s) = none := by
  rw [codeAt?]
  exact fun _ hc => h (List.cons.inj hc).1

/-- From code to code: a property of texts holds if it goes from the rest of a text to the text,
both for one character where no code begins and for a whole code. -/
@[elab_as_elim]
theorem induction_on_codes {P : List Char → Prop} (nil : P [])
    (char : ∀ c s, codeAt? (c :: s) = none → P s → P (c :: s))
    (code : ∀ word s, codeAt? (codeText word ++ s) = some word → P s → P (codeText word ++ s))
    (s : List Char) : P s := by
  induction hn : s.length using Nat.strongRecOn generalizing s with
  | _ n ih =>
    cases s with
    | nil => exact nil
    | cons c s =>
      cases h : codeAt? (c :: s) with
      | none => exact char c s h (ih s.length (by simp [← hn]) s rfl)
      | some word =>
        have hs := (codeAt?_eq_some h).2
        generalize (c :: s).drop (codeText word).length = rest at hs
        rw [hs] at h hn ⊢
        refine code word rest h (ih _ ?_ rest rfl)
        rw [← hn, List.length_append, length_codeText]
        omega

namespace EmojiTable

variable (t : EmojiTable)

/-! ## One step of the replacement -/

@[simp] theorem replace_nil : t.replace [] = [] := rfl

theorem replaceFrom_eq_drop (n : Nat) (s : List Char) :
    t.replaceFrom n s = t.replace (s.drop n) := by
  induction s generalizing n with
  | nil => rw [List.drop_nil, replaceFrom, replace_nil]
  | cons c s ih =>
    cases n with
    | zero => rfl
    | succ n => rw [replaceFrom, ih, List.drop_succ_cons]

theorem replace_cons_of_none {c : Char} {s : List Char} (h : codeAt? (c :: s) = none) :
    t.replace (c :: s) = c :: t.replace s := by
  rw [replace, replaceFrom, h]
  rfl

theorem replace_of_some {word s : List Char} (h : codeAt? (codeText word ++ s) = some word) :
    t.replace (codeText word ++ s) = t.shown word ++ t.replace s := by
  have hcode : codeText word ++ s = ':' :: (word ++ [':'] ++ s) := rfl
  have hlength : (word ++ [':']).length = word.length + 1 := List.length_append
  rw [hcode] at h ⊢
  rw [replace, replaceFrom, h]
  dsimp only
  rw [replaceFrom_eq_drop, ← hlength, List.drop_left]

/-! ## Emoji of codes -/

theorem backslash_mem_lower {s : List Char} (h : '\\' ∈ s) : '\\' ∈ lower s := by
  have hfrom : ∀ before, '\\' ∈ lowerFrom before s := by
    induction s with
    | nil => cases h
    | cons c s ih =>
      intro before
      rw [lowerFrom]
      rcases List.mem_cons.1 h with hc | h
      · refine List.mem_append_left _ ?_
        rw [← hc, if_neg (by decide), smallOf_of_lt (by decide)]
        exact List.mem_singleton.2 (by decide)
      · exact List.mem_append_right _ (ih h _)
  exact hfrom []

/-- Only letters and a hyphen are taken away from a word that asks for a variant. -/
theorem backslash_mem_name {word : List Char} (h : '\\' ∈ word) :
    '\\' ∈ (nameAndVariant word).1 := by
  unfold nameAndVariant
  split
  · rename_i v hv
    have hfree : '\\' ∉ v.1 := by
      have hall : ∀ v ∈ variants, '\\' ∉ v.1 := by decide
      exact hall v (List.mem_of_find?_eq_some hv)
    have hends := List.find?_some hv
    obtain ⟨name, hname⟩ := List.isSuffixOf_iff_suffix.1 hends
    rw [← hname] at h ⊢
    rw [List.length_append, Nat.add_sub_cancel, List.take_left]
    exact (List.mem_append.1 h).resolve_right hfree
  · exact h

theorem plain_of_mem_selector {word : List Char} :
    ∀ c ∈ (nameAndVariant word).2, c ≠ ':' ∧ c ≠ '[' ∧ c ≠ '\\' := by
  have hall : ∀ v ∈ variants, v.2 ≠ ':' ∧ v.2 ≠ '[' ∧ v.2 ≠ '\\' := by decide
  unfold nameAndVariant
  split
  · rename_i v hv
    exact List.forall_mem_singleton.2 (hall v (List.mem_of_find?_eq_some hv))
  · exact nofun

variable {t}

/-- The word of a code that stands for an emoji has no backslash in it. -/
theorem not_mem_of_ofWord? {word emoji : List Char} (h : t.ofWord? word = some emoji) :
    '\\' ∉ word := by
  obtain ⟨found, hfound, -⟩ := Option.map_eq_some_iff.1 h
  exact fun hmem => t.name_plain hfound (backslash_mem_lower (backslash_mem_name hmem))

/-- What is shown for such a code has no colon, no opening bracket and no backslash in it. -/
theorem plain_of_ofWord? {word emoji : List Char} (h : t.ofWord? word = some emoji) :
    ∀ c ∈ emoji, c ≠ ':' ∧ c ≠ '[' ∧ c ≠ '\\' := by
  obtain ⟨found, hfound, rfl⟩ := Option.map_eq_some_iff.1 h
  exact List.forall_mem_append.2 ⟨t.emoji_plain hfound, plain_of_mem_selector⟩

/-! ## Texts without codes for emoji -/

/-- No code in the text stands for an emoji. -/
def Lacks (t : EmojiTable) (s : List Char) : Prop :=
  ∀ word, IsWord word → codeText word <:+: s → t.ofWord? word = none

variable {s : List Char}

theorem Lacks.of_infix {r : List Char} (h : t.Lacks s) (hr : r <:+: s) : t.Lacks r :=
  fun word hword hcode => h word hword (hcode.trans hr)

/-- Such a text is shown as it is. -/
theorem replace_of_lacks (h : t.Lacks s) : t.replace s = s := by
  induction s using induction_on_codes with
  | nil => rfl
  | char c s hnone ih =>
    rw [replace_cons_of_none t hnone, ih (h.of_infix (List.suffix_cons c s).isInfix)]
  | code word s hsome ih =>
    have hword := h word (codeAt?_eq_some hsome).1 (List.prefix_append _ s).isInfix
    rw [replace_of_some t hsome, shown, hword, Option.getD_none,
      ih (h.of_infix (List.suffix_append _ s).isInfix)]

/-- A console without emoji shows every text as it is. -/
@[simp] theorem lacks_empty (s : List Char) : empty.Lacks s := fun _ _ _ => rfl

/-- A code takes two colons. -/
theorem lacks_of_count (h : s.count ':' ≤ 1) : t.Lacks s := by
  intro word _ hcode
  have htwo : 2 ≤ (codeText word).count ':' := by
    rw [codeText, List.cons_append, List.count_cons_self, List.count_append, List.count_singleton]
    simp
  have hle := hcode.sublist.count_le ':'
  omega

/-- As no name has a backslash in it, a text lacks emoji if it does without its backslashes. -/
theorem lacks_of_filter (h : t.Lacks (s.filter (· ≠ '\\'))) : t.Lacks s := by
  intro word hword hcode
  cases hemoji : t.ofWord? word with
  | none => rfl
  | some emoji =>
    have hfree : ∀ c ∈ codeText word, decide (c ≠ '\\') = true := by
      have hplain := not_mem_of_ofWord? hemoji
      intro c hc
      refine decide_eq_true fun heq => ?_
      simp only [codeText, heq, List.cons_append, List.mem_cons, List.mem_append,
        List.not_mem_nil, or_false] at hc
      rcases hc with hc | hc | hc
      · exact absurd hc (by decide)
      · exact hplain hc
      · exact absurd hc (by decide)
    have hkept := hcode.filter fun c => decide (c ≠ '\\')
    rw [List.filter_eq_self.2 hfree] at hkept
    rw [← hemoji]
    exact h word hword hkept

/-- What belongs to no code in front of a text leaves the codes in it alone. -/
theorem replace_cons_of_ne {c : Char} (h : c ≠ ':') (s : List Char) :
    t.replace (c :: s) = c :: t.replace s :=
  replace_cons_of_none t (codeAt?_of_ne h s)

end EmojiTable

/-- The table of a console with a single emoji. -/
def oneEmoji : EmojiTable where
  find? name := if name = ['b'] then some ['🅱'] else none
  name_plain := by
    intro name emoji h
    split at h
    · rename_i hname
      simp [hname]
    · cases h
  emoji_plain := by
    intro name emoji h
    split at h
    · cases h
      simp
    · cases h

example : oneEmoji.replace "a:B:c:b-text::d:".toList = "a🅱c🅱\uFE0E:d:".toList := by
  decide +kernel

end Console
end ComponentCensus
