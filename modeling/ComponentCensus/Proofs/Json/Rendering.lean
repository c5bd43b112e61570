import Mathlib.Data.List.Forall2
import ComponentCensus.Proofs.Json.Decoder

/-!
# What is rendered

The text of a value is plain ASCII and stands for the value by the grammar, so that whoever decodes
it gets the value back.

* `writes_renderAt`, `isTextOf_render` — what is rendered is written as the grammar has it.
* `ascii_renderAt` — and it is plain ASCII.
* `decode?_render`, `render_injective` — nothing is lost.
-/

set_option autoImplicit false

namespace ComponentCensus
namespace Json

/-! ## Strings -/

theorem hexValue?_hexDigit : ∀ n < 16, hexValue? (Text.hexDigit n) = some n := by decide

theorem unitOf?_hexDigits {n : Nat} (h : n < 0x10000) : unitOf? (Text.hexDigits 4 n) = some n := by
  have hdigit : ∀ m, hexValue? (Text.hexDigit (m % 16)) = some (m % 16) := fun m =>
    hexValue?_hexDigit _ (Nat.mod_lt m (by decide))
  simp only [Text.hexDigits, List.nil_append, List.cons_append, unitOf?, hdigit,
    Option.pure_def, Option.bind_eq_bind, Option.bind_some, Option.some.injEq]
  omega

/-- A character that a unit of sixteen bits cannot hold is the character of two surrogates. -/
theorem pairValue_of_large {n : Nat} (h : 0x10000 ≤ n) :
    pairValue (0xD800 + (n - 0x10000) / 0x400) (0xDC00 + (n - 0x10000) % 0x400) = n := by
  unfold pairValue
  omega

/-- A character is written with a short escape, as itself, in one unit or in two. -/
theorem escapeChar_cases (c : Char) :
    (∃ e, (e, c) ∈ shortEscapes ∧ escapeChar c = ['\\', e]) ∨
    (32 ≤ c.toNat ∧ c.toNat < 127 ∧ c ≠ '"' ∧ c ≠ '\\' ∧ escapeChar c = [c]) ∨
    (c.toNat < 0x10000 ∧ escapeChar c = unitEscape c.toNat) ∨
    (0x10000 ≤ c.toNat ∧ escapeChar c = unitEscape (0xD800 + (c.toNat - 0x10000) / 0x400) ++
      unitEscape (0xDC00 + (c.toNat - 0x10000) % 0x400)) := by
  by_cases hshort : c ∈ ['"', '\\', '\n', '\r', '\t', '\x0c', '\x08']
  · left
    simp only [List.mem_cons, List.not_mem_nil, or_false] at hshort
    obtain rfl | rfl | rfl | rfl | rfl | rfl | rfl := hshort
    all_goals exact ⟨_, by decide, rfl⟩
  · right
    simp only [List.mem_cons, List.not_mem_nil, or_false, not_or] at hshort
    obtain ⟨hquote, hescape, hnewLine, hreturn, htab, hfeed, hback⟩ := hshort
    simp only [escapeChar, hquote, hescape, hnewLine, hreturn, htab, hfeed, hback, if_false,
      Bool.and_eq_true, decide_eq_true_eq]
    by_cases hplain : 32 ≤ c.toNat ∧ c.toNat < 127
    · exact .inl ⟨hplain.1, hplain.2, hquote, hescape, if_pos hplain⟩
    · rw [if_neg hplain]
      by_cases hsmall : c.toNat < 0x10000
      · exact .inr (.inl ⟨hsmall, if_pos hsmall⟩)
      · exact .inr (.inr ⟨Nat.le_of_not_lt hsmall, if_neg hsmall⟩)

theorem spells_escapeChar (c : Char) : Spells (escapeChar c) c := by
  have hvalid := toNat_cases c
  obtain ⟨e, he, heq⟩ | ⟨hcontrol, -, hquote, hescape, heq⟩ | ⟨hsmall, heq⟩ | ⟨hlarge, heq⟩ :=
    escapeChar_cases c
  · rw [heq]
    exact .short he
  · rw [heq]
    exact .plain hcontrol hquote hescape
  · rw [heq]
    exact .unit (unitOf?_hexDigits hsmall)
  · rw [heq]
    exact .pair (unitOf?_hexDigits (by omega)) (unitOf?_hexDigits (by omega)) (by omega) (by omega)
      (pairValue_of_large hlarge).symm

theorem spelled_escape (s : List Char) : Spelled (escape s) s := by
  induction s with
  | nil => exact .nil
  | cons c s ih =>
    rw [escape, List.flatMap_cons]
    exact .cons (spells_escapeChar c) ih

theorem writesText_quote (s : String) : WritesText s (quote s) :=
  ⟨_, rfl, spelled_escape s.toList⟩

/-! ## Numbers -/

theorem head?_toDigits_ne_zero {n : Nat} (h : n ≠ 0) : (Nat.toDigits 10 n).head? ≠ some '0' := by
  induction n using Nat.strongRecOn with
  | ind n ih =>
    rw [Nat.toDigits_eq_if (by decide)]
    split
    · rename_i hlt
      have hdigit : ∀ m < 10, m ≠ 0 → Nat.digitChar m ≠ '0' := by decide
      simpa using hdigit n hlt h
    · rename_i hge
      rw [List.head?_append_of_ne_nil _ Nat.toDigits_ne_nil]
      exact ih (n / 10) (by omega) (by omega)

theorem isNumeral_toDigits (n : Nat) : IsNumeral (Nat.toDigits 10 n) := by
  refine ⟨Nat.toDigits_ne_nil, fun d hd => Nat.isDigit_of_mem_toDigits (by decide) (by decide) hd,
    fun hzero => ?_⟩
  by_cases hn : n = 0
  · subst n
    rfl
  · exact absurd hzero (head?_toDigits_ne_zero hn)

theorem writesInt_toString (n : Int) : WritesInt n (toString n).toList := by
  rw [Int.toString_eq_repr, Int.repr_eq_if]
  split
  · rename_i hn
    rw [Nat.repr_eq_ofList_toDigits, String.toList_ofList]
    refine .inl ⟨isNumeral_toDigits _, ?_⟩
    rw [Nat.ofDigitChars_ten_toDigits]
    omega
  · rename_i hn
    refine .inr ⟨Nat.toDigits 10 (-n).toNat, ?_, isNumeral_toDigits _, ?_⟩
    · simp [Nat.repr_eq_ofList_toDigits]
    · rw [Nat.ofDigitChars_ten_toDigits]
      omega

/-! ## Values -/

theorem blanks_nil : Blanks [] := nofun

theorem blanks_newLine (level : Nat) : Blanks (newLine level) := by
  intro c hc
  rcases List.mem_cons.1 hc with rfl | hc
  · rfl
  · rw [List.eq_of_mem_replicate hc]
    rfl

theorem sequence_itemLines {parts : List (List Char → Prop)} {items : List (List Char)}
    (h : List.Forall₂ (fun part item => part item) parts items) (hne : items ≠ []) (level : Nat)
    {b : List Char} (hb : Blanks b) : Sequence parts (itemLines level items ++ b) := by
  induction h with
  | nil => exact absurd rfl hne
  | @cons part item parts items hpart hparts ih =>
    cases hparts with
    | nil =>
      exact ⟨newLine level, item, b, [], by simp [itemLines], blanks_newLine level, hpart, hb,
        .inl ⟨rfl, rfl⟩⟩
    | cons hpart' hparts' =>
      refine ⟨newLine level, item, [], _, ?_, blanks_newLine level, hpart, blanks_nil,
        .inr ⟨by simp, _, rfl, ih (by simp)⟩⟩
      simp [itemLines]

/-- Brackets around written parts. -/
theorem exists_bracketed {parts : List (List Char → Prop)} {items : List (List Char)}
    (h : List.Forall₂ (fun part item => part item) parts items) (level : Nat)
    (opening closing : Char) :
    ∃ u, bracketed level opening closing items = opening :: (u ++ [closing]) ∧
      Sequence parts u := by
  unfold bracketed
  cases h with
  | nil => exact ⟨[], rfl, blanks_nil⟩
  | cons hpart hparts =>
    refine ⟨_, ?_, sequence_itemLines (.cons hpart hparts) (by simp) (level + 1)
      (blanks_newLine level)⟩
    simp

mutual

/-- What is rendered is written as the grammar has it. -/
theorem writes_renderAt (level : Nat) : ∀ v, Writes v (renderAt level v)
  | null => rfl
  | bool _ => rfl
  | int n => writesInt_toString n
  | text s => writesText_quote s
  | list vs => exists_bracketed (forall₂_renderItems (level + 1) vs) level '[' ']'
  | object members => exists_bracketed (forall₂_renderMembers (level + 1) members) level '{' '}'

theorem forall₂_renderItems (level : Nat) : ∀ vs,
    List.Forall₂ (fun part item => part item) (writesItems vs) (renderItems level vs)
  | [] => .nil
  | v :: vs => .cons (writes_renderAt level v) (forall₂_renderItems level vs)

theorem forall₂_renderMembers (level : Nat) : ∀ members,
    List.Forall₂ (fun part item => part item) (writesMembers members) (renderMembers level members)
  | [] => .nil
  | (k, v) :: members =>
    .cons
      ⟨quote k, [], [' '], renderAt level v, rfl, writesText_quote k, blanks_nil, by
        intro c hc
        rw [List.mem_singleton.1 hc]
        rfl, writes_renderAt level v⟩
      (forall₂_renderMembers level members)

end

theorem isTextOf_render (v : Json) : IsTextOf v v.render :=
  ⟨[], renderAt 0 v, [], by simp [render], blanks_nil, writes_renderAt 0 v, blanks_nil⟩

/-- What is rendered decodes to the value that was rendered. -/
theorem decode?_render (v : Json) : decode? v.render = some v :=
  decode?_eq_some_iff.2 (isTextOf_render v)

theorem render_injective {v w : Json} (h : v.render = w.render) : v = w :=
  (isTextOf_render v).unique (h ▸ isTextOf_render w)

/-! ## Plain ASCII -/

/-- Nothing but ASCII characters. -/
def Ascii (t : List Char) : Prop := ∀ c ∈ t, c.toNat < 128

-- The instance goes through the list: the one for all characters would be tried first.
instance (t : List Char) : Decidable (Ascii t) :=
  List.decidableBAll (fun c : Char => c.toNat < 128) t

theorem Ascii.nil : Ascii [] := nofun

theorem Ascii.cons {c : Char} {t : List Char} (hc : c.toNat < 128) (ht : Ascii t) :
    Ascii (c :: t) := List.forall_mem_cons.2 ⟨hc, ht⟩

theorem Ascii.append {t u : List Char} (ht : Ascii t) (hu : Ascii u) : Ascii (t ++ u) :=
  List.forall_mem_append.2 ⟨ht, hu⟩

theorem ascii_hexDigits (width n : Nat) : Ascii (Text.hexDigits width n) := by
  have hdigit : ∀ m < 16, (Text.hexDigit m).toNat < 128 := by decide
  induction width generalizing n with
  | zero => exact .nil
  | succ width ih => exact (ih _).append (.cons (hdigit _ (Nat.mod_lt n (by decide))) .nil)

theorem ascii_unitEscape (n : Nat) : Ascii (unitEscape n) :=
  .cons (by decide) (.cons (by decide) (ascii_hexDigits 4 n))

theorem ascii_escapeChar (c : Char) : Ascii (escapeChar c) := by
  obtain ⟨e, he, heq⟩ | ⟨-, hplain, -, -, heq⟩ | ⟨-, heq⟩ | ⟨-, heq⟩ := escapeChar_cases c
  · have hshort : ∀ p ∈ shortEscapes, p.1.toNat < 128 := by decide
    rw [heq]
    exact .cons (by decide) (.cons (hshort _ he) .nil)
  · rw [heq]
    exact .cons (Nat.lt_succ_of_lt hplain) .nil
  · rw [heq]
    exact ascii_unitEscape _
  · rw [heq]
    exact (ascii_unitEscape _).append (ascii_unitEscape _)

theorem ascii_quote (s : String) : Ascii (quote s) := by
  have hescape : Ascii (escape s.toList) := by
    intro c hc
    obtain ⟨d, -, hd⟩ := List.mem_flatMap.1 hc
    exact ascii_escapeChar d c hd
  exact .cons (by decide) (hescape.append (.cons (by decide) .nil))

theorem ascii_toDigits (n : Nat) : Ascii (Nat.toDigits 10 n) := by
  intro c hc
  have hdigit := Nat.isDigit_of_mem_toDigits (by decide) (by decide) hc
  simp only [Char.isDigit, Bool.and_eq_true, decide_eq_true_eq, ge_iff_le,
    UInt32.le_iff_toNat_le] at hdigit
  exact Nat.lt_of_le_of_lt hdigit.2 (by decide)

theorem ascii_toString (n : Int) : Ascii (toString n).toList := by
  have hrepr : ∀ m : Nat, Ascii m.repr.toList := by
    intro m
    rw [Nat.repr_eq_ofList_toDigits, String.toList_ofList]
    exact ascii_toDigits m
  rw [Int.toString_eq_repr, Int.repr_eq_if]
  split
  · exact hrepr _
  · rw [String.toList_append]
    exact .append (by decide) (hrepr _)

theorem ascii_newLine (level : Nat) : Ascii (newLine level) := by
  refine .cons (by decide) fun c hc => ?_
  rw [List.eq_of_mem_replicate hc]
  decide

theorem ascii_itemLines {items : List (List Char)} (h : ∀ item ∈ items, Ascii item)
    (level : Nat) : Ascii (itemLines level items) := by
  fun_induction itemLines level items with
  | case1 => exact .nil
  | case2 item => exact (ascii_newLine level).append (h item List.mem_cons_self)
  | case3 item items _ ih =>
    obtain ⟨hitem, hitems⟩ := List.forall_mem_cons.1 h
    exact ((ascii_newLine level).append hitem).append (.cons (by decide) (ih hitems))

theorem ascii_bracketed {items : List (List Char)} (h : ∀ item ∈ items, Ascii item) (level : Nat)
    {opening closing : Char} (hopening : opening.toNat < 128) (hclosing : closing.toNat < 128) :
    Ascii (bracketed level opening closing items) := by
  unfold bracketed
  split
  · exact .cons hopening (.cons hclosing .nil)
  · exact ((Ascii.cons hopening (ascii_itemLines h (level + 1))).append
      (ascii_newLine level)).append (.cons hclosing .nil)

mutual

theorem ascii_renderAt (level : Nat) : ∀ v, Ascii (renderAt level v)
  | null => by
    rw [renderAt]
    decide
  | bool true => by
    rw [renderAt]
    decide
  | bool false => by
    rw [renderAt]
    decide
  | int n => ascii_toString n
  | text s => ascii_quote s
  | list vs => ascii_bracketed (ascii_renderItems (level + 1) vs) level (by decide) (by decide)
  | object members =>
    ascii_bracketed (ascii_renderMembers (level + 1) members) level (by decide) (by decide)

theorem ascii_renderItems (level : Nat) : ∀ vs, ∀ item ∈ renderItems level vs, Ascii item
  | [] => nofun
  | v :: vs => List.forall_mem_cons.2 ⟨ascii_renderAt level v, ascii_renderItems level vs⟩

theorem ascii_renderMembers (level : Nat) :
    ∀ members, ∀ item ∈ renderMembers level members, Ascii item
  | [] => nofun
  | (k, v) :: members =>
    List.forall_mem_cons.2
      ⟨(ascii_quote k).append (.cons (by decide) (.cons (by decide) (ascii_renderAt level v))),
        ascii_renderMembers level members⟩

end

theorem ascii_render (v : Json) : Ascii v.render.toList := by
  rw [render, String.toList_ofList]
  exact ascii_renderAt 0 v

end Json
end ComponentCensus
