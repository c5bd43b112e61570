import Mathlib.Data.List.Forall2
import ComponentCensus.Proofs.Console.Markup
import ComponentCensus.Report.Format

/-!
# The report shows what is put into it

The report for people is made of fixed texts, titles in a style, and lines that carry a text from
outside.  The markup of a line of the last kind shows that text, whatever it is, unless the line has
a code that stands for an emoji of the console.

* `shownAll` — what is shown for marked-up lines; `printedAll_eq` says that the width only matters
  for how it is printed.
* `Plain` — a text without brackets and backslashes and with few colons.
* `Line` — a line of the report before it is written as markup: `Line.markup` is its markup and
  `Line.ShownAs` says what is shown for it.
* `Summary.outline` — the lines of the report; `outlines_overview` says that their markup is the
  overview.
* `people_shows` — the report is what is shown for these lines, one after the other.
-/

set_option autoImplicit false

namespace ComponentCensus

open Console

/-! ## Marked-up lines -/

namespace Console

/-- What is shown for some marked-up lines. -/
def shownAll (emoji : EmojiTable) (lines : List String) : Except MarkupFault (List (List Char)) :=
  lines.mapM fun line => render emoji line.toList

theorem shownAll_cons (emoji : EmojiTable) (line : String) (lines : List String) :
    shownAll emoji (line :: lines) = do
      let text ← render emoji line.toList
      let texts ← shownAll emoji lines
      return text :: texts :=
  List.mapM_cons

/-- The width only matters for how the texts that are shown are printed. -/
theorem printedAll_eq (emoji : EmojiTable) (width : Option Nat) (lines : List String) :
    printedAll emoji width lines =
      (shownAll emoji lines).map fun texts => texts.flatMap (printed width) := by
  induction lines with
  | nil => rfl
  | cons line lines ih =>
    rw [printedAll, printedMarkup, ih, shownAll_cons]
    cases render emoji line.toList with
    | error fault => rfl
    | ok text =>
      cases shownAll emoji lines with
      | error fault => rfl
      | ok texts => rfl

/-- The text is bare and has at most `n` colons. -/
structure Plain (n : Nat) (s : List Char) : Prop where
  bare : Bare s
  colons : s.count ':' ≤ n

namespace Plain

variable {m n : Nat} {s₁ s₂ : List Char}

instance (n : Nat) (s : List Char) : Decidable (Plain n s) :=
  decidable_of_iff (Bare s ∧ s.count ':' ≤ n) ⟨fun h => ⟨h.1, h.2⟩, fun h => ⟨h.bare, h.colons⟩⟩

theorem append (h₁ : Plain m s₁) (h₂ : Plain n s₂) : Plain (m + n) (s₁ ++ s₂) :=
  ⟨h₁.bare.append h₂.bare, by
    rw [List.count_append]
    exact Nat.add_le_add h₁.colons h₂.colons⟩

/-- With one colon there is no code. -/
theorem lacks {emoji : EmojiTable} {s : List Char} (h : Plain 1 s) : emoji.Lacks s :=
  EmojiTable.lacks_of_count h.colons

end Plain

end Console

/-! ## Lines -/

/-- A line of the report. -/
inductive Line where
  /-- A text that is known up to its numbers. -/
  | fixed (text : String)
  /-- A title in a style, and what follows it. -/
  | titled (style title rest : String)
  /-- A text from outside, between a label and what follows it. -/
  | carrying (label value suffix : String)

namespace Line

/-- The line as markup. -/
def markup : Line → String
  | fixed text => text
  | titled style title rest => "[" ++ style ++ "]" ++ title ++ "[/" ++ style ++ "]" ++ rest
  | carrying label value suffix => label ++ embedded value ++ suffix

/-- The line without styles. -/
def text : Line → String
  | fixed text => text
  | titled _ title rest => title ++ rest
  | carrying label value suffix => label ++ value ++ suffix

/-- What is shown for the line: its text, and for a text from outside only up to its backslashes if
it has any, provided that no code in the line stands for an emoji. -/
def ShownAs (emoji : EmojiTable) : Line → List Char → Prop
  | l@(carrying _ value _), shown =>
    emoji.Lacks (l.text.toList.filter (· ≠ '\\')) →
      shown.filter (· ≠ '\\') = l.text.toList.filter (· ≠ '\\') ∧
        ('\\' ∉ value.toList → shown = l.text.toList)
  | l, shown => shown = l.text.toList

/-- The fixed texts of the line hold no brackets and no backslashes, and no codes. -/
def Sound : Line → Prop
  | fixed text => Plain 1 text.toList
  | titled style title rest =>
    TitleStyle style.toList ∧ Plain 1 title.toList ∧ Plain 1 rest.toList
  | carrying label _ suffix => Bare label.toList ∧ Bare suffix.toList

variable {emoji : EmojiTable}

/-- The markup of a line can be rendered, and shows the line. -/
theorem render_markup {l : Line} (h : l.Sound) :
    ∃ shown, render emoji l.markup.toList = .ok shown ∧ l.ShownAs emoji shown := by
  cases l with
  | fixed text =>
    refine ⟨_, render_of_not_mem h.bare.1.not_mem, ?_⟩
    exact EmojiTable.replace_of_lacks h.lacks
  | titled style title rest =>
    obtain ⟨hstyle, htitle, hrest⟩ := h
    have hrender : render emoji _ = _ :=
      render_styled hstyle htitle.bare htitle.lacks (tagless_of_not_mem hrest.bare.1.not_mem)
    rw [plainText_of_not_mem hrest.bare.1.not_mem, EmojiTable.replace_of_lacks hrest.lacks]
      at hrender
    refine ⟨_, ?_, String.toList_append.symm⟩
    rw [← hrender]
    simp [markup, styled, openingTag, closingTag, TagText.bracketed]
  | carrying label value suffix =>
    obtain ⟨hlabel, hsuffix⟩ := h
    obtain ⟨shown, hrender, hshows⟩ := render_embedded emoji hlabel hsuffix.1 value.toList
    have htext : (carrying label value suffix).text.toList =
        label.toList ++ (value.toList ++ suffix.toList) := by simp [text]
    refine ⟨shown, ?_, fun hlacks => ?_⟩
    · rw [← hrender]
      simp [markup, embedded]
    · rw [htext] at hlacks ⊢
      refine ⟨(hshows hlacks).upToBackslashes, fun hvalue => (hshows hlacks).verbatim ?_⟩
      exact List.not_mem_append hlabel.2 (List.not_mem_append hvalue hsuffix.2)

/-- What is shown for the markup of some lines is what is shown for each. -/
theorem shownAll_markup {lines : List Line} (h : ∀ l ∈ lines, l.Sound) :
    ∃ shown, List.Forall₂ (ShownAs emoji) lines shown ∧
      shownAll emoji (lines.map markup) = .ok shown := by
  induction lines with
  | nil => exact ⟨[], .nil, rfl⟩
  | cons l lines ih =>
    obtain ⟨hl, hlines⟩ := List.forall_mem_cons.1 h
    obtain ⟨first, hrender, hfirst⟩ := render_markup hl
    obtain ⟨rest, hrest, hshown⟩ := ih hlines
    refine ⟨first :: rest, .cons hfirst hrest, ?_⟩
    rw [List.map_cons, shownAll_cons, hrender, hshown]
    rfl

/-- What is printed for the markup of some lines is what is shown for each, one after the other. -/
theorem printedAll_markup {lines : List Line} (h : ∀ l ∈ lines, l.Sound) (width : Option Nat) :
    ∃ shown, List.Forall₂ (ShownAs emoji) lines shown ∧
      printedAll emoji width (lines.map markup) = .ok (shown.flatMap (printed width)) := by
  obtain ⟨shown, hshown, heq⟩ := shownAll_markup h
  refine ⟨shown, hshown, ?_⟩
  rw [printedAll_eq, heq]
  rfl

end Line

/-! ## Texts of numbers -/

theorem plain_digits {cs : List Char} (h : ∀ c ∈ cs, c.isDigit = true) : Plain 0 cs where
  bare := ⟨fun c hc => ⟨by rintro rfl; exact absurd (h _ hc) (by decide),
      by rintro rfl; exact absurd (h _ hc) (by decide)⟩,
    fun hc => absurd (h _ hc) (by decide)⟩
  colons := (List.count_eq_zero.2 fun hc => absurd (h _ hc) (by decide)).le

theorem plain_nat (n : Nat) : Plain 0 (toString n).toList := by
  rw [Nat.toString_eq_repr, Nat.repr_eq_ofList_toDigits, String.toList_ofList]
  exact plain_digits fun c hc => Nat.isDigit_of_mem_toDigits (by decide) (by decide) hc

theorem plain_int (n : Int) : Plain 0 (toString n).toList := by
  rw [Int.toString_eq_repr, Int.repr_eq_if]
  split
  · exact plain_nat _
  · rw [String.toList_append]
    exact .append (by decide : Plain 0 _) (plain_nat _)

theorem plain_signText (negative : Bool) : Plain 0 (Number.Binary64.signText negative).toList := by
  cases negative <;> decide

theorem plain_pointed (places n : Nat) : Plain 0 (Number.Binary64.pointed places n).toList := by
  have hzeros : ∀ k, Plain 0 (List.replicate k '0') := fun k => plain_digits fun c hc => by
    rw [List.eq_of_mem_replicate hc]
    decide
  have hpoint : Plain 0 ".".toList := by decide
  simp only [Number.Binary64.pointed, String.toList_append, String.toList_ofList]
  exact (((plain_nat _).append hpoint).append (hzeros _)).append (plain_nat _)

theorem plain_fixed (x : Number.Binary64) (places : Nat) : Plain 0 (x.fixed places).toList := by
  cases x with
  | finite negative m e =>
    rw [Number.Binary64.fixed, String.toList_append]
    exact (plain_signText _).append (plain_pointed _ _)
  | infinite negative =>
    rw [Number.Binary64.fixed, String.toList_append]
    exact (plain_signText _).append (by decide : Plain 0 _)
  | nan => exact (by decide : Plain 0 "nan".toList)

theorem plain_percentage {part whole : Int} {share : String}
    (h : Number.percentage part whole = some share) : Plain 0 share.toList := by
  rw [Number.percentage] at h
  split at h
  · cases h
    decide
  · split at h
    · cases h
    · cases h
      rw [String.toList_append]
      exact (plain_fixed _ _).append (by decide : Plain 0 _)

/-! ## The lines of the report -/

/-- A count and its share in a whole, as they follow a label. -/
def shareText (count whole : Int) : Option String :=
  (Number.percentage count whole).map fun share => ": " ++ toString count ++ " (" ++ share ++ ")"

theorem shareLine_eq (label : String) (count whole : Int) :
    shareLine label count whole = (shareText count whole).map (label ++ ·) := by
  rw [shareLine, shareText, Option.map_map]
  congr 1
  funext share
  simp only [Function.comp_apply, String.append_assoc]

theorem plain_shareText {count whole : Int} {text : String}
    (h : shareText count whole = some text) : Plain 1 text.toList := by
  obtain ⟨share, hshare, rfl⟩ := Option.map_eq_some_iff.1 h
  have hcolon : Plain 1 ": ".toList := by decide
  have hopen : Plain 0 " (".toList := by decide
  have hclose : Plain 0 ")".toList := by decide
  simp only [String.toList_append]
  exact (((hcolon.append (plain_int _)).append hopen).append (plain_percentage hshare)).append
    hclose

/-- The lines of a title with the rule below it. -/
def titleOutline (title rule : String) : List Line := [.titled "bold cyan" title "", .fixed rule]

/-- The lines of the counts of the styles. -/
def Summary.countOutline (s : Summary) : Option (List Line) := do
  let options ← shareText s.options s.total
  let composition ← shareText s.composition s.total
  let templateOnly ← shareText s.templateOnly s.total
  let unclassified ← shareText s.unclassified s.total
  let exampleLine :=
    if 0 < s.unclassified then [.carrying "Example unclassified SFC: " s.exampleUnclassified ""]
    else []
  return [.fixed ""] ++ titleOutline "SFC Analysis" "============" ++
    [.fixed ("Total SFCs: " ++ toString s.total)] ++
    [.fixed ("Options API SFCs" ++ options), .fixed ("Composition API SFCs" ++ composition),
      .fixed ("Template-only SFCs" ++ templateOnly),
      .fixed ("Unclassified SFCs" ++ unclassified)] ++
    exampleLine

/-- The lines of the modules of a tier. -/
def Section.moduleOutline (s : Section) (tier : Tier) (options : Int) : Option (List Line) := do
  let title ← shareText s.total options
  let modules ← s.modules.mapM fun m => (shareText m.2 s.total).map (Line.carrying "    " m.1)
  return [.fixed "", .titled tier.colour (tier.title ++ " Complexity") title] ++ modules

/-- The lines of a component. -/
def Assessment.outline (a : Assessment) (withFactors : Bool) : List Line :=
  [.fixed "", .carrying "File: " a.fileName "", .carrying "Path: " a.path "",
    .fixed ("Score: " ++ toString a.score)] ++
    if withFactors then a.factorLines.map .fixed else []

/-- The lines of the components of a tier. -/
def Section.detailOutline (s : Section) (tier : Tier) : List Line :=
  [.fixed "", .titled "bold" (tier.heading ++ " Complexity Components:") "",
    .fixed "========================="] ++
    (groupByModule s.details).flatMap fun group =>
      [.fixed "", .carrying "Module: " group.1 ""] ++
        group.2.flatMap fun a => a.outline (decide (tier = .high))

/-- The lines of the complexity part. -/
def Breakdown.outline (b : Breakdown) (options : Int) : Option (List Line) := do
  let tiers ← Tier.all.mapM fun t => (b.forTier t).moduleOutline t options
  return [.fixed ""] ++ titleOutline "Complexity Analysis" "==================" ++
    [.fixed "", .fixed "Breakdown:"] ++ tiers.flatten ++ [.fixed ""] ++
    titleOutline "Detailed Component List" "=====================" ++
    Tier.all.flatMap fun t => (b.forTier t).detailOutline t

/-- The lines of the report. -/
def Summary.outline (s : Summary) : Option (List Line) := do
  let counts ← s.countOutline
  match s.complexity with
  | none => return counts
  | some b => return counts ++ (← b.outline s.options)

/-! ## The outline is that of the report -/

/-- The text is the markup of the line, and only what comes from outside can look like markup. -/
def Line.Writes (l : Line) (markup : String) : Prop := l.markup = markup ∧ l.Sound

theorem Line.writes_fixed {text : String} (h : Plain 1 text.toList) : (fixed text).Writes text :=
  ⟨rfl, h⟩

theorem Line.writes_carrying {label : String} (h : Bare label.toList) (value : String) :
    (carrying label value "").Writes (label ++ embedded value) :=
  ⟨String.append_empty, h, by decide⟩

/-- The texts are the markup of the lines. -/
def Outlines : List Line → List String → Prop := List.Forall₂ Line.Writes

theorem Outlines.append {outline₁ outline₂ : List Line} {lines₁ lines₂ : List String}
    (h₁ : Outlines outline₁ lines₁) (h₂ : Outlines outline₂ lines₂) :
    Outlines (outline₁ ++ outline₂) (lines₁ ++ lines₂) :=
  List.rel_append h₁ h₂

theorem Outlines.flatMap {α : Type} {xs : List α} {f : α → List Line} {g : α → List String}
    (h : ∀ x ∈ xs, Outlines (f x) (g x)) : Outlines (xs.flatMap f) (xs.flatMap g) := by
  induction xs with
  | nil => exact .nil
  | cons x xs ih =>
    obtain ⟨hx, hxs⟩ := List.forall_mem_cons.1 h
    exact hx.append (ih hxs)

theorem Outlines.flatten {outlines : List (List Line)} {lines : List (List String)}
    (h : List.Forall₂ Outlines outlines lines) : Outlines outlines.flatten lines.flatten := by
  induction h with
  | nil => exact .nil
  | cons hfirst _ ih => exact hfirst.append ih

theorem Outlines.eq_map {outline : List Line} {lines : List String} (h : Outlines outline lines) :
    lines = outline.map Line.markup ∧ ∀ l ∈ outline, l.Sound := by
  induction h with
  | nil => exact ⟨rfl, nofun⟩
  | cons hfirst _ ih =>
    obtain ⟨rfl, hsound⟩ := hfirst
    exact ⟨congrArg _ ih.1, List.forall_mem_cons.2 ⟨hsound, ih.2⟩⟩

section
variable {α β γ δ : Type} {R : α → β → Prop} {S : γ → δ → Prop}

theorem rel_bind {x : Option α} {y : Option β} {f : α → Option γ} {g : β → Option δ}
    (h : Option.Rel R x y) (hfg : ∀ a b, R a b → Option.Rel S (f a) (g b)) :
    Option.Rel S (x >>= f) (y >>= g) := by
  cases h with
  | none => exact .none
  | some hab => exact hfg _ _ hab

theorem rel_mapM {xs : List γ} {f : γ → Option α} {g : γ → Option β}
    (h : ∀ x ∈ xs, Option.Rel R (f x) (g x)) :
    Option.Rel (List.Forall₂ R) (xs.mapM f) (xs.mapM g) := by
  induction xs with
  | nil => exact .some .nil
  | cons x xs ih =>
    obtain ⟨hx, hxs⟩ := List.forall_mem_cons.1 h
    rw [List.mapM_cons, List.mapM_cons]
    exact rel_bind hx fun a b hab => rel_bind (ih hxs) fun as bs habs => .some (.cons hab habs)

end

/-- A line with a share is a label in front of the share. -/
theorem rel_shareLine (label : String) (count whole : Int) :
    Option.Rel (fun text line => line = label ++ text ∧ Plain 1 text.toList)
      (shareText count whole) (shareLine label count whole) := by
  rw [shareLine_eq]
  cases h : shareText count whole with
  | none => exact .none
  | some text => exact .some ⟨rfl, plain_shareText h⟩

theorem writes_share {label text line : String} (hlabel : Plain 0 label.toList)
    (h : line = label ++ text ∧ Plain 1 text.toList) :
    (Line.fixed (label ++ text)).Writes line := by
  obtain ⟨rfl, htext⟩ := h
  refine Line.writes_fixed ?_
  rw [String.toList_append]
  exact hlabel.append htext

theorem titleStyle_colour (tier : Tier) : TitleStyle tier.colour.toList := by
  cases tier with
  | low => exact ⟨by decide, by decide, by decide, by decide, rfl⟩
  | medium => exact ⟨by decide, by decide, by decide, by decide, rfl⟩
  | high => exact titleStyle_red

theorem writes_titled {style title rest line : String} (hstyle : TitleStyle style.toList)
    (htitle : Plain 1 title.toList)
    (h : line = "[" ++ style ++ "]" ++ title ++ "[/" ++ style ++ "]" ++ rest ∧
      Plain 1 rest.toList) :
    (Line.titled style title rest).Writes line :=
  ⟨h.1.symm, hstyle, htitle, h.2⟩

theorem outlines_titleLines {title rule : String} (htitle : Plain 1 title.toList)
    (hrule : Plain 1 rule.toList) : Outlines (titleOutline title rule) (titleLines title rule) := by
  refine .cons (writes_titled titleStyle_boldCyan htitle ⟨?_, by decide⟩)
    (.cons (Line.writes_fixed hrule) .nil)
  simp only [String.append_empty, String.append_assoc]
  rfl

theorem writes_int {label : String} (h : Plain 1 label.toList) (n : Int) :
    (Line.fixed (label ++ toString n)).Writes (label ++ toString n) := by
  refine Line.writes_fixed ?_
  rw [String.toList_append]
  exact h.append (plain_int n)

theorem outlines_countLines (s : Summary) : Option.Rel Outlines s.countOutline s.countLines := by
  refine rel_bind (rel_shareLine _ _ _) fun options line₁ h₁ => ?_
  refine rel_bind (rel_shareLine _ _ _) fun composition line₂ h₂ => ?_
  refine rel_bind (rel_shareLine _ _ _) fun templateOnly line₃ h₃ => ?_
  refine rel_bind (rel_shareLine _ _ _) fun unclassified line₄ h₄ => ?_
  have hshares : Outlines
      [.fixed ("Options API SFCs" ++ options), .fixed ("Composition API SFCs" ++ composition),
        .fixed ("Template-only SFCs" ++ templateOnly), .fixed ("Unclassified SFCs" ++ unclassified)]
      [line₁, line₂, line₃, line₄] :=
    .cons (writes_share (by decide) h₁) (.cons (writes_share (by decide) h₂)
      (.cons (writes_share (by decide) h₃) (.cons (writes_share (by decide) h₄) .nil)))
  have hexample : Outlines
      (if 0 < s.unclassified then
        [.carrying "Example unclassified SFC: " s.exampleUnclassified ""] else [])
      (if 0 < s.unclassified then
        ["Example unclassified SFC: " ++ embedded s.exampleUnclassified] else []) := by
    split
    · exact .cons (Line.writes_carrying (by decide) _) .nil
    · exact .nil
  have hempty : Outlines [.fixed ""] [""] := .cons (Line.writes_fixed (by decide)) .nil
  have htotal : Outlines [.fixed ("Total SFCs: " ++ toString s.total)]
      ["Total SFCs: " ++ toString s.total] := .cons (writes_int (by decide) _) .nil
  exact .some ((((hempty.append (outlines_titleLines (by decide) (by decide))).append
    htotal).append hshares).append hexample)

theorem outlines_moduleLines (s : Section) (tier : Tier) (options : Int) :
    Option.Rel Outlines (s.moduleOutline tier options) (s.moduleLines tier options) := by
  have htitle : Plain 1 (tier.title ++ " Complexity").toList := by cases tier <;> decide
  refine rel_bind (rel_shareLine _ _ _) fun title line h => ?_
  refine rel_bind (R := Outlines) (rel_mapM fun m _ => ?_) fun modules lines hmodules => ?_
  · rw [shareLine_eq]
    cases hshare : shareText m.2 s.total with
    | none => exact .none
    | some text =>
      exact .some ⟨rfl, by decide, (plain_shareText hshare).bare⟩
  · refine .some (.append (.cons (Line.writes_fixed (by decide)) (.cons ?_ .nil)) hmodules)
    refine writes_titled (titleStyle_colour tier) htitle ⟨?_, h.2⟩
    have hend : " Complexity[/" = " Complexity" ++ "[/" := rfl
    rw [h.1, hend]
    simp only [String.append_assoc]

theorem outlines_fixed {lines : List String} (h : ∀ line ∈ lines, Plain 1 line.toList) :
    Outlines (lines.map .fixed) lines := by
  induction lines with
  | nil => exact .nil
  | cons line lines ih =>
    obtain ⟨hline, hlines⟩ := List.forall_mem_cons.1 h
    exact .cons (Line.writes_fixed hline) (ih hlines)

theorem plain_factorLines (a : Assessment) : ∀ line ∈ a.factorLines, Plain 1 line.toList := by
  have hcount : ∀ label : String, Plain 1 label.toList → ∀ n : Int,
      Plain 1 (label ++ toString n).toList := fun label hlabel n => by
    rw [String.toList_append]
    exact hlabel.append (plain_int n)
  have hflag : ∀ (isUsed : Bool) (line : String), Plain 1 line.toList →
      ∀ x ∈ (if isUsed then [line] else []), Plain 1 x.toList := by
    intro isUsed line hline x hx
    cases isUsed with
    | false => cases hx
    | true => rwa [List.mem_singleton.1 hx]
  intro line hline
  simp only [Assessment.factorLines, List.mem_append, List.mem_cons, List.not_mem_nil, or_false]
    at hline
  rcases hline with (((rfl | rfl | rfl | rfl) | hline) | hline) | hline
  · decide
  · exact hcount _ (by decide) _
  · exact hcount _ (by decide) _
  · exact hcount _ (by decide) _
  · exact hflag _ _ (by decide) _ hline
  · exact hflag _ _ (by decide) _ hline
  · exact hflag _ _ (by decide) _ hline

theorem outlines_lines (a : Assessment) (withFactors : Bool) :
    Outlines (a.outline withFactors) (a.lines withFactors) := by
  refine .append (.cons (Line.writes_fixed (by decide)) (.cons (Line.writes_carrying (by decide) _)
    (.cons (Line.writes_carrying (by decide) _) (.cons (writes_int (by decide) _) .nil)))) ?_
  split
  · exact outlines_fixed (plain_factorLines a)
  · exact .nil

theorem outlines_detailLines (s : Section) (tier : Tier) :
    Outlines (s.detailOutline tier) (s.detailLines tier) := by
  have htitle : Plain 1 (tier.heading ++ " Complexity Components:").toList := by
    cases tier <;> decide
  refine .append (.cons (Line.writes_fixed (by decide)) (.cons ?_
    (.cons (Line.writes_fixed (by decide)) .nil))) (.flatMap fun group _ => ?_)
  · refine writes_titled titleStyle_bold htitle ⟨?_, by decide⟩
    simp only [String.append_empty, String.append_assoc]
    rfl
  · exact .append (.cons (Line.writes_fixed (by decide))
      (.cons (Line.writes_carrying (by decide) _) .nil))
      (.flatMap fun a _ => outlines_lines a _)

theorem outlines_breakdown (b : Breakdown) (options : Int) :
    Option.Rel Outlines (b.outline options) (b.lines options) := by
  refine rel_bind (R := List.Forall₂ Outlines)
    (rel_mapM fun t _ => outlines_moduleLines (b.forTier t) t options) fun tiers lines h => ?_
  have hempty : Outlines [.fixed ""] [""] := .cons (Line.writes_fixed (by decide)) .nil
  have hbreakdown : Outlines [.fixed "", .fixed "Breakdown:"] ["", "Breakdown:"] :=
    .cons (Line.writes_fixed (by decide)) (.cons (Line.writes_fixed (by decide)) .nil)
  exact .some ((((((hempty.append (outlines_titleLines (by decide) (by decide))).append
    hbreakdown).append (.flatten h)).append hempty).append
    (outlines_titleLines (by decide) (by decide))).append
    (.flatMap fun t _ => outlines_detailLines (b.forTier t) t))

/-- The markup of the outline is the overview. -/
theorem outlines_overview (s : Summary) : Option.Rel Outlines s.outline s.overview := by
  refine rel_bind (outlines_countLines s) fun counts lines hcounts => ?_
  cases s.complexity with
  | none => exact .some hcounts
  | some b =>
    exact rel_bind (outlines_breakdown b s.options) fun rest lines hrest =>
      .some (hcounts.append hrest)

/-- **The report shows what is put into it.**  Rendering its lines never fails, and what is written
is what is shown for each of them: the line itself, and where it carries a text from outside, its
label, that text and what follows, up to the backslashes of the text if it has any.  Only a code
that stands for an emoji of the console, in a line with a text from outside, is not shown as it
is. -/
theorem people_shows (emoji : EmojiTable) (s : Summary) (width : Option Nat) :
    match s.outline with
    | none => Format.people emoji width s = .error .shareTooLarge
    | some lines => ∃ shown, List.Forall₂ (Line.ShownAs emoji) lines shown ∧
        Format.people emoji width s = .ok (String.ofList (shown.flatMap (printed width))) := by
  have houtlines := outlines_overview s
  rw [Format.people]
  generalize s.outline = outline?, s.overview = lines? at houtlines
  cases houtlines with
  | none => rfl
  | some h =>
    obtain ⟨rfl, hsound⟩ := h.eq_map
    obtain ⟨shown, hshown, hprinted⟩ := Line.printedAll_markup hsound width
    refine ⟨shown, hshown, ?_⟩
    dsimp only
    rw [hprinted]

end ComponentCensus
