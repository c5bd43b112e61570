import ComponentCensus.Proofs.Report.Groups
import ComponentCensus.Proofs.Report.Output

/-!
# The shares of a report

A report shows shares of three kinds: those of the styles in all components, those of the tiers in
the options components, and those of the modules in a tier.  The numbers come from counters that are
kept apart, and a share of any two numbers can be asked for, so it is the counts of a census that
keep every part within its whole.

* `Item`, `Summary.items` — the lines of the report with their shares not yet written.
  `overview_eq_mapM_items` says that the report is made of them, one after the other.
* `Item.Sound` — a part that is within its whole; `Summary.Describes.items_sound` says that the
  shares of a census are such.
* `census_shares` — so the report of a census can be written, and every share in it lies between
  zero and a hundred percent.
-/

set_option autoImplicit false

namespace ComponentCensus

/-! ## Lines whose shares are not yet written -/

/-- A line of the report, its share not yet written. -/
inductive Item where
  /-- A line without a share. -/
  | line (markup : String)
  /-- A line with a count and its share in a whole. -/
  | share (label : String) (part whole : Int)

/-- The line, if its share can be written. -/
def Item.markup? : Item → Option String
  | line markup => some markup
  | share label part whole => shareLine label part whole

/-- The counts of the styles. -/
def Summary.countItems (s : Summary) : List Item :=
  ([""] ++ titleLines "SFC Analysis" "============" ++
    ["Total SFCs: " ++ toString s.total]).map .line ++
  [.share "Options API SFCs" s.options s.total, .share "Composition API SFCs" s.composition s.total,
    .share "Template-only SFCs" s.templateOnly s.total,
    .share "Unclassified SFCs" s.unclassified s.total] ++
  (if 0 < s.unclassified then ["Example unclassified SFC: " ++ embedded s.exampleUnclassified]
    else []).map .line

/-- The modules of a tier. -/
def Section.moduleItems (s : Section) (tier : Tier) (options : Int) : List Item :=
  [.line "", .share
    ("[" ++ tier.colour ++ "]" ++ tier.title ++ " Complexity[/" ++ tier.colour ++ "]")
    s.total options] ++
  s.modules.map fun m => .share ("    " ++ embedded m.1) m.2 s.total

/-- The complexity part of the report. -/
def Breakdown.items (b : Breakdown) (options : Int) : List Item :=
  ([""] ++ titleLines "Complexity Analysis" "==================" ++ ["", "Breakdown:"]).map .line ++
  Tier.all.flatMap (fun t => (b.forTier t).moduleItems t options) ++
  ([""] ++ titleLines "Detailed Component List" "=====================" ++
    Tier.all.flatMap fun t => (b.forTier t).detailLines t).map .line

/-- The lines of the report. -/
def Summary.items (s : Summary) : List Item :=
  s.countItems ++ (s.complexity.map fun b => b.items s.options).getD []

/-! ### The report is made of these lines -/

theorem mapM_line (lines : List String) : (lines.map Item.line).mapM Item.markup? = some lines := by
  induction lines with
  | nil => rfl
  | cons line lines ih =>
    rw [List.map_cons, List.mapM_cons, ih]
    rfl

theorem mapM_flatMap {α β γ : Type} (f : α → List β) (g : β → Option γ) (xs : List α) :
    (xs.flatMap f).mapM g = (xs.mapM fun x => (f x).mapM g).map List.flatten := by
  induction xs with
  | nil => rfl
  | cons x xs ih =>
    rw [List.flatMap_cons, List.mapM_append, List.mapM_cons, ih]
    cases (f x).mapM g with
    | none => rfl
    | some ys => cases xs.mapM fun x => (f x).mapM g <;> rfl

theorem Summary.countLines_eq_mapM (s : Summary) :
    s.countLines = s.countItems.mapM Item.markup? := by
  simp only [Summary.countLines, Summary.countItems, List.mapM_append, mapM_line, List.mapM_cons,
    List.mapM_nil, Item.markup?, Option.bind_eq_bind, Option.pure_def, Option.bind_some,
    Option.bind_assoc]

theorem Section.moduleLines_eq_mapM (s : Section) (tier : Tier) (options : Int) :
    s.moduleLines tier options = (s.moduleItems tier options).mapM Item.markup? := by
  simp only [Section.moduleLines, Section.moduleItems, List.mapM_append, List.mapM_cons,
    List.mapM_nil, List.mapM_map, Item.markup?, Option.bind_eq_bind, Option.pure_def,
    Option.bind_some, Option.bind_assoc]
  rfl

theorem Breakdown.lines_eq_mapM (b : Breakdown) (options : Int) :
    b.lines options = (b.items options).mapM Item.markup? := by
  simp only [Breakdown.lines, Breakdown.items, List.mapM_append, mapM_line, mapM_flatMap,
    Section.moduleLines_eq_mapM, Option.bind_eq_bind, Option.pure_def, Option.bind_some,
    Option.bind_assoc, Option.map_eq_bind, Function.comp_apply, List.append_assoc]

/-- The report is made of its lines, one after the other, and of nothing else. -/
theorem overview_eq_mapM_items (s : Summary) : s.overview = s.items.mapM Item.markup? := by
  rw [Summary.overview, Summary.items, List.mapM_append, Summary.countLines_eq_mapM]
  cases s.complexity with
  | none => simp only [Option.map_none, Option.getD_none, List.mapM_nil, Option.pure_def,
      Option.bind_eq_bind, Option.bind_some, List.append_nil]
  | some b => simp only [Option.map_some, Option.getD_some, Breakdown.lines_eq_mapM]

/-! ## The shares of a census -/

/-- The part of a share is within its whole. -/
def Item.Sound : Item → Prop
  | line _ => True
  | share _ part whole => 0 ≤ part ∧ part ≤ whole

/-- What is written for a line: a share as a number of hundredths of a percent, at most ten
thousand. -/
def Item.WrittenAs : Item → String → Prop
  | line markup, written => written = markup
  | share label part whole, written => ∃ n ≤ 10000,
    Number.percentage part whole = some (Number.Binary64.pointed 2 n ++ "%") ∧
      written =
        label ++ ": " ++ toString part ++ " (" ++ (Number.Binary64.pointed 2 n ++ "%") ++ ")"

theorem Item.Sound.exists_writtenAs {item : Item} (h : item.Sound) :
    ∃ written, item.markup? = some written ∧ item.WrittenAs written := by
  cases item with
  | line markup => exact ⟨markup, rfl, rfl⟩
  | share label part whole =>
    obtain ⟨hpart, hwhole⟩ := h
    lift part to Nat using hpart
    lift whole to Nat using Int.le_trans (Int.natCast_nonneg part) hwhole
    obtain ⟨n, hn, hshare⟩ := Number.exists_percentage_eq (Int.ofNat_le.1 hwhole)
    refine ⟨_, ?_, n, hn, hshare, rfl⟩
    rw [Item.markup?, shareLine, hshare, Option.map_some]

theorem sound_of_mem_map_line {lines : List String} {item : Item}
    (h : item ∈ lines.map Item.line) : item.Sound := by
  obtain ⟨line, -, rfl⟩ := List.mem_map.1 h
  trivial

section
variable {scoring : Option Scoring} {cs : List Component} {s : Summary}

theorem Summary.Describes.countItems_sound (h : s.Describes scoring cs) :
    ∀ item ∈ s.countItems, item.Sound := by
  have hstyle : ∀ (label : String) style,
      (Item.share label ((ofStyle style cs).length : Int) (cs.length : Int)).Sound :=
    fun label style => ⟨Int.natCast_nonneg _, Int.ofNat_le.2 (List.length_filter_le _ _)⟩
  intro item hitem
  rcases List.mem_append.1 hitem with hitem | hitem
  · rcases List.mem_append.1 hitem with hitem | hitem
    · exact sound_of_mem_map_line hitem
    · rw [h.total, h.options, h.composition, h.templateOnly, h.unclassified] at hitem
      simp only [List.mem_cons, List.not_mem_nil, or_false] at hitem
      rcases hitem with rfl | rfl | rfl | rfl
      · exact hstyle _ _
      · exact hstyle _ _
      · exact hstyle _ _
      · exact hstyle _ _
  · exact sound_of_mem_map_line hitem

/-- The modules of a section whose table belongs to its assessments are within the section, and the
section is within what it is a part of. -/
theorem Section.moduleItems_sound {s : Section} {options : Nat}
    (hmodules : s.modules = moduleCounts (s.details.map Assessment.moduleName))
    (htotal : s.total = s.details.length) (hle : s.details.length ≤ options) (tier : Tier) :
    ∀ item ∈ s.moduleItems tier options, item.Sound := by
  intro item hitem
  rw [Section.moduleItems, htotal, hmodules, moduleCounts] at hitem
  simp only [List.mem_append, List.mem_cons, List.not_mem_nil, or_false, List.map_map,
    List.mem_map] at hitem
  rcases hitem with (rfl | rfl) | ⟨name, -, rfl⟩
  · trivial
  · exact ⟨Int.natCast_nonneg _, Int.ofNat_le.2 hle⟩
  · have hcount := List.count_le_length (a := name) (l := s.details.map Assessment.moduleName)
    rw [List.length_map] at hcount
    exact ⟨Int.natCast_nonneg _, Int.ofNat_le.2 hcount⟩

/-- The shares of a census are those of parts within their wholes. -/
theorem Summary.Describes.items_sound (h : s.Describes scoring cs) :
    ∀ item ∈ s.items, item.Sound := by
  intro item hitem
  rcases List.mem_append.1 hitem with hitem | hitem
  · exact h.countItems_sound item hitem
  · cases scoring with
    | none =>
      rw [h.unscored rfl] at hitem
      cases hitem
    | some sc =>
      obtain ⟨b, hb, hsections, -⟩ := h.sections sc rfl
      rw [hb, Option.map_some, Option.getD_some] at hitem
      rcases List.mem_append.1 hitem with hitem | hitem
      · rcases List.mem_append.1 hitem with hitem | hitem
        · exact sound_of_mem_map_line hitem
        · obtain ⟨tier, -, hitem⟩ := List.mem_flatMap.1 hitem
          obtain ⟨hdetails, hmodules, htotal⟩ := hsections tier
          rw [h.options] at hitem
          refine Section.moduleItems_sound hmodules htotal ?_ tier item hitem
          rw [hdetails]
          exact Nat.le_trans (List.length_filter_le _ _) (Nat.le_of_eq (List.length_map _))
      · exact sound_of_mem_map_line hitem

end

/-- **The report of a census can be written, and its shares are shares.**  The report is made of its
lines.  Where a line asks for a share, the part is within its whole, so a share in an empty whole
hides nothing; the share can be written, and lies between zero and a hundred percent.  So both ways
to ask for the report give one. -/
theorem census_shares (scoring : Option Scoring) (cs : List Component)
    (emoji : Console.EmojiTable) :
    (census scoring cs).overview = (census scoring cs).items.mapM Item.markup? ∧
    (∀ label part whole, .share label part whole ∈ (census scoring cs).items →
      0 ≤ part ∧ part ≤ whole ∧ (whole = 0 → part = 0)) ∧
    (∃ lines, (census scoring cs).overview = some lines ∧
      List.Forall₂ Item.WrittenAs (census scoring cs).items lines) ∧
    ∃ formatted written, Format.text.format (census scoring cs) emoji = .ok formatted ∧
      Format.text.output (census scoring cs) emoji = .ok written := by
  have hsound := (census_describes scoring cs).items_sound
  obtain ⟨lines, hlines, hwritten⟩ :=
    exists_mapM_eq_some fun item hitem => (hsound item hitem).exists_writtenAs
  have hoverview := (overview_eq_mapM_items (census scoring cs)).trans hlines
  refine ⟨overview_eq_mapM_items _, fun label part whole hmem => ?_,
    ⟨lines, hoverview, hwritten⟩, ?_⟩
  · obtain ⟨hpart, hwhole⟩ : 0 ≤ part ∧ part ≤ whole := hsound _ hmem
    exact ⟨hpart, hwhole, fun hempty => by omega⟩
  · cases houtline : (census scoring cs).outline with
    | none =>
      have hnone := (Format.people_of_outline_eq_none emoji houtline none).1
      exact absurd (hnone.symm.trans hoverview) (Option.some_ne_none lines).symm
    | some outline =>
      obtain ⟨shown, -, hpeople⟩ := Format.exists_people_eq houtline
      exact ⟨_, _, hpeople _, hpeople _⟩

end ComponentCensus
