import ComponentCensus.Proofs.Console.Wrapping
import ComponentCensus.Proofs.Report.Overview

/-!
# The report as a text and on the standard output

Both ways to ask for the report render the same lines.  For machines they give the same text up to
a line end; for people, the text has its lines broken at 200 columns and the standard output has
not.

* `exists_people_eq` — the texts of the report do not depend on the width.
* `Format.output_eq_format_iff` — the two reports for people are the same exactly if every line
  that is written fits.
* `output_ne_format_of_wide_line` — one line that is too wide makes them differ, whatever it is: a
  path, the name of a file or a module, or the example.
-/

set_option autoImplicit false

namespace ComponentCensus

namespace Format

open Console

variable {emoji : EmojiTable}

/-- The report for people is made of the same texts for all widths. -/
theorem exists_people_eq {s : Summary} {lines : List Line} (h : s.outline = some lines) :
    ∃ shown, List.Forall₂ (Line.ShownAs emoji) lines shown ∧
      ∀ width, people emoji width s = .ok (String.ofList (shown.flatMap (printed width))) := by
  have houtlines := outlines_overview s
  simp only [people]
  rw [h] at houtlines
  generalize s.overview = overview? at houtlines
  cases houtlines with
  | some hlines =>
    obtain ⟨rfl, hsound⟩ := hlines.eq_map
    obtain ⟨shown, hshown, heq⟩ := Line.shownAll_markup hsound
    refine ⟨shown, hshown, fun width => ?_⟩
    simp only [printedAll_eq, heq]
    rfl

variable (emoji) in
/-- There is no report for people exactly if a share cannot be written. -/
theorem people_of_outline_eq_none {s : Summary} (h : s.outline = none) (width : Option Nat) :
    s.overview = none ∧ people emoji width s = .error .shareTooLarge := by
  have houtlines := outlines_overview s
  rw [h] at houtlines
  have hnone : s.overview = none := by
    generalize s.overview = overview? at houtlines
    cases houtlines with
    | none => rfl
  exact ⟨hnone, by simp only [people, hnone]⟩

/-- The two reports for people are the same exactly if every line that is written fits. -/
theorem ofList_printed_eq_iff {width : Nat} {shown : List (List Char)} :
    String.ofList (shown.flatMap (printed none)) =
        String.ofList (shown.flatMap (printed (some width))) ↔
      ∀ line ∈ Text.splitOn '\n' (shown.flatMap (printed none)), FitsOn width line := by
  rw [String.ofList_inj, eq_comm, printed_eq_iff_fitsOn]

/-- **The two reports for machines are the same up to a line end.  Those for people are the same
exactly if every line that is written fits on the columns of a formatted text; if every character
takes one column, that is if no line is longer.  Only a share that is too large keeps either from
being written.** -/
theorem output_eq_format_iff (emoji : EmojiTable) (s : Summary) :
    (∃ report, json.format s emoji = .ok report ∧
        json.output s emoji = .ok (report ++ "\n")) ∧
      ((s.overview = none ∧ text.format s emoji = .error .shareTooLarge ∧
          text.output s emoji = .error .shareTooLarge) ∨
        ∃ formatted written,
          text.format s emoji = .ok formatted ∧ text.output s emoji = .ok written ∧
          (written = formatted ↔
            ∀ line ∈ Text.splitOn '\n' written.toList, FitsOn textWidth line) ∧
          ((∀ c ∈ written.toList, c = '\n' ∨ Text.columnsOf c = 1) →
            (written = formatted ↔
              ∀ line ∈ Text.splitOn '\n' written.toList, line.length ≤ textWidth))) := by
  refine ⟨⟨_, rfl, rfl⟩, ?_⟩
  cases hlines : s.outline with
  | none =>
    obtain ⟨hnone, hformat⟩ := people_of_outline_eq_none emoji hlines (some textWidth)
    exact .inl ⟨hnone, hformat, (people_of_outline_eq_none emoji hlines none).2⟩
  | some lines =>
    obtain ⟨shown, -, hpeople⟩ := exists_people_eq hlines
    refine .inr ⟨_, _, hpeople _, hpeople _, ?_⟩
    simp only [String.toList_ofList, ofList_printed_eq_iff, true_and]
    refine fun hplain => forall₂_congr fun line hline => fitsOn_iff_length_le fun c hc => ?_
    refine (hplain c (Text.mem_of_mem_splitOn hline hc)).resolve_left ?_
    rintro rfl
    exact Text.not_mem_of_mem_splitOn hline hc

/-! ## Lines that are too wide -/

/-- Without backslashes and emoji, a line is shown as it is. -/
theorem eq_text_of_shownAs {l : Line} {shown : List Char} (h : l.ShownAs emoji shown)
    (hcode : emoji.Lacks l.text.toList) (hbackslash : '\\' ∉ l.text.toList) :
    shown = l.text.toList := by
  cases l with
  | fixed text => exact h
  | titled style title rest => exact h
  | carrying label value suffix =>
    have hfilter : (Line.carrying label value suffix).text.toList.filter (· ≠ '\\') =
        (Line.carrying label value suffix).text.toList :=
      List.filter_eq_self.2 fun c hc => decide_eq_true fun heq => hbackslash (heq ▸ hc)
    rw [Line.ShownAs, hfilter] at h
    refine (h hcode).2 fun hmem => hbackslash ?_
    simp [Line.text, hmem]

/-- A line of visible characters that is too wide for a formatted text makes the two reports for
people differ, wherever it stands. -/
theorem output_ne_format_of_wide_line {s : Summary} {lines : List Line}
    (hlines : s.outline = some lines) {l : Line} (hl : l ∈ lines) (hvisible : Visible l.text.toList)
    (hend : '\n' ∉ l.text.toList) (hbackslash : '\\' ∉ l.text.toList)
    (hcode : emoji.Lacks l.text.toList) (hwide : textWidth < cells l.text.toList) :
    text.output s emoji ≠ text.format s emoji := by
  obtain ⟨shown, hshown, hpeople⟩ := exists_people_eq hlines
  intro hsame
  rw [output, format, hpeople, hpeople, Except.ok.injEq, ofList_printed_eq_iff, splitOn_printed]
    at hsame
  have hrow : l.text.toList ∈ shown := by
    clear hlines hpeople hsame
    induction hshown with
    | nil => cases hl
    | @cons l' row lines shown hfirst hrest ih =>
      rcases List.mem_cons.1 hl with rfl | hl
      · rw [eq_text_of_shownAs hfirst hcode hbackslash]
        exact List.mem_cons_self
      · exact List.mem_cons_of_mem row (ih hl)
  have hline : l.text.toList ∈ shown.flatMap (screenLines none) :=
    List.mem_flatMap.2 ⟨_, hrow, by simp [screenLines_of_visible hvisible hend]⟩
  exact absurd (hsame _ (List.mem_append_left _ hline)).columns (Nat.not_le.2 hwide)

/-- The line of the example is in the report if there is one. -/
theorem example_mem_outline {s : Summary} {lines : List Line} (hlines : s.outline = some lines)
    (h : 0 < s.unclassified) :
    .carrying "Example unclassified SFC: " s.exampleUnclassified "" ∈ lines := by
  simp only [Summary.outline, Option.bind_eq_bind, Option.bind_eq_some_iff] at hlines
  obtain ⟨counts, hcounts, hlines⟩ := hlines
  have hmem : .carrying "Example unclassified SFC: " s.exampleUnclassified "" ∈ counts := by
    simp only [Summary.countOutline, Option.bind_eq_bind, Option.bind_eq_some_iff, if_pos h]
      at hcounts
    obtain ⟨_, _, _, _, _, _, _, _, hcounts⟩ := hcounts
    cases hcounts
    simp
  split at hlines
  · cases hlines
    exact hmem
  · obtain ⟨rest, -, hlines⟩ := Option.bind_eq_some_iff.1 hlines
    cases hlines
    exact List.mem_append_left rest hmem

/-- A summary whose example takes a line of 226 characters. -/
def longExample : Summary :=
  { total := 1, unclassified := 1, exampleUnclassified := String.ofList (List.replicate 200 'x') }

/-- The line with the example is broken in the formatted text, and not on the standard output. -/
theorem output_ne_format_longExample : text.output longExample ≠ text.format longExample := by
  obtain ⟨lines, hlines⟩ : ∃ lines, longExample.outline = some lines := ⟨_, rfl⟩
  have htext : (Line.carrying "Example unclassified SFC: " longExample.exampleUnclassified
      "").text.toList = "Example unclassified SFC: ".toList ++ List.replicate 200 'x' := by
    have hexample : longExample.exampleUnclassified.toList = List.replicate 200 'x' :=
      String.toList_ofList
    rw [Line.text, String.append_empty, String.toList_append, hexample]
  refine output_ne_format_of_wide_line hlines (example_mem_outline hlines (by decide)) ?_ ?_ ?_
    (EmojiTable.lacks_empty _) ?_
  all_goals
    rw [htext]
    decide +kernel

end Format
end ComponentCensus
