import Mathlib.Data.List.Perm.Basic
import ComponentCensus.Proofs.Census.Session
import ComponentCensus.Proofs.Number.Percentage

/-!
# The two parts of the report about a tier

A tier is reported twice: the breakdown lists its modules with their counts, which were kept while
the components were counted, and the detailed list groups the assessments by module afterwards.
Both go through the assessments in order, so they list the same modules in the same order, and the
counts are the sizes of the groups.

* `groupByModule_eq`, `perm_flatMap_groupByModule` — the groups of some assessments.
* `moduleCounts_eq_groups` — the table of counts is that of the sizes of the groups.
* `shareLine_of_le` — a part that does not exceed the whole has a line, so the report of a census
  can always be written.
* `Section.Lists`, `answers_result_lists` — what the two parts of a report list.
-/

set_option autoImplicit false

namespace ComponentCensus

/-! ## Groups -/

theorem addToGroups_eq (a : Assessment) (groups : List (String × List Assessment)) :
    addToGroups a groups = alterEntry a.moduleName [a] (· ++ [a]) groups := by
  induction groups with
  | nil => rfl
  | cons group groups ih => rw [addToGroups, alterEntry, ih]

theorem groupByModule_concat (records : List Assessment) (a : Assessment) :
    groupByModule (records ++ [a]) = addToGroups a (groupByModule records) := by
  rw [groupByModule, List.foldl_append, List.foldl_cons, List.foldl_nil, ← groupByModule]

/-- There is a group for each module, in the order in which these are first seen, and it holds the
assessments of the module in their order. -/
theorem groupByModule_eq (records : List Assessment) :
    groupByModule records = (records.map Assessment.moduleName).eraseDups.map fun name =>
      (name, records.filter fun a => a.moduleName = name) := by
  induction records using List.reverseRecOn with
  | nil => rfl
  | append_singleton records a ih =>
    rw [groupByModule_concat, ih, addToGroups_eq, List.map_append, List.map_singleton]
    refine alterEntry_eraseDups (fun n hn => ?_) (fun hnew => ?_) (fun _ => ?_)
    · simp [List.filter_append, Ne.symm hn]
    · have hnone : ∀ b ∈ records, b.moduleName ≠ a.moduleName := fun b hb heq =>
        hnew (heq ▸ List.mem_map_of_mem hb)
      simpa [List.filter_append] using hnone
    · simp [List.filter_append]

theorem perm_flatMap_addToGroups (a : Assessment) (groups : List (String × List Assessment)) :
    ((addToGroups a groups).flatMap Prod.snd).Perm (groups.flatMap Prod.snd ++ [a]) := by
  induction groups with
  | nil => exact .refl _
  | cons group groups ih =>
    rw [addToGroups]
    split
    · simp only [List.flatMap_cons, List.append_assoc]
      exact (List.perm_append_comm).append_left group.2
    · simp only [List.flatMap_cons, List.append_assoc]
      exact ih.append_left group.2

/-- The groups hold every assessment once. -/
theorem perm_flatMap_groupByModule (records : List Assessment) :
    ((groupByModule records).flatMap Prod.snd).Perm records := by
  induction records using List.reverseRecOn with
  | nil => exact .refl _
  | append_singleton records a ih =>
    rw [groupByModule_concat]
    exact (perm_flatMap_addToGroups a _).trans (ih.append_right [a])

/-- The counts of the modules are the sizes of the groups. -/
theorem moduleCounts_eq_groups (records : List Assessment) :
    moduleCounts (records.map Assessment.moduleName) =
      (groupByModule records).map fun group => (group.1, (group.2.length : Int)) := by
  rw [moduleCounts, groupByModule_eq, List.map_map]
  refine List.map_congr_left fun name _ => ?_
  have hcount : (records.map Assessment.moduleName).count name =
      (records.filter fun a => a.moduleName = name).length := by
    rw [List.count_eq_countP, List.countP_map, List.countP_eq_length_filter]
    rfl
  rw [Function.comp_apply, hcount]

/-! ## Lines with shares -/

/-- A part that does not exceed the whole has a line with its share. -/
theorem shareLine_of_le {part whole : Nat} (h : part ≤ whole) (label : String) :
    ∃ share, shareLine label part whole =
      some (label ++ ": " ++ toString (part : Int) ++ " (" ++ share ++ ")") := by
  obtain ⟨share, hshare⟩ := Option.ne_none_iff_exists'.1 (Number.percentage_ne_none h)
  exact ⟨share, by rw [shareLine, hshare, Option.map_some]⟩

theorem exists_mapM_eq_some {α β : Type} {R : α → β → Prop} {f : α → Option β} {xs : List α}
    (h : ∀ x ∈ xs, ∃ y, f x = some y ∧ R x y) :
    ∃ ys, xs.mapM f = some ys ∧ List.Forall₂ R xs ys := by
  induction xs with
  | nil => exact ⟨[], rfl, .nil⟩
  | cons x xs ih =>
    obtain ⟨⟨y, hy, hxy⟩, hxs⟩ := List.forall_mem_cons.1 h
    obtain ⟨ys, hys, hall⟩ := ih hxs
    exact ⟨y :: ys, by rw [List.mapM_cons, hy, hys]; rfl, .cons hxy hall⟩

/-! ## What the report lists -/

/-- The line is an entry of the breakdown: the name of a module, the number of its components and a
share. -/
def IsEntry (name : String) (count : Int) (entry : String) : Prop :=
  ∃ share, entry = "    " ++ embedded name ++ ": " ++ toString count ++ " (" ++ share ++ ")"

/-- The two parts of the report about a tier list the same groups: the lines of the breakdown have
below their title one entry for each group, with its module and its size, and the lines of the
detailed list have below their heading the module of each group and its components. -/
structure Section.Lists (s : Section) (tier : Tier) (listed : List String) : Prop where
  modules : s.modules = (groupByModule s.details).map fun group => (group.1, (group.2.length : Int))
  breakdown : ∃ title entries, listed = ["", title] ++ entries ∧
    List.Forall₂ (fun group entry => IsEntry group.1 group.2.length entry)
      (groupByModule s.details) entries
  details : s.detailLines tier =
    ["", "[bold]" ++ tier.heading ++ " Complexity Components:[/bold]",
      "========================="] ++
      (groupByModule s.details).flatMap fun group =>
        ["", "Module: " ++ embedded group.1] ++
          group.2.flatMap fun a => a.lines (decide (tier = .high))

/-- The complexity part of the report, given what the breakdown says about each tier. -/
def Breakdown.linesWith (b : Breakdown) (listed : Tier → List String) : List String :=
  [""] ++ titleLines "Complexity Analysis" "==================" ++ ["", "Breakdown:"] ++
    Tier.all.flatMap listed ++ [""] ++
    titleLines "Detailed Component List" "=====================" ++
    Tier.all.flatMap fun t => (b.forTier t).detailLines t

theorem Breakdown.lines_eq {b : Breakdown} {options : Int} {listed : Tier → List String}
    (h : ∀ t, (b.forTier t).moduleLines t options = some (listed t)) :
    b.lines options = some (b.linesWith listed) := by
  simp only [Breakdown.lines, h]
  rfl

theorem length_le_of_mem_groupByModule {records : List Assessment}
    {group : String × List Assessment} (h : group ∈ groupByModule records) :
    group.2.length ≤ records.length := by
  rw [groupByModule_eq] at h
  obtain ⟨name, -, rfl⟩ := List.mem_map.1 h
  exact List.length_filter_le _ _

/-- A section whose table belongs to its assessments can be written. -/
theorem Section.exists_moduleLines {s : Section} {options : Nat}
    (hmodules : s.modules = moduleCounts (s.details.map Assessment.moduleName))
    (htotal : s.total = s.details.length) (hle : s.details.length ≤ options) (tier : Tier) :
    ∃ listed, s.moduleLines tier options = some listed ∧ s.Lists tier listed := by
  have hgroups := hmodules.trans (moduleCounts_eq_groups s.details)
  obtain ⟨title, htitle⟩ : ∃ title, shareLine
      ("[" ++ tier.colour ++ "]" ++ tier.title ++ " Complexity[/" ++ tier.colour ++ "]")
      s.total options = some title := by
    obtain ⟨_, htitle⟩ := shareLine_of_le hle
      ("[" ++ tier.colour ++ "]" ++ tier.title ++ " Complexity[/" ++ tier.colour ++ "]")
    exact ⟨_, htotal ▸ htitle⟩
  obtain ⟨entries, hentries, hall⟩ : ∃ entries,
      (s.modules.mapM fun m => shareLine ("    " ++ embedded m.1) m.2 s.total) = some entries ∧
        List.Forall₂ (fun m entry => IsEntry m.1 m.2 entry) s.modules entries := by
    refine exists_mapM_eq_some fun m hm => ?_
    rw [hgroups] at hm
    obtain ⟨group, hgroup, rfl⟩ := List.mem_map.1 hm
    obtain ⟨share, hshare⟩ :=
      shareLine_of_le (length_le_of_mem_groupByModule hgroup) ("    " ++ embedded group.1)
    exact ⟨_, htotal ▸ hshare, share, rfl⟩
  refine ⟨["", title] ++ entries, ?_, hgroups, ⟨title, entries, rfl, ?_⟩, rfl⟩
  · rw [Section.moduleLines, htitle]
    simp only [Option.bind_eq_bind, Option.bind_some, hentries]
    rfl
  · rw [hgroups] at hall
    exact List.forall₂_map_left_iff.1 hall

/-- The counts of a census can be written. -/
theorem Summary.Describes.exists_countLines {scoring : Option Scoring} {cs : List Component}
    {s : Summary} (h : s.Describes scoring cs) : ∃ counts, s.countLines = some counts := by
  have hshare : ∀ style label, ∃ share,
      shareLine label ((ofStyle style cs).length : Int) (cs.length : Int) = some share :=
    fun style label => by
      have hle : (ofStyle style cs).length ≤ cs.length := List.length_filter_le _ _
      obtain ⟨_, hline⟩ := shareLine_of_le hle label
      exact ⟨_, hline⟩
  obtain ⟨options, hoptions⟩ := hshare (some .options) "Options API SFCs"
  obtain ⟨composition, hcomposition⟩ := hshare (some .composition) "Composition API SFCs"
  obtain ⟨templateOnly, htemplateOnly⟩ := hshare (some .templateOnly) "Template-only SFCs"
  obtain ⟨unclassified, hunclassified⟩ := hshare (some .unclassified) "Unclassified SFCs"
  rw [Summary.countLines, h.total, h.options, h.composition, h.templateOnly, h.unclassified,
    hoptions, hcomposition, htemplateOnly, hunclassified]
  exact ⟨_, rfl⟩

/-- With a scoring, the report of a census can be written, and about each tier both parts list the
same groups. -/
theorem Summary.Describes.exists_overview {sc : Scoring} {cs : List Component} {s : Summary}
    (h : s.Describes (some sc) cs) :
    ∃ b counts listed, s.complexity = some b ∧ s.overview = some (counts ++ b.linesWith listed) ∧
      ∀ tier, (b.forTier tier).Lists tier (listed tier) := by
  obtain ⟨b, hb, hsections, -⟩ := h.sections sc rfl
  obtain ⟨counts, hcounts⟩ := h.exists_countLines
  have hlisted : ∀ tier, ∃ listed, (b.forTier tier).moduleLines tier s.options = some listed ∧
      (b.forTier tier).Lists tier listed := fun tier => by
    obtain ⟨hdetails, hmodules, htotal⟩ := hsections tier
    rw [h.options]
    refine Section.exists_moduleLines hmodules htotal ?_ tier
    rw [hdetails]
    exact Nat.le_trans (List.length_filter_le _ _) (Nat.le_of_eq (List.length_map _))
  choose listed hlines hlists using hlisted
  refine ⟨b, counts, listed, hb, ?_, hlists⟩
  rw [Summary.overview, hcounts, hb]
  simp only [Option.bind_eq_bind, Option.bind_some, Breakdown.lines_eq hlines]
  rfl

/-- **The two parts of the report about a tier agree.**  Grouping by module gives the modules in the
order in which they are first seen, each with its assessments in their order, and no assessment is
lost or repeated.  So whatever is asked of running totals with a scoring, a summary that they give
can be reported, and about each tier the breakdown and the detailed list have the same modules in
the same order, and each module is counted with the number of components listed under it. -/
theorem answers_result_lists (records : List Assessment) (sc : Scoring)
    (before later : List Request) :
    (groupByModule records = (records.map Assessment.moduleName).eraseDups.map fun name =>
      (name, records.filter fun a => a.moduleName = name)) ∧
    ((groupByModule records).flatMap Prod.snd).Perm records ∧
    ∃ s b counts listed,
      ((Session.start (some sc)).answers (before ++ .result :: later))[before.length]? =
        some (.summary s) ∧
      s.complexity = some b ∧ s.overview = some (counts ++ b.linesWith listed) ∧
      ∀ tier, (b.forTier tier).Lists tier (listed tier) := by
  refine ⟨groupByModule_eq records, perm_flatMap_groupByModule records, ?_⟩
  obtain ⟨b, counts, listed, hb, hoverview, hlists⟩ :=
    (census_describes (some sc) (addedBy before)).exists_overview
  refine ⟨census (some sc) (addedBy before), b, counts, listed, ?_, hb, hoverview, hlists⟩
  rw [Session.getElem?_answers, Session.serve, Session.tally_after]
  rfl

end ComponentCensus
