import ComponentCensus.Proofs.Census.Accounts
import ComponentCensus.Proofs.Census.Rescoring
import ComponentCensus.Proofs.Files.Respelling

/-!
# Components by their paths

A scan hands on the paths of components as texts.  No two components of a scan have the same text,
and whoever reads such a text as a path and the file at that path gets the component that was
counted.

* `scan_result_eq_ok_iff`, `unclassifiedRecord_mem_records` — what a scan that comes to the end of
  its walk counts and records.
* `nodup_map_path_components` — every component of a scan has a path of its own.
* `readComponent_of_mem_finds` — reading the path of a component yields the component.
* `Summary.Describes.filter_path_assessments` — the breakdown holds one assessment with the path of
  an options component, and it is that of the component.
-/

set_option autoImplicit false

namespace ComponentCensus

section
variable {fs : FileSystem} {skip : List String} {extension : String} {root : Path}

/-- A scan gives a summary exactly if it comes to the end of its walk, and then it is the census of
the components read there. -/
theorem scan_result_eq_ok_iff {scoring : Option Scoring} {s : Summary} :
    (scan fs root skip extension scoring).result = .ok s ↔
      (walk fs root skip extension).failure = none ∧
        s = census scoring (walk fs root skip extension).components := by
  rw [scan_result_eq]
  cases (walk fs root skip extension).failure with
  | some failure => simp
  | none => simp [eq_comm]

/-- A scan that comes to its end leaves a diagnosis of every unclassified component. -/
theorem unclassifiedRecord_mem_records {scoring : Option Scoring}
    (hw : (walk fs root skip extension).failure = none) {c : Component}
    (hc : c ∈ ofStyle (some .unclassified) (walk fs root skip extension).components) :
    c.unclassifiedRecord ∈ (scan fs root skip extension scoring).records := by
  have hdiagnosis := List.mem_map_of_mem (f := Component.unclassifiedRecord) hc
  rw [← filter_isDiagnosis_events scoring] at hdiagnosis
  rw [scan_records_eq scoring hw]
  exact List.mem_append_left _ (List.mem_of_mem_filter hdiagnosis)

/-- The component that is read where a file is found has the path of the find. -/
theorem Find.path_of_component? {δ : Type} {f : Find δ} {c : Component}
    (h : f.component? = some c) : c.path = f.path.text := by
  unfold Find.component? at h
  split at h
  · cases h
    rfl
  · cases h

/-- Every component of a scan has a path of its own. -/
theorem nodup_map_path_components (hw : (walk fs root skip extension).failure = none)
    (hnames : fs.ListsNames) (hroot : root.Named) :
    ((walk fs root skip extension).components.map Component.path).Nodup := by
  have hpaths : (walk fs root skip extension).paths.Nodup := by
    by_cases hskip : root.name ∈ skip
    · rw [walk_of_mem_skip hskip]
      exact List.nodup_nil
    · obtain ⟨start, hlists⟩ := exists_lists hskip hw
      exact (covers_of_failure_eq_none hskip hlists hw).paths_nodup
  have htexts : ((walk fs root skip extension).finds.map fun f => f.path.text).Nodup := by
    rw [Walk.paths_eq_map_finds] at hpaths
    refine List.Nodup.map_on (fun f hf g hg htext => ?_) (List.Nodup.of_map _ hpaths)
    obtain ⟨_, -, hf'⟩ := exists_placed hf
    obtain ⟨_, -, hg'⟩ := exists_placed hg
    refine List.inj_on_of_nodup_map hpaths hf hg ?_
    rw [← Path.ofString_text (hf'.named hnames hroot), htext,
      Path.ofString_text (hg'.named hnames hroot)]
  refine htexts.sublist ?_
  rw [Walk.components]
  generalize (walk fs root skip extension).finds = finds
  induction finds with
  | nil => exact .slnil
  | cons f finds ih =>
    cases hc : f.component? with
    | none =>
      rw [List.filterMap_cons_none hc]
      exact ih.cons _
    | some c =>
      rw [List.filterMap_cons_some hc, List.map_cons, List.map_cons, Find.path_of_component? hc]
      exact ih.cons_cons _

/-- **Reading the path of a component of a scan yields the component**, where the path is followed
to the entry at which it was found. -/
theorem readComponent_of_mem_finds (hnames : fs.ListsNames) (hroot : root.Named)
    {f : Find fs.Directory}
    (hf : f ∈ (walk fs root skip extension).finds) (hfollowed : f.Followed fs) {c : Component}
    (hcomponent : f.component? = some c) :
    readComponent fs (Path.ofString f.path.text) = .ok c := by
  obtain ⟨start, -, hplaced⟩ := exists_placed hf
  have hread := hplaced.readComponent hfollowed
  rw [hcomponent] at hread
  rw [Path.ofString_text (hplaced.named hnames hroot)]
  cases hresult : readComponent fs f.path with
  | error failure =>
    rw [hresult] at hread
    cases hread
  | ok c' =>
    rw [hresult] at hread
    cases hread
    rfl

end

/-- A member of a list on which a function is injective is the only one with its value. -/
theorem filter_eq_singleton_of_nodup {α : Type} {f : α → String} {l : List α}
    (h : (l.map f).Nodup) {x : α} (hx : x ∈ l) : (l.filter fun y => f y = f x) = [x] := by
  induction l with
  | nil => cases hx
  | cons y l ih =>
    obtain ⟨hy, hl⟩ := List.nodup_cons.1 h
    rcases List.mem_cons.1 hx with rfl | hx
    · have hnone : (l.filter fun z => f z = f x) = [] :=
        List.filter_eq_nil_iff.2 fun z hz heq =>
          hy (List.mem_map.2 ⟨z, hz, of_decide_eq_true heq⟩)
      rw [List.filter_cons_of_pos (by simp), hnone]
    · have hne : f y ≠ f x := fun heq => hy (heq ▸ List.mem_map_of_mem hx)
      rw [List.filter_cons_of_neg (by simpa using hne), ih hl hx]

/-- The breakdown holds one assessment with the path of an options component, and it is that of the
component. -/
theorem Summary.Describes.filter_path_assessments {sc : Scoring} {cs : List Component}
    {s : Summary} (h : s.Describes (some sc) cs) (hnodup : (cs.map Component.path).Nodup)
    {b : Breakdown} (hb : s.complexity = some b) {c : Component} (hc : c ∈ cs)
    (hstyle : c.style? = some .options) :
    (b.assessments.filter fun a => a.path = c.path) = [c.assess sc] ∧
      c.assess sc ∈ (b.forTier (c.assess sc).tier).details := by
  obtain ⟨b', hb', -, hperm⟩ := h.exists_breakdown
  obtain rfl : b = b' := Option.some.inj (hb.symm.trans hb')
  have hmem : c ∈ ofStyle (some .options) cs :=
    List.mem_filter.2 ⟨hc, decide_eq_true hstyle⟩
  have honly : ((ofStyle (some .options) cs).filter fun c' => c'.path = c.path) = [c] :=
    filter_eq_singleton_of_nodup (hnodup.sublist (List.filter_sublist.map _)) hmem
  constructor
  · have hfiltered := hperm.filter fun a => a.path = c.path
    rw [List.filter_map] at hfiltered
    have hassessed : (((ofStyle (some .options) cs).filter fun c' => c'.path = c.path).map
        fun c' => c'.assess sc) = [c.assess sc] := by rw [honly, List.map_singleton]
    exact List.perm_singleton.1 (hfiltered.trans (.of_eq hassessed))
  · obtain ⟨b', hb', hsections, -⟩ := h.sections sc rfl
    obtain rfl : b = b' := Option.some.inj (hb.symm.trans hb')
    rw [(hsections _).1]
    exact List.mem_filter.2 ⟨List.mem_map_of_mem hmem, decide_eq_true rfl⟩

end ComponentCensus
