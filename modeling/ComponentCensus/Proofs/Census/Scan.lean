import ComponentCensus.Census.Scan
import ComponentCensus.Proofs.Census.Totals
import ComponentCensus.Proofs.Files.Relisting

/-!
# What a scan counts

A scan is a census of the component files that the walk finds and that can be read.  The walk
decides in which order they come, and if a directory has several names, also under which paths.

* `Walk.components`, `scan_result_eq` — a scan as a census.
* `Summary.SameCounts`, `Summary.SameBreakdown` — two summaries that agree on what does not depend
  on the order of the components.
* `scan_relist` — listing directories in another order changes nothing else.
-/

set_option autoImplicit false

namespace ComponentCensus

/-! ## Scans and walks -/

/-- The component that is read where a component file is found. -/
def Find.component? {δ : Type} (f : Find δ) : Option Component :=
  match f.bytes with
  | .ok bytes => some (componentOf f.path bytes)
  | .error _ => none

/-- The components that are read on a walk, in order. -/
def Walk.components {δ : Type} (w : Walk δ) : List Component :=
  w.finds.filterMap Find.component?

namespace Progress

variable {δ : Type}

/-- An event adds the component that is read there, if there is one. -/
theorem tally_step (p : Progress) (e : Event δ) :
    (p.step e).tally = (e.find?.bind Find.component?).toList.foldl Tally.add p.tally := by
  cases e with
  | found path directory name bytes => cases bytes <;> rfl
  | _ => rfl

theorem tally_foldl (p : Progress) (es : List (Event δ)) :
    (es.foldl step p).tally =
      ((es.filterMap Event.find?).filterMap Find.component?).foldl Tally.add p.tally := by
  induction es generalizing p with
  | nil => rfl
  | cons e es ih =>
    rw [List.foldl_cons, ih, tally_step, List.filterMap_filterMap, List.filterMap_filterMap,
      List.filterMap_cons]
    cases e.find?.bind Find.component? <;> rfl

end Progress

/-- A scan fails as its walk does; otherwise it is the census of the components read there. -/
theorem scan_result_eq (fs : FileSystem) (root : Path) (skip : List String) (extension : String)
    (scoring : Option Scoring) :
    (scan fs root skip extension scoring).result =
      match (walk fs root skip extension).failure with
      | some failure => .error failure
      | none => .ok (census scoring (walk fs root skip extension).components) := by
  simp only [scan]
  cases (walk fs root skip extension).failure with
  | some failure => rfl
  | none =>
    simp only [Progress.tally_foldl]
    rfl

/-- A scan gives a summary exactly if the walk comes to its end. -/
theorem exists_summary_iff (fs : FileSystem) (root : Path) (skip : List String)
    (extension : String) (scoring : Option Scoring) :
    (∃ s, (scan fs root skip extension scoring).result = .ok s) ↔ fs.Walkable skip root := by
  rw [scan_result_eq, ← failure_eq_none_iff_walkable extension]
  cases (walk fs root skip extension).failure with
  | some failure => simp
  | none => simp

/-! ## Summaries of the same components in another order -/

namespace Summary

/-- The two summaries agree on the counts. -/
structure SameCounts (s s' : Summary) : Prop where
  total : s.total = s'.total
  options : s.options = s'.options
  composition : s.composition = s'.composition
  templateOnly : s.templateOnly = s'.templateOnly
  unclassified : s.unclassified = s'.unclassified
  dropped : s.dropped = s'.dropped

/-- Both summaries have a breakdown or neither has; in each tier the modules have the same counts
and the assessments are the same up to order. -/
structure SameBreakdown (s s' : Summary) : Prop where
  isSome_eq : s.complexity.isSome = s'.complexity.isSome
  sections : ∀ b b', s.complexity = some b → s'.complexity = some b' → ∀ tier,
    (∀ name, (b.forTier tier).modules.lookup name = (b'.forTier tier).modules.lookup name) ∧
      (b.forTier tier).details.Perm (b'.forTier tier).details

end Summary

/-- How many components have a style depends on their contents. -/
theorem length_ofStyle_eq_countP (style : Option Style) (cs : List Component) :
    (ofStyle style cs).length =
      (cs.map Component.content).countP fun text => styleOf? text.toList = style := by
  rw [List.countP_map, List.countP_eq_length_filter]
  rfl

theorem lookup_map (f : String → Int) (name : String) (names : List String) :
    (names.map fun n => (n, f n)).lookup name = if name ∈ names then some (f name) else none := by
  induction names with
  | nil => rfl
  | cons n names ih =>
    rw [List.map_cons, List.lookup_cons, ih]
    by_cases hn : name = n
    · subst hn
      simp
    · have hbeq : (name == n) = false := by simpa using hn
      rw [hbeq]
      simp [hn]

theorem lookup_moduleCounts (name : String) (names : List String) :
    (moduleCounts names).lookup name =
      if name ∈ names then some (names.count name : Int) else none := by
  simp only [moduleCounts, lookup_map, List.mem_eraseDups]

section
variable {scoring : Option Scoring} {cs cs' : List Component} {s s' : Summary}

theorem Summary.Describes.sameCounts (h : s.Describes scoring cs) (h' : s'.Describes scoring cs')
    (hperm : (cs.map Component.content).Perm (cs'.map Component.content)) : s.SameCounts s' := by
  have hstyle : ∀ style, (ofStyle style cs).length = (ofStyle style cs').length := by
    intro style
    rw [length_ofStyle_eq_countP, length_ofStyle_eq_countP, hperm.countP_eq]
  have hlength : cs.length = cs'.length := by simpa using hperm.length_eq
  refine ⟨?_, ?_, ?_, ?_, ?_, ?_⟩
  · rw [h.total, h'.total, hlength]
  · rw [h.options, h'.options, hstyle]
  · rw [h.composition, h'.composition, hstyle]
  · rw [h.templateOnly, h'.templateOnly, hstyle]
  · rw [h.unclassified, h'.unclassified, hstyle]
  · rw [h.dropped, h'.dropped, hstyle]

theorem Summary.Describes.sameBreakdown (h : s.Describes scoring cs)
    (h' : s'.Describes scoring cs') (hperm : cs.Perm cs') : s.SameBreakdown s' := by
  cases scoring with
  | none =>
    have hnone := h.unscored rfl
    have hnone' := h'.unscored rfl
    refine ⟨by rw [hnone, hnone'], ?_⟩
    intro b b' hb
    rw [hnone] at hb
    exact absurd hb (by simp)
  | some sc =>
    obtain ⟨b, hb, hsections, -⟩ := h.sections sc rfl
    obtain ⟨b', hb', hsections', -⟩ := h'.sections sc rfl
    refine ⟨by rw [hb, hb']; rfl, ?_⟩
    intro x x' hx hx' tier
    obtain rfl : b = x := Option.some.inj (hb.symm.trans hx)
    obtain rfl : b' = x' := Option.some.inj (hb'.symm.trans hx')
    obtain ⟨hdetails, hmodules, -⟩ := hsections tier
    obtain ⟨hdetails', hmodules', -⟩ := hsections' tier
    have hrecords : (b.forTier tier).details.Perm (b'.forTier tier).details := by
      rw [hdetails, hdetails']
      exact ((hperm.filter _).map _).filter _
    refine ⟨?_, hrecords⟩
    intro name
    have hnames := hrecords.map Assessment.moduleName
    rw [hmodules, hmodules', lookup_moduleCounts, lookup_moduleCounts, hnames.count_eq]
    simp only [hnames.mem_iff]

end

/-! ## Another order of the entries -/

/-- Two scans that both fail, or both end with summaries in a relation. -/
def Scan.Related (R : Summary → Summary → Prop) (x y : Scan) : Prop :=
  match x.result, y.result with
  | .ok s, .ok s' => R s s'
  | .error _, .error _ => True
  | _, _ => False

/-- The contents of the components depend on what is read only. -/
theorem map_content_components {δ : Type} (w : Walk δ) :
    w.components.map Component.content =
      (w.finds.map Find.bytes).filterMap fun bytes => bytes.toOption.map textOfBytes := by
  rw [Walk.components, List.map_filterMap, List.filterMap_map]
  refine List.filterMap_congr ?_
  intro f _
  rw [Find.component?, Function.comp_apply]
  cases f.bytes <;> rfl

section
variable {fs : FileSystem} {names' : fs.Directory → List String}
  {h : ∀ d, (names' d).Perm (fs.names d)} {skip : List String} {extension : String} {root : Path}

/-- In either order, the components read have the same contents. -/
theorem contents_relist_perm (hw : (walk fs root skip extension).failure = none) :
    ((walk fs root skip extension).components.map Component.content).Perm
      ((walk (fs.relist names' h) root skip extension).components.map Component.content) := by
  rw [map_content_components, map_content_components]
  exact (bytes_walk_relist_perm hw).symm.filterMap _

/-- Without two ways to a directory, they are the same components. -/
theorem components_relist_perm (hw : (walk fs root skip extension).failure = none)
    (htree : ∀ start, fs.Lists root start → fs.Treelike skip start) :
    (walk fs root skip extension).components.Perm
      (walk (fs.relist names' h) root skip extension).components := by
  have hfinds := finds_walk_relist_perm (h := h) hw htree
  exact hfinds.symm.filterMap _

end

/-- **The order in which directories list their entries is of no consequence for the counts of a
scan**, nor for whether there is a summary.  If no directory can be reached in two ways, it only
decides on the order of the modules and of the assessments. -/
theorem scan_relist (fs : FileSystem) (names' : fs.Directory → List String)
    (h : ∀ d, (names' d).Perm (fs.names d)) (root : Path) (skip : List String) (extension : String)
    (scoring : Option Scoring) :
    ((∃ s, (scan fs root skip extension scoring).result = .ok s) ↔ fs.Walkable skip root) ∧
      Scan.Related
        (fun s s' => s.SameCounts s' ∧
          ((∀ start, fs.Lists root start → fs.Treelike skip start) → s.SameBreakdown s'))
        (scan fs root skip extension scoring)
        (scan (fs.relist names' h) root skip extension scoring) := by
  refine ⟨exists_summary_iff fs root skip extension scoring, ?_⟩
  have hfailure : (walk (fs.relist names' h) root skip extension).failure = none ↔
      (walk fs root skip extension).failure = none := failure_relist_iff
  rw [Scan.Related, scan_result_eq, scan_result_eq]
  cases hw : (walk fs root skip extension).failure with
  | some failure =>
    cases hw' : (walk (fs.relist names' h) root skip extension).failure with
    | some failure' => trivial
    | none => exact absurd (hfailure.1 hw') (by simp [hw])
  | none =>
    rw [hfailure.2 hw]
    have hdescribes := census_describes scoring (walk fs root skip extension).components
    have hdescribes' := census_describes scoring
      (walk (fs.relist names' h) root skip extension).components
    refine ⟨hdescribes.sameCounts hdescribes' (contents_relist_perm hw), fun htree => ?_⟩
    exact hdescribes.sameBreakdown hdescribes' (components_relist_perm hw htree)

/-- A tree with two ways to a directory.  Which of the two is taken depends on the order. -/
def sharedTree : Snapshot :=
  { workingDirectory := { anchor := .root, components := [] }
    looks := [(workingRoot, .directory (.ok 0) none)]
    directories := #[[("x", .directory (.ok 1) none), ("y", .directory (.ok 1) none)],
      [("A.vue", .file (.ok "<script>export default".toUTF8.toList))]] }

/-- The two scans find `x/A.vue` and `y/A.vue`. -/
theorem scan_relist_sharedTree :
    (∀ d : sharedTree.fileSystem.Directory,
        (sharedTree.fileSystem.names d).reverse.Perm (sharedTree.fileSystem.names d)) ∧
      ((∃ s, (scan sharedTree.fileSystem workingRoot ["node_modules"] ".vue"
          (some .usual)).result = .ok s) ↔
        sharedTree.fileSystem.Walkable ["node_modules"] workingRoot) ∧
      Scan.Related
        (fun s s' => s.SameCounts s' ∧
          ((∀ start, sharedTree.fileSystem.Lists workingRoot start →
            sharedTree.fileSystem.Treelike ["node_modules"] start) → s.SameBreakdown s'))
        (scan sharedTree.fileSystem workingRoot ["node_modules"] ".vue" (some .usual))
        (scan
          (sharedTree.fileSystem.relist (fun d => (sharedTree.fileSystem.names d).reverse)
            fun _ => List.reverse_perm _)
          workingRoot ["node_modules"] ".vue" (some .usual)) :=
  ⟨fun _ => List.reverse_perm _, scan_relist _ _ _ _ _ _ _⟩

end ComponentCensus
