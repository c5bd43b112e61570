import Mathlib.Data.List.Forall2
import ComponentCensus.Proofs.Census.Scan
import ComponentCensus.Proofs.Files.Respelling

/-!
# Scanning one directory under two names

What a scan says depends on the spelling of its root in the paths of its records only, and in the
modules that these paths point to.

* `Component.SameBelow`, `Assessment.SameBelow`, `Summary.SameBelow` — what two components,
  assessments or summaries have in common that differ by the root they were found under.
* `Path.Neutral` — a root none of whose parts points to a module; the modules are then those of the
  paths below it.
* `scan_respelled` — the scans from two spellings of a root.
-/

set_option autoImplicit false

namespace ComponentCensus

/-- No part of the path points to a module. -/
def Path.Neutral (p : Path) : Prop :=
  ∀ part ∈ p.parts, part ≠ componentsDirectory ∧ part ≠ viewsModule

instance (p : Path) : Decidable p.Neutral :=
  inferInstanceAs (Decidable (∀ part ∈ p.parts, part ≠ componentsDirectory ∧ part ≠ viewsModule))

/-- The module that the names below a root point to. -/
def moduleBelow (names : List String) : String :=
  moduleOf (Path.text { anchor := .relative, components := names })

/-! ## One component -/

/-- One component that was found under two roots. -/
structure Component.SameBelow (r₁ r₂ : Path) (c₁ c₂ : Component) : Prop where
  content : c₁.content = c₂.content
  /-- The same names lead to it from both roots. -/
  path : ∃ names name, (∀ n ∈ names ++ [name], IsName n) ∧
    c₁.path = (r₁.descend (names ++ [name])).text ∧ c₂.path = (r₂.descend (names ++ [name])).text

/-- The assessments of one component that was found under two roots. -/
structure Assessment.SameBelow (r₁ r₂ : Path) (a₁ a₂ : Assessment) : Prop where
  /-- The same names lead to it from both roots, and they point to its module if the root does
  not. -/
  path : ∃ names, a₁.path = (r₁.descend names).text ∧ a₂.path = (r₂.descend names).text ∧
    (r₁.Neutral → a₁.moduleName = moduleBelow names) ∧
    (r₂.Neutral → a₂.moduleName = moduleBelow names)
  /-- The name of the file, the score, the tier and all signals are the same. -/
  rest : a₂ = { a₁ with path := a₂.path, moduleName := a₂.moduleName }

section
variable {r₁ r₂ : Path} {c₁ c₂ : Component}

/-- What the path of a component below a root tells about it. -/
theorem ofString_text_below {root : Path} (hroot : root.Named) {names : List String} {name : String}
    (hnames : ∀ n ∈ names ++ [name], IsName n) :
    Path.ofString (root.descend (names ++ [name])).text = root.descend (names ++ [name]) :=
  Path.ofString_text (hroot.descend hnames)

theorem moduleOf_below {root : Path} (hroot : root.Named) {names : List String}
    (hnames : ∀ n ∈ names, IsName n) (hneutral : root.Neutral) :
    moduleOf (root.descend names).text = moduleBelow names := by
  have hrelative : Path.Named { anchor := .relative, components := names } := hnames
  rw [moduleBelow, moduleOf, moduleOf, Path.ofString_text (hroot.descend hnames),
    Path.ofString_text hrelative, Path.parts_descend, moduleOfParts_append hneutral]
  rfl

theorem Component.moduleName_assess (c : Component) (scoring : Scoring) :
    (c.assess scoring).moduleName = moduleOf c.path := rfl

theorem Component.SameBelow.assess (h : c₁.SameBelow r₁ r₂ c₂) (h₁ : r₁.Named) (h₂ : r₂.Named)
    (scoring : Scoring) : (c₁.assess scoring).SameBelow r₁ r₂ (c₂.assess scoring) := by
  obtain ⟨names, name, hnames, hpath₁, hpath₂⟩ := h.path
  refine ⟨⟨names ++ [name], hpath₁, hpath₂, fun hneutral => ?_, fun hneutral => ?_⟩, ?_⟩
  · rw [Component.moduleName_assess, hpath₁, moduleOf_below h₁ hnames hneutral]
  · rw [Component.moduleName_assess, hpath₂, moduleOf_below h₂ hnames hneutral]
  · have hfile : (Path.ofString c₁.path).name = (Path.ofString c₂.path).name := by
      rw [hpath₁, hpath₂, ofString_text_below h₁ hnames, ofString_text_below h₂ hnames,
        Path.name_descend_concat, Path.name_descend_concat]
    simp only [Component.assess, h.content, hfile]

end

/-! ## All components -/

section
variable {δ : Type} {r₁ r₂ : Path} {cs₁ cs₂ : List Component}

/-- A component file is read in the same way under both roots. -/
theorem component?_below {x : Find δ}
    (hnamed : x.path.Named ∧ ∃ names, x.path.components = names ++ [x.name]) :
    Option.Rel (Component.SameBelow r₁ r₂) (x.mapPath r₁.below).component?
      (x.mapPath r₂.below).component? := by
  obtain ⟨hnames, names, hcomponents⟩ := hnamed
  rw [Path.Named, hcomponents] at hnames
  simp only [Find.component?, Find.mapPath, Path.below, hcomponents]
  cases x.bytes with
  | error reason => exact .none
  | ok bytes => exact .some ⟨rfl, names, x.name, hnames, rfl, rfl⟩

/-- What is found below a root makes the same components under both roots. -/
theorem components_sameBelow {w : Walk δ}
    (hnamed : ∀ x ∈ w.finds, x.path.Named ∧ ∃ names, x.path.components = names ++ [x.name]) :
    List.Forall₂ (Component.SameBelow r₁ r₂) (w.mapPath r₁.below).components
      (w.mapPath r₂.below).components := by
  rw [Walk.components, Walk.components, Walk.finds_mapPath, Walk.finds_mapPath]
  generalize w.finds = xs at hnamed
  induction xs with
  | nil => exact .nil
  | cons x xs ih =>
    obtain ⟨hx, hxs⟩ := List.forall_mem_cons.1 hnamed
    have hread : Option.Rel (Component.SameBelow r₁ r₂) _ _ := component?_below hx
    rw [List.map_cons, List.map_cons, List.filterMap_cons, List.filterMap_cons]
    generalize (x.mapPath r₁.below).component? = c₁, (x.mapPath r₂.below).component? = c₂ at hread ⊢
    cases hread with
    | none => exact ih hxs
    | some hc => exact .cons hc (ih hxs)

theorem map_content_eq (h : List.Forall₂ (Component.SameBelow r₁ r₂) cs₁ cs₂) :
    cs₁.map Component.content = cs₂.map Component.content := by
  induction h with
  | nil => rfl
  | cons hc _ ih => rw [List.map_cons, List.map_cons, hc.content, ih]

theorem ofStyle_sameBelow (style : Option Style)
    (h : List.Forall₂ (Component.SameBelow r₁ r₂) cs₁ cs₂) :
    List.Forall₂ (Component.SameBelow r₁ r₂) (ofStyle style cs₁) (ofStyle style cs₂) := by
  refine List.rel_filter (fun c₁ c₂ hc => ?_) h
  show decide (styleOf? c₁.content.toList = style) = true ↔
    decide (styleOf? c₂.content.toList = style) = true
  rw [hc.content]

theorem assessments_sameBelow (h : List.Forall₂ (Component.SameBelow r₁ r₂) cs₁ cs₂)
    (h₁ : r₁.Named) (h₂ : r₂.Named) (scoring : Scoring) :
    List.Forall₂ (Assessment.SameBelow r₁ r₂) (cs₁.map fun c => c.assess scoring)
      (cs₂.map fun c => c.assess scoring) :=
  List.rel_map (fun _ _ hc => hc.assess h₁ h₂ scoring) h

theorem ofTier_sameBelow (tier : Tier) {as₁ as₂ : List Assessment}
    (h : List.Forall₂ (Assessment.SameBelow r₁ r₂) as₁ as₂) :
    List.Forall₂ (Assessment.SameBelow r₁ r₂) (ofTier tier as₁) (ofTier tier as₂) := by
  refine List.rel_filter (fun a₁ a₂ ha => ?_) h
  rw [ha.rest]

/-- Where neither root points to a module, the modules are the same. -/
theorem map_moduleName_eq (h₁ : r₁.Neutral) (h₂ : r₂.Neutral) {as₁ as₂ : List Assessment}
    (h : List.Forall₂ (Assessment.SameBelow r₁ r₂) as₁ as₂) :
    as₁.map Assessment.moduleName = as₂.map Assessment.moduleName := by
  induction h with
  | nil => rfl
  | cons ha _ ih =>
    obtain ⟨names, -, -, hmodule₁, hmodule₂⟩ := ha.path
    rw [List.map_cons, List.map_cons, hmodule₁ h₁, hmodule₂ h₂, ih]

end

/-! ## Summaries -/

/-- The summaries of one directory that was scanned under two names. -/
structure Summary.SameBelow (r₁ r₂ : Path) (s₁ s₂ : Summary) : Prop where
  counts : s₁.SameCounts s₂
  /-- In each tier the assessments are those of the same components in the same order, and if
  neither root points to a module, the modules have the same counts in the same order. -/
  breakdown : Option.Rel
    (fun b₁ b₂ : Breakdown => ∀ tier,
      List.Forall₂ (Assessment.SameBelow r₁ r₂) (b₁.forTier tier).details
        (b₂.forTier tier).details ∧
      (b₁.forTier tier).total = (b₂.forTier tier).total ∧
      (r₁.Neutral → r₂.Neutral → (b₁.forTier tier).modules = (b₂.forTier tier).modules))
    s₁.complexity s₂.complexity

theorem census_sameBelow {r₁ r₂ : Path} {cs₁ cs₂ : List Component}
    (h : List.Forall₂ (Component.SameBelow r₁ r₂) cs₁ cs₂) (h₁ : r₁.Named) (h₂ : r₂.Named)
    (scoring : Option Scoring) : (census scoring cs₁).SameBelow r₁ r₂ (census scoring cs₂) := by
  have hdescribes₁ := census_describes scoring cs₁
  have hdescribes₂ := census_describes scoring cs₂
  refine ⟨hdescribes₁.sameCounts hdescribes₂ (.of_eq (map_content_eq h)), ?_⟩
  cases scoring with
  | none =>
    rw [hdescribes₁.unscored rfl, hdescribes₂.unscored rfl]
    exact .none
  | some sc =>
    obtain ⟨b₁, hb₁, hsections₁, -⟩ := hdescribes₁.sections sc rfl
    obtain ⟨b₂, hb₂, hsections₂, -⟩ := hdescribes₂.sections sc rfl
    rw [hb₁, hb₂]
    refine .some fun tier => ?_
    obtain ⟨hdetails₁, hmodules₁, htotal₁⟩ := hsections₁ tier
    obtain ⟨hdetails₂, hmodules₂, htotal₂⟩ := hsections₂ tier
    have hdetails : List.Forall₂ (Assessment.SameBelow r₁ r₂) (b₁.forTier tier).details
        (b₂.forTier tier).details := by
      rw [hdetails₁, hdetails₂]
      exact ofTier_sameBelow tier
        (assessments_sameBelow (ofStyle_sameBelow (some .options) h) h₁ h₂ sc)
    refine ⟨hdetails, ?_, fun hneutral₁ hneutral₂ => ?_⟩
    · rw [htotal₁, htotal₂, hdetails.length_eq]
    · rw [hmodules₁, hmodules₂, map_moduleName_eq hneutral₁ hneutral₂ hdetails]

/-! ## Two spellings of a root -/

section
variable {fs : FileSystem} {r₁ r₂ : Path} {skip : List String} {extension : String}

theorem scan_sameBelow (hnames : fs.ListsNames) (h₁ : r₁.Named) (h₂ : r₂.Named)
    (hsame : fs.visit r₁ = fs.visit r₂) (hskip₁ : r₁.name ∉ skip) (hskip₂ : r₂.name ∉ skip)
    (scoring : Option Scoring) :
    Scan.Related (Summary.SameBelow r₁ r₂) (scan fs r₁ skip extension scoring)
      (scan fs r₂ skip extension scoring) := by
  have hwalk₁ : walk fs r₁ skip extension = _ := walk_eq_mapPath hskip₁
  have hwalk₂ : walk fs r₂ skip extension = _ := walk_eq_mapPath hskip₂
  rw [Scan.Related, scan_result_eq, scan_result_eq, hwalk₁, hwalk₂, ← hsame, Walk.failure_mapPath,
    Walk.failure_mapPath]
  cases (walkBelow fs (fs.visit r₁) skip extension).failure with
  | some failure => trivial
  | none =>
    refine census_sameBelow (components_sameBelow fun x hx => ?_) h₁ h₂ scoring
    exact named_of_mem_finds hnames hx

end

/-- **The spelling of the root of a scan shows in the paths of its records only.**  From two
spellings at which the same is seen, neither of them to be skipped, the walks are one walk below the
root, so they find the same files in the same order, and the scans count the same. -/
theorem scan_respelled (fs : FileSystem) (skip : List String) (extension : String)
    (scoring : Option Scoring) (spelling₁ spelling₂ : String) (hnames : fs.ListsNames)
    (hsame : fs.visit (Path.ofString spelling₁) = fs.visit (Path.ofString spelling₂))
    (hskip₁ : (Path.ofString spelling₁).name ∉ skip)
    (hskip₂ : (Path.ofString spelling₂).name ∉ skip) :
    (∃ w : Walk fs.Directory,
      walk fs (Path.ofString spelling₁) skip extension =
        w.mapPath (Path.ofString spelling₁).below ∧
      walk fs (Path.ofString spelling₂) skip extension =
        w.mapPath (Path.ofString spelling₂).below) ∧
    (∃ found : List (List String),
      (walk fs (Path.ofString spelling₁) skip extension).paths =
        found.map (Path.ofString spelling₁).descend ∧
      (walk fs (Path.ofString spelling₂) skip extension).paths =
        found.map (Path.ofString spelling₂).descend) ∧
    Scan.Related (Summary.SameBelow (Path.ofString spelling₁) (Path.ofString spelling₂))
      (scan fs (Path.ofString spelling₁) skip extension scoring)
      (scan fs (Path.ofString spelling₂) skip extension scoring) := by
  have hwalk₁ : walk fs (Path.ofString spelling₁) skip extension = _ := walk_eq_mapPath hskip₁
  have hwalk₂ : walk fs (Path.ofString spelling₂) skip extension = _ := walk_eq_mapPath hskip₂
  rw [← hsame] at hwalk₂
  refine ⟨⟨_, hwalk₁, hwalk₂⟩, ⟨(walkBelow fs (fs.visit (Path.ofString spelling₁)) skip
    extension).paths.map Path.components, ?_, ?_⟩, ?_⟩
  · rw [hwalk₁, Walk.paths_mapPath, List.map_map]
    rfl
  · rw [hwalk₂, Walk.paths_mapPath, List.map_map]
    rfl
  · exact scan_sameBelow hnames (Path.named_ofString _) (Path.named_ofString _) hsame hskip₁ hskip₂
      scoring

/-- A directory that is also at the end of a link, and in it a component file below `components`. -/
def linkedTree : Snapshot :=
  { workingDirectory := { anchor := .root, components := ["p"] }
    looks := [({ anchor := .relative, components := ["src"] }, .directory (.ok 0) none),
      ({ anchor := .root, components := ["p", "link"] }, .directory (.ok 0) none)]
    directories := #[[("components", .directory (.ok 1) none), ("up", .directory (.ok 0) none)],
      [("A.vue", .file (.ok "<script>export default".toUTF8.toList))]] }

/-- The scans from `./src//.` and from the link. -/
theorem scan_respelled_linkedTree :
    linkedTree.fileSystem.ListsNames ∧
      linkedTree.fileSystem.visit (Path.ofString "./src//.") =
        linkedTree.fileSystem.visit (Path.ofString "/p/link/") ∧
      (Path.ofString "./src//.").name ∉ ["node_modules"] ∧
      (Path.ofString "/p/link/").name ∉ ["node_modules"] ∧
      Scan.Related (Summary.SameBelow (Path.ofString "./src//.") (Path.ofString "/p/link/"))
        (scan linkedTree.fileSystem (Path.ofString "./src//.") ["node_modules"] ".vue"
          (some .usual))
        (scan linkedTree.fileSystem (Path.ofString "/p/link/") ["node_modules"] ".vue"
          (some .usual)) := by
  have hpath₁ : Path.ofString "./src//." = { anchor := .relative, components := ["src"] } := by
    decide
  have hpath₂ : Path.ofString "/p/link/" = { anchor := .root, components := ["p", "link"] } := by
    decide
  have hnames : linkedTree.fileSystem.ListsNames := by
    have hall : ∀ d : linkedTree.fileSystem.Directory, ∀ name ∈ linkedTree.fileSystem.names d,
        IsName name := by decide
    exact hall
  have hsame : linkedTree.fileSystem.visit (Path.ofString "./src//.") =
      linkedTree.fileSystem.visit (Path.ofString "/p/link/") := by
    rw [hpath₁, hpath₂]
    rfl
  have hskip₁ : (Path.ofString "./src//.").name ∉ ["node_modules"] := by rw [hpath₁]; decide
  have hskip₂ : (Path.ofString "/p/link/").name ∉ ["node_modules"] := by rw [hpath₂]; decide
  exact ⟨hnames, hsame, hskip₁, hskip₂,
    (scan_respelled _ _ ".vue" (some .usual) _ _ hnames hsame hskip₁ hskip₂).2.2⟩

end ComponentCensus
