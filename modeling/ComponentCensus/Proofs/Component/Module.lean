import Mathlib.Data.List.TakeWhile
import ComponentCensus.Component.Assessment
import ComponentCensus.Proofs.Path

/-!
# What an assessment reads off the path

The module and the file name of an assessment are read off the path.  Only its components count:
neither how the path is spelled nor where it starts.

* `Respelling` — spellings of a path that differ in something that stands for nothing;
  `components_eq_of_respelling` says that they have the same components.
* `IsModuleOf` — the module that the parts of a path point to, told case by case;
  `isModuleOf_moduleOfParts` says that it is the one that is found.
* `module_and_name_of_parts` — the module and the file name of an assessment.
-/

set_option autoImplicit false

namespace ComponentCensus

/-! ## Spellings of a path -/

/-- The first text spells the second one with something that stands for nothing: one more slash
behind a slash, a point as a component, or a slash at the end. -/
inductive Respelling : String → String → Prop where
  | slash (front back : String) : Respelling (front ++ "//" ++ back) (front ++ "/" ++ back)
  | point (front back : String) : Respelling (front ++ "/./" ++ back) (front ++ "/" ++ back)
  | pointInFront (back : String) : Respelling ("./" ++ back) back
  | slashAtEnd (front : String) : Respelling (front ++ "/") front
  | pointAtEnd (front : String) : Respelling (front ++ "/.") front

namespace Path

/-- A slash parts the components in front of it from those behind it. -/
theorem componentsOf_append_slash (front back : List Char) :
    componentsOf (front ++ '/' :: back) = componentsOf front ++ componentsOf back := by
  simp only [componentsOf, Text.splitOn_eq, List.splitOn_append_cons_self, List.filter_append,
    List.map_append]

/-- What is respelled has the same components. -/
theorem components_eq_of_respelling {p q : String} (h : Respelling p q) :
    (ofString p).components = (ofString q).components := by
  have hnothing : componentsOf [] = [] := rfl
  have hpoint : componentsOf ['.'] = [] := rfl
  show componentsOf p.toList = componentsOf q.toList
  cases h with
  | slash front back =>
    simp only [String.toList_append, List.append_assoc]
    show componentsOf (front.toList ++ '/' :: '/' :: back.toList) =
      componentsOf (front.toList ++ '/' :: back.toList)
    rw [componentsOf_append_slash, componentsOf_cons_slash, componentsOf_append_slash]
  | point front back =>
    simp only [String.toList_append, List.append_assoc]
    show componentsOf (front.toList ++ '/' :: (['.'] ++ '/' :: back.toList)) =
      componentsOf (front.toList ++ '/' :: back.toList)
    rw [componentsOf_append_slash, componentsOf_append_slash, hpoint, List.nil_append,
      componentsOf_append_slash]
  | pointInFront =>
    rw [String.toList_append]
    show componentsOf (['.'] ++ '/' :: q.toList) = componentsOf q.toList
    rw [componentsOf_append_slash, hpoint, List.nil_append]
  | slashAtEnd =>
    rw [String.toList_append]
    show componentsOf (q.toList ++ '/' :: []) = componentsOf q.toList
    rw [componentsOf_append_slash, hnothing, List.append_nil]
  | pointAtEnd =>
    rw [String.toList_append]
    show componentsOf (q.toList ++ '/' :: ['.']) = componentsOf q.toList
    rw [componentsOf_append_slash, hpoint, List.append_nil]

/-- No component of a path that was read is one of the anchors. -/
theorem ne_anchor_of_mem_components {s part : String} (h : part ∈ (ofString s).components)
    (anchor : Anchor) : part ≠ anchor.text := by
  obtain ⟨hne, -, hslash⟩ := named_ofString s part h
  rintro rfl
  cases anchor with
  | relative => exact hne rfl
  | root => exact hslash (by decide)
  | doubleRoot => exact hslash (by decide)

/-- The components are the parts that are no anchor. -/
theorem filter_parts_ofString (s : String) :
    (ofString s).parts.filter (fun part => part ≠ "/" ∧ part ≠ "//") = (ofString s).components := by
  have hkept : (ofString s).components.filter (fun part => part ≠ "/" ∧ part ≠ "//") =
      (ofString s).components :=
    List.filter_eq_self.2 fun part hpart => decide_eq_true
      ⟨ne_anchor_of_mem_components hpart .root, ne_anchor_of_mem_components hpart .doubleRoot⟩
  unfold parts
  cases (ofString s).anchor with
  | relative => exact hkept
  | root => exact hkept
  | doubleRoot => exact hkept

end Path

/-! ## The module -/

/-- The module that the parts of a path point to. -/
structure IsModuleOf (parts : List String) (module : String) : Prop where
  /-- Behind the first directory of modules, the next part names the module, whatever else there is
  in front and behind. -/
  below : ∀ before name rest, "components" ∉ before →
    parts = before ++ "components" :: name :: rest → module = name
  /-- Behind it, there may be nothing. -/
  last : ∀ before, "components" ∉ before → parts = before ++ ["components"] → module = "other"
  /-- Without such a directory, the views are a module. -/
  views : "components" ∉ parts → (module = "views" ↔ "views" ∈ parts)
  /-- Everything else belongs together. -/
  other : "components" ∉ parts → "views" ∉ parts → module = "other"
  /-- The module is one of the parts, unless it is one of these two. -/
  own : module = "other" ∨ module = "views" ∨ module ∈ parts

theorem ne_components_of_not_mem {before : List String} (h : "components" ∉ before) :
    ∀ part ∈ before, decide (part ≠ componentsDirectory) = true :=
  fun _ hpart => decide_eq_true (ne_of_mem_of_not_mem hpart h)

theorem moduleOfParts_below {before : List String} (h : "components" ∉ before)
    (rest : List String) :
    moduleOfParts (before ++ "components" :: rest) = rest.head?.getD "other" := by
  have hdrop : (before ++ "components" :: rest).dropWhile (· ≠ componentsDirectory) =
      "components" :: rest := by
    rw [List.dropWhile_append_of_pos (ne_components_of_not_mem h)]
    exact List.dropWhile_cons_of_neg (by decide)
  rw [moduleOfParts, hdrop]
  cases rest with
  | nil => rfl
  | cons name rest => rfl

theorem moduleOfParts_of_not_mem {parts : List String} (h : "components" ∉ parts) :
    moduleOfParts parts = if "views" ∈ parts then "views" else "other" := by
  have hdrop : parts.dropWhile (· ≠ componentsDirectory) = [] :=
    List.dropWhile_eq_nil_iff.2 (ne_components_of_not_mem h)
  rw [moduleOfParts, hdrop]
  simp only [List.contains_iff_mem]
  rfl

/-- The module that is found is the one that the parts point to. -/
theorem isModuleOf_moduleOfParts (parts : List String) :
    IsModuleOf parts (moduleOfParts parts) where
  below before name rest hbefore heq := by
    rw [heq, moduleOfParts_below hbefore]
    rfl
  last before hbefore heq := by
    rw [heq, moduleOfParts_below hbefore]
    rfl
  views h := by
    rw [moduleOfParts_of_not_mem h]
    split
    · exact iff_of_true rfl ‹_›
    · exact iff_of_false (by decide) ‹_›
  other h hviews := by rw [moduleOfParts_of_not_mem h, if_neg hviews]
  own := by
    by_cases h : "components" ∈ parts
    · obtain ⟨before, rest, rfl, hbefore⟩ := List.eq_append_cons_of_mem h
      rw [moduleOfParts_below hbefore]
      cases rest with
      | nil => exact .inl rfl
      | cons name rest => exact .inr (.inr (by simp))
    · rw [moduleOfParts_of_not_mem h]
      split
      · exact .inr (.inl rfl)
      · exact .inl rfl

/-- An anchor in front of the components does not change the module. -/
theorem moduleOf_eq_moduleOfParts_components (path : String) :
    moduleOf path = moduleOfParts (Path.ofString path).components := by
  have hanchor : ∀ {parts : List String} (part : String), part ≠ componentsDirectory →
      part ≠ viewsModule → moduleOfParts ([part] ++ parts) = moduleOfParts parts :=
    fun part hcomponents hviews =>
      moduleOfParts_append (fun p hp => List.mem_singleton.1 hp ▸ ⟨hcomponents, hviews⟩) _
  unfold moduleOf Path.parts
  cases (Path.ofString path).anchor with
  | relative => rfl
  | root => exact hanchor "/" (by decide) (by decide)
  | doubleRoot => exact hanchor "//" (by decide) (by decide)

/-- **What an assessment reads off the path.**  The module and the file name are the same for paths
with the same parts and for paths that are respelled.  The module is the one that the parts point
to, it is never empty, and a path that is put together from parts points to the module that these
say. -/
theorem module_and_name_of_parts (c : Component) (scoring : Scoring) :
    (∀ (d : Component) (scoring' : Scoring),
      (Path.ofString c.path).parts = (Path.ofString d.path).parts ∨ Respelling c.path d.path →
        (c.assess scoring).moduleName = (d.assess scoring').moduleName ∧
          (c.assess scoring).fileName = (d.assess scoring').fileName) ∧
    IsModuleOf (Path.ofString c.path).parts (c.assess scoring).moduleName ∧
    (c.assess scoring).moduleName ≠ "" ∧
    ∀ (anchor : Anchor) (names : List String), (∀ name ∈ names, IsName name) →
      c.path = Path.text { anchor, components := names } →
        (Path.ofString c.path).parts = Path.parts { anchor, components := names } := by
  refine ⟨fun d scoring' h => ?_, isModuleOf_moduleOfParts _, ?_,
    fun anchor names hnames hpath => ?_⟩
  · have hcomponents : (Path.ofString c.path).components = (Path.ofString d.path).components := by
      rcases h with h | h
      · rw [← Path.filter_parts_ofString, h, Path.filter_parts_ofString]
      · exact Path.components_eq_of_respelling h
    constructor
    · show moduleOf c.path = moduleOf d.path
      rw [moduleOf_eq_moduleOfParts_components, hcomponents, ← moduleOf_eq_moduleOfParts_components]
    · show (Path.ofString c.path).name = (Path.ofString d.path).name
      rw [Path.name, hcomponents, ← Path.name]
  · show moduleOf c.path ≠ ""
    rw [moduleOf_eq_moduleOfParts_components]
    rcases (isModuleOf_moduleOfParts (Path.ofString c.path).components).own with h | h | h
    · rw [h]
      decide
    · rw [h]
      decide
    · exact (Path.named_ofString c.path _ h).1
  · rw [hpath, Path.ofString_text (p := { anchor, components := names }) hnames]

/-- The first directory of modules counts, and neither the views nor the point in front of it. -/
example : moduleOf "//a/views/./components//forms/components/x/F.vue/" = "forms" := by
  decide +kernel

end ComponentCensus
