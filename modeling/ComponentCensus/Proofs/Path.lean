import ComponentCensus.Component.Module
import ComponentCensus.Proofs.Files.Reach
import ComponentCensus.Proofs.Text.Splitting

/-!
# Paths and their texts

Reading a path forgets how it was spelled, but writing it forgets nothing: the text of a path whose
components are names, as those of every path that was read are, is read as that path.

* `IsName`, `Path.Named` — what can be a component of a path, and the paths with such components.
* `Path.named_ofString`, `Path.ofString_text` — reading yields such a path, and writing it can be
  undone.
* `Path.parts_descend`, `moduleOfParts_append` — what is below a path adds parts, and a path without
  a part that points to a module leaves that to what is below.
-/

set_option autoImplicit false

namespace ComponentCensus

/-- A component of a path: it is not empty, it is not the point that stands for the same place, and
it holds no slash. -/
def IsName (name : String) : Prop := name ≠ "" ∧ name ≠ "." ∧ '/' ∉ name.toList

instance (name : String) : Decidable (IsName name) :=
  inferInstanceAs (Decidable (name ≠ "" ∧ name ≠ "." ∧ '/' ∉ name.toList))

namespace Path

/-- All components of the path are names. -/
def Named (p : Path) : Prop := ∀ name ∈ p.components, IsName name

theorem named_ofString (s : String) : (ofString s).Named := by
  intro name hname
  obtain ⟨piece, hpiece, rfl⟩ := List.mem_map.1 hname
  obtain ⟨hmem, hkept⟩ := List.mem_filter.1 hpiece
  obtain ⟨hne, hpoint⟩ : piece ≠ [] ∧ piece ≠ ['.'] := by simpa using hkept
  have hlist : ∀ {text : String}, String.ofList piece = text → piece = text.toList := by
    rintro text rfl
    rw [String.toList_ofList]
  refine ⟨fun h => hne (hlist h), fun h => hpoint (hlist h), ?_⟩
  rw [String.toList_ofList]
  exact Text.not_mem_of_mem_splitOn hmem

theorem Named.descend {p : Path} (h : p.Named) {names : List String}
    (hnames : ∀ name ∈ names, IsName name) : (p.descend names).Named := by
  intro name hname
  rcases List.mem_append.1 hname with hname | hname
  · exact h name hname
  · exact hnames name hname

/-! ## Reading what was written -/

theorem toList_text (p : Path) :
    p.text.toList =
      let written := p.anchor.text.toList ++ ['/'].intercalate (p.components.map String.toList)
      if written.isEmpty then ['.'] else written := by
  have hwritten : (p.anchor.text ++ String.intercalate "/" p.components).toList =
      p.anchor.text.toList ++ ['/'].intercalate (p.components.map String.toList) := by
    rw [String.toList_append, String.toList_intercalate]
    rfl
  rw [text, ← hwritten]
  simp only [String.isEmpty_iff, List.isEmpty_iff, String.toList_eq_nil_iff]
  split <;> rfl

/-- Names joined by slashes are found again. -/
theorem componentsOf_intercalate {names : List String} (h : ∀ name ∈ names, IsName name) :
    componentsOf (['/'].intercalate (names.map String.toList)) = names := by
  by_cases hnil : names = []
  · subst hnil
    rfl
  · have hpieces : ∀ piece ∈ names.map String.toList, '/' ∉ piece :=
      List.forall_mem_map.2 fun name hname => (h name hname).2.2
    have hkept : ∀ piece ∈ names.map String.toList,
        decide (piece ≠ [] ∧ piece ≠ ['.']) = true := by
      refine List.forall_mem_map.2 fun name hname => decide_eq_true ⟨fun heq => ?_, fun heq => ?_⟩
      · exact (h name hname).1 (String.toList_inj.1 heq)
      · exact (h name hname).2.1 (String.toList_inj.1 heq)
    rw [componentsOf, Text.splitOn_intercalate hpieces (by simpa using hnil)]
    rw [List.filter_eq_self.2 (by simpa using hkept), List.map_map]
    exact (List.map_congr_left fun name _ => String.ofList_toList).trans (List.map_id _)

/-- A slash in front adds no component. -/
theorem componentsOf_cons_slash (s : List Char) : componentsOf ('/' :: s) = componentsOf s := by
  rw [componentsOf, Text.splitOn_cons_sep, List.filter_cons_of_neg (by simp), componentsOf]

/-- Names joined by slashes do not start with one. -/
theorem takeWhile_intercalate {names : List String} (h : ∀ name ∈ names, IsName name) :
    (['/'].intercalate (names.map String.toList)).takeWhile (· = '/') = [] := by
  cases names with
  | nil => rfl
  | cons name names =>
    obtain ⟨hne, -, hslash⟩ := h name List.mem_cons_self
    cases hchars : name.toList with
    | nil => exact absurd (String.toList_eq_nil_iff.1 hchars) hne
    | cons c chars =>
      have hc : c ≠ '/' := fun heq => hslash (hchars ▸ heq ▸ List.mem_cons_self)
      cases names with
      | nil => simp [List.intercalate_singleton, hchars, hc]
      | cons next names => simp [List.intercalate_cons_cons, hchars, hc]

/-- A path of names is what its text is read as. -/
theorem ofString_text {p : Path} (h : p.Named) : ofString p.text = p := by
  obtain ⟨anchor, names⟩ := p
  replace h : ∀ name ∈ names, IsName name := h
  have hcomponents := componentsOf_intercalate h
  have hslashes := takeWhile_intercalate h
  rw [ofString, toList_text]
  generalize ['/'].intercalate (names.map String.toList) = joined at *
  cases anchor with
  | relative =>
    cases joined with
    | nil =>
      -- the path without components is written as a point
      obtain rfl : [] = names := hcomponents
      rfl
    | cons c joined =>
      show Path.mk (.ofSlashes ((c :: joined).takeWhile (· = '/')).length)
        (componentsOf (c :: joined)) = _
      rw [hslashes, hcomponents]
      rfl
  | root =>
    have hanchor : Anchor.root.text.toList = ['/'] := by decide
    simp only [hanchor, List.cons_append, List.nil_append, List.isEmpty_cons, Bool.false_eq_true,
      if_false]
    rw [componentsOf_cons_slash, hcomponents, List.takeWhile_cons_of_pos (by decide), hslashes]
    rfl
  | doubleRoot =>
    have hanchor : Anchor.doubleRoot.text.toList = ['/', '/'] := by decide
    simp only [hanchor, List.cons_append, List.nil_append, List.isEmpty_cons, Bool.false_eq_true,
      if_false]
    rw [componentsOf_cons_slash, componentsOf_cons_slash, hcomponents,
      List.takeWhile_cons_of_pos (by decide), List.takeWhile_cons_of_pos (by decide), hslashes]
    rfl

/-! ## What is below a path -/

theorem parts_descend (p : Path) (names : List String) :
    (p.descend names).parts = p.parts ++ names := by
  unfold parts descend
  split
  · rfl
  · rfl

theorem name_descend_concat (p : Path) (names : List String) (name : String) :
    (p.descend (names ++ [name])).name = name := by
  rw [← child_descend, name_child]

end Path

/-- What comes before the first part that points to a module does not matter. -/
theorem moduleOfParts_append {before : List String}
    (h : ∀ part ∈ before, part ≠ componentsDirectory ∧ part ≠ viewsModule) (parts : List String) :
    moduleOfParts (before ++ parts) = moduleOfParts parts := by
  have hdrop : (before ++ parts).dropWhile (· ≠ componentsDirectory) =
      parts.dropWhile (· ≠ componentsDirectory) :=
    List.dropWhile_append_of_pos fun part hpart => decide_eq_true (h part hpart).1
  have hviews : (before ++ parts).contains viewsModule = parts.contains viewsModule := by
    rw [Bool.eq_iff_iff, List.contains_iff_mem, List.contains_iff_mem, List.mem_append]
    exact or_iff_right fun hmem => (h _ hmem).2 rfl
  rw [moduleOfParts, hdrop, hviews, moduleOfParts]

end ComponentCensus
