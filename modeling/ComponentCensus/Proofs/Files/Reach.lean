import ComponentCensus.Files.Walk

/-!
# What can be reached from a directory

`Files.Walk` goes through a tree with a list of entries still to be looked at and a list of
directories already entered.  This file says what there is to be found, without either list.

* `FileSystem.Opens` — an entry that leads down to a directory: its name is not to be skipped, and
  it is a directory that can be listed.
* `FileSystem.Leads`, `FileSystem.Reachable` — chains of such entries.  A chain of names ends in at
  most one directory (`Leads.unique`), while a directory may be at the end of many chains.
* `FileSystem.componentsIn` — the component files among the entries of a directory.
* `Path.descend` — the path at the end of a chain.  Below one root, a path belongs to one chain
  only (`Path.descend_injective`).
-/

set_option autoImplicit false

namespace ComponentCensus

namespace Sighting

variable {δ : Type}

/-- Whether a look shows a directory. -/
def isDirectory : Sighting δ → Bool
  | directory _ _ => true
  | _ => false

/-- Whether the look itself fails. -/
def isBlocked : Sighting δ → Bool
  | blocked _ => true
  | _ => false

theorem isBlocked_eq_false_iff {s : Sighting δ} :
    s.isBlocked = false ↔ ∀ reason, s ≠ .blocked reason := by
  cases s <;> simp [isBlocked]

theorem isDirectory_eq_false_iff {s : Sighting δ} :
    s.isDirectory = false ↔ ∀ identity refusal, s ≠ .directory identity refusal := by
  cases s <;> simp [isDirectory]

/-- A directory that can be listed is one whose identity is known and that nothing refuses. -/
theorem listed_eq_ok_iff {s : Sighting δ} {d : δ} :
    s.listed = .ok d ↔ s = .directory (.ok d) none := by
  cases s with
  | directory identity refusal => cases refusal <;> simp [listed]
  | file bytes => simp [listed]
  | missing reason => simp [listed]
  | blocked reason => simp [listed]

end Sighting

namespace Path

/-- The path below a path, along some names. -/
def descend (p : Path) (names : List String) : Path :=
  { p with components := p.components ++ names }

@[simp] theorem descend_nil (p : Path) : p.descend [] = p := by simp [descend]

@[simp] theorem child_descend (p : Path) (names : List String) (name : String) :
    (p.descend names).child name = p.descend (names ++ [name]) := by
  simp [descend, child]

theorem descend_injective (p : Path) : Function.Injective p.descend := by
  intro names names' h
  exact List.append_cancel_left (congrArg Path.components h)

end Path

namespace FileSystem

variable {fs : FileSystem} {skip : List String} {extension : String}

/-- An entry that leads down to a directory. -/
structure Opens (fs : FileSystem) (skip : List String) (d : fs.Directory) (name : String)
    (e : fs.Directory) : Prop where
  /-- The name is not to be skipped. -/
  kept : name ∉ skip
  /-- The entry is the directory, and it can be listed. -/
  listed : (fs.entry d name).listed = .ok e

/-- The names of a chain of entries, each of which leads down to the next directory. -/
inductive Leads (fs : FileSystem) (skip : List String) (start : fs.Directory) :
    List String → fs.Directory → Prop
  | here : Leads fs skip start [] start
  | down {names : List String} {d e : fs.Directory} {name : String}
      (above : Leads fs skip start names d) (hname : name ∈ fs.names d)
      (opens : fs.Opens skip d name e) : Leads fs skip start (names ++ [name]) e

/-- The directories at the end of some chain. -/
def Reachable (fs : FileSystem) (skip : List String) (start d : fs.Directory) : Prop :=
  ∃ names, fs.Leads skip start names d

/-- The names of the component files in a directory. -/
def componentsIn (fs : FileSystem) (extension : String) (d : fs.Directory) : List String :=
  (fs.names d).filter fun name =>
    !(fs.entry d name).isDirectory && hasExtension extension name

theorem mem_componentsIn {d : fs.Directory} {name : String} :
    name ∈ fs.componentsIn extension d ↔
      name ∈ fs.names d ∧ (fs.entry d name).isDirectory = false ∧
        hasExtension extension name = true := by
  simp [componentsIn]

theorem componentsIn_nodup (extension : String) (d : fs.Directory) :
    (fs.componentsIn extension d).Nodup :=
  (fs.names_nodup d).filter _

theorem Opens.unique {d e e' : fs.Directory} {name : String} (h : fs.Opens skip d name e)
    (h' : fs.Opens skip d name e') : e = e' := by
  have heq := h.listed.symm.trans h'.listed
  simpa using heq

theorem leads_nil_iff {start d : fs.Directory} : fs.Leads skip start [] d ↔ d = start := by
  constructor
  · intro h
    generalize hnil : ([] : List String) = names at h
    cases h with
    | here => rfl
    | down => simp at hnil
  · rintro rfl
    exact .here

theorem leads_concat_iff {start e : fs.Directory} {names : List String} {name : String} :
    fs.Leads skip start (names ++ [name]) e ↔
      ∃ d, fs.Leads skip start names d ∧ name ∈ fs.names d ∧ fs.Opens skip d name e := by
  constructor
  · intro h
    generalize hcat : names ++ [name] = all at h
    cases h with
    | here => simp at hcat
    | down above hname opens =>
      obtain ⟨rfl, hlast⟩ := List.append_inj' hcat rfl
      obtain rfl : name = _ := by simpa using hlast
      exact ⟨_, above, hname, opens⟩
  · rintro ⟨d, above, hname, opens⟩
    exact .down above hname opens

/-- A chain of names ends in one directory. -/
theorem Leads.unique {start d e : fs.Directory} {names : List String}
    (h : fs.Leads skip start names d) (h' : fs.Leads skip start names e) : d = e := by
  induction h generalizing e with
  | here => exact (leads_nil_iff.1 h').symm
  | down _ _ opens ih =>
    obtain ⟨d', above', -, opens'⟩ := leads_concat_iff.1 h'
    obtain rfl := ih above'
    exact opens.unique opens'

theorem Reachable.refl (start : fs.Directory) : fs.Reachable skip start start := ⟨[], .here⟩

/-- What is closed under going down holds of all that can be reached. -/
theorem Reachable.of_closed {start d : fs.Directory} {P : fs.Directory → Prop}
    (h : fs.Reachable skip start d) (hstart : P start)
    (hdown : ∀ d, P d → ∀ name ∈ fs.names d, ∀ e, fs.Opens skip d name e → P e) : P d := by
  obtain ⟨names, h⟩ := h
  induction h with
  | here => exact hstart
  | down _ hname opens ih => exact hdown _ ih _ hname _ opens

end FileSystem
end ComponentCensus
