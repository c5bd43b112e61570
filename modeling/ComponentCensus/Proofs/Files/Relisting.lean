import Mathlib.Data.List.Induction
import ComponentCensus.Proofs.Files.Coverage

/-!
# Listing directories in another order

The order in which directories list their entries is not specified.  It decides which of several
paths to a directory a walk takes, but neither which directories it enters nor which component
files it finds in them.

* `FileSystem.relist` — the same files, with the entries of each directory in another order.
* `FileSystem.leads_relist` — the chains are the same, and so is all that is made from them.
* `finds_relist_perm` — the walks find the same component files, and read the same there.
* `FileSystem.Treelike` — no directory is at the end of two chains.  Then the component files are
  found under the same paths (`finds_relist_perm_of_treelike`).
-/

set_option autoImplicit false

namespace ComponentCensus

namespace FileSystem

/-- The same files, with the entries of each directory in another order. -/
abbrev relist (fs : FileSystem) (names : fs.Directory → List String)
    (h : ∀ d, (names d).Perm (fs.names d)) : FileSystem :=
  { fs with
    names
    names_nodup := fun d => (h d).nodup_iff.2 (fs.names_nodup d) }

/-- No directory is at the end of two chains. -/
def Treelike (fs : FileSystem) (skip : List String) (start : fs.Directory) : Prop :=
  ∀ ⦃d : fs.Directory⦄ ⦃names names' : List String⦄,
    fs.Leads skip start names d → fs.Leads skip start names' d → names = names'

section
variable {fs : FileSystem} {names' : fs.Directory → List String}
  {h : ∀ d, (names' d).Perm (fs.names d)} {skip : List String} {extension : String}
  {start d e : fs.Directory} {name : String}

theorem opens_relist :
    (fs.relist names' h).Opens skip d name e ↔ fs.Opens skip d name e :=
  ⟨fun ho => ⟨ho.kept, ho.listed⟩, fun ho => ⟨ho.kept, ho.listed⟩⟩

theorem leads_relist {names : List String} :
    (fs.relist names' h).Leads skip start names d ↔ fs.Leads skip start names d := by
  induction names using List.reverseRecOn generalizing d with
  | nil => rw [leads_nil_iff, leads_nil_iff]
  | append_singleton names name ih =>
    rw [leads_concat_iff, leads_concat_iff]
    refine exists_congr fun e => ?_
    rw [ih, opens_relist, (h e).mem_iff]

theorem reachable_relist :
    (fs.relist names' h).Reachable skip start d ↔ fs.Reachable skip start d :=
  exists_congr fun _ => leads_relist

theorem looks_relist : (fs.relist names' h).Looks skip start ↔ fs.Looks skip start := by
  constructor
  · intro hlooks d hd name hname
    exact hlooks d (reachable_relist.2 hd) name ((h d).mem_iff.2 hname)
  · intro hlooks d hd name hname
    exact hlooks d (reachable_relist.1 hd) name ((h d).mem_iff.1 hname)

theorem walkable_relist {root : Path} :
    (fs.relist names' h).Walkable skip root ↔ fs.Walkable skip root :=
  or_congr_right (exists_congr fun _ => and_congr_right fun _ => looks_relist)

theorem mem_componentsIn_relist :
    name ∈ (fs.relist names' h).componentsIn extension d ↔ name ∈ fs.componentsIn extension d := by
  rw [mem_componentsIn, mem_componentsIn, (h d).mem_iff]

end

end FileSystem

/-! ## The same component files -/

section
variable {fs : FileSystem} {names' : fs.Directory → List String}
  {h : ∀ d, (names' d).Perm (fs.names d)} {skip : List String} {extension : String} {root : Path}
  {start : fs.Directory}

/-- The walks fail both, or neither does. -/
theorem failure_relist_iff :
    (walk (fs.relist names' h) root skip extension).failure = none ↔
      (walk fs root skip extension).failure = none := by
  rw [failure_eq_none_iff_walkable extension, failure_eq_none_iff_walkable extension,
    FileSystem.walkable_relist]

theorem entries_relist_perm (hskip : root.name ∉ skip) (hroot : fs.Lists root start)
    (hw : (walk fs root skip extension).failure = none) :
    ((walk (fs.relist names' h) root skip extension).finds.map Find.entry).Perm
      ((walk fs root skip extension).finds.map Find.entry) := by
  have hroot' : (fs.relist names' h).Lists root start := hroot
  have hcovers := covers_of_failure_eq_none hskip hroot hw
  have hcovers' := covers_of_failure_eq_none hskip hroot' (failure_relist_iff.2 hw)
  refine (List.perm_ext_iff_of_nodup hcovers'.entries_nodup hcovers.entries_nodup).2 ?_
  rintro ⟨d, name⟩
  rw [hcovers.mem_entries, hcovers'.mem_entries, FileSystem.reachable_relist,
    FileSystem.mem_componentsIn_relist]

/-- What reading a placed component file yields depends on its place. -/
theorem map_bytes_eq {ws : List (Find fs.Directory)}
    (hplaced : ∀ f ∈ ws, f.Placed fs skip extension root start) :
    ws.map Find.bytes = (ws.map Find.entry).map fun e => (fs.entry e.1 e.2).bytes := by
  rw [List.map_map]
  refine List.map_congr_left ?_
  intro f hf
  obtain ⟨_, -, -, -, hbytes⟩ := hplaced f hf
  exact hbytes

/-- In either order, a walk reads the same. -/
theorem bytes_relist_perm (hskip : root.name ∉ skip) (hroot : fs.Lists root start)
    (hw : (walk fs root skip extension).failure = none) :
    ((walk (fs.relist names' h) root skip extension).finds.map Find.bytes).Perm
      ((walk fs root skip extension).finds.map Find.bytes) := by
  have hroot' : (fs.relist names' h).Lists root start := hroot
  rw [map_bytes_eq (placed_walk extension hskip hroot).finds,
    map_bytes_eq (placed_walk extension hskip hroot').finds]
  exact (entries_relist_perm hskip hroot hw).map _

theorem placed_relist_iff {f : Find fs.Directory} :
    f.Placed (fs.relist names' h) skip extension root start ↔
      f.Placed fs skip extension root start := by
  refine exists_congr fun names => ?_
  rw [FileSystem.leads_relist, FileSystem.mem_componentsIn_relist]

/-- Without two ways to a directory, a component file has one path only. -/
theorem Find.Placed.eq_of_treelike (htree : fs.Treelike skip start) {f g : Find fs.Directory}
    (hf : f.Placed fs skip extension root start) (hg : g.Placed fs skip extension root start)
    (hentry : f.entry = g.entry) : f = g := by
  obtain ⟨names, hleads, hfpath, -, hfbytes⟩ := hf
  obtain ⟨names', hleads', hgpath, -, hgbytes⟩ := hg
  obtain ⟨path, d, name, bytes⟩ := f
  obtain ⟨path', d', name', bytes'⟩ := g
  obtain ⟨rfl, rfl⟩ := Prod.mk.inj hentry
  obtain rfl := htree hleads hleads'
  simp only at hfpath hgpath hfbytes hgbytes
  rw [hfpath, hgpath, hfbytes, hgbytes]

/-- Without two ways to a directory, the walks find the same component files under the same
paths. -/
theorem finds_relist_perm_of_treelike (hskip : root.name ∉ skip) (hroot : fs.Lists root start)
    (hw : (walk fs root skip extension).failure = none) (htree : fs.Treelike skip start) :
    ((walk (fs.relist names' h) root skip extension).finds).Perm
      (walk fs root skip extension).finds := by
  have hroot' : (fs.relist names' h).Lists root start := hroot
  have hcovers := covers_of_failure_eq_none hskip hroot hw
  have hcovers' := covers_of_failure_eq_none hskip hroot' (failure_relist_iff.2 hw)
  have hplaced := (placed_walk extension hskip hroot).finds
  have hplaced' := (placed_walk extension hskip hroot').finds
  have hentries := entries_relist_perm (h := h) hskip hroot hw
  refine (List.perm_ext_iff_of_nodup (List.Nodup.of_map _ hcovers'.entries_nodup)
    (List.Nodup.of_map _ hcovers.entries_nodup)).2 fun f => ⟨fun hf => ?_, fun hf => ?_⟩
  · obtain ⟨g, hg, hentry⟩ := List.mem_map.1 (hentries.mem_iff.1 (List.mem_map_of_mem hf))
    have heq : g = f :=
      (hplaced g hg).eq_of_treelike htree (placed_relist_iff.1 (hplaced' f hf)) hentry
    exact heq ▸ hg
  · obtain ⟨g, hg, hentry⟩ := List.mem_map.1 (hentries.mem_iff.2 (List.mem_map_of_mem hf))
    have heq : g = f :=
      (placed_relist_iff.1 (hplaced' g hg)).eq_of_treelike htree (hplaced f hf) hentry
    exact heq ▸ hg

end

/-! ## Any root -/

section
variable {fs : FileSystem} {names' : fs.Directory → List String}
  {h : ∀ d, (names' d).Perm (fs.names d)} {skip : List String} {extension : String} {root : Path}

/-- The same for any root. -/
theorem bytes_walk_relist_perm (hw : (walk fs root skip extension).failure = none) :
    ((walk (fs.relist names' h) root skip extension).finds.map Find.bytes).Perm
      ((walk fs root skip extension).finds.map Find.bytes) := by
  by_cases hskip : root.name ∈ skip
  · rw [walk_of_mem_skip hskip, walk_of_mem_skip hskip]
  · obtain ⟨start, hroot⟩ := exists_lists hskip hw
    exact bytes_relist_perm hskip hroot hw

/-- The same for any root. -/
theorem finds_walk_relist_perm (hw : (walk fs root skip extension).failure = none)
    (htree : ∀ start, fs.Lists root start → fs.Treelike skip start) :
    ((walk (fs.relist names' h) root skip extension).finds).Perm
      (walk fs root skip extension).finds := by
  by_cases hskip : root.name ∈ skip
  · rw [walk_of_mem_skip hskip, walk_of_mem_skip hskip]
  · obtain ⟨start, hroot⟩ := exists_lists hskip hw
    exact finds_relist_perm_of_treelike hskip hroot hw (htree start hroot)

end

end ComponentCensus
