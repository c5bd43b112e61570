import Mathlib.Data.List.Sort
import ComponentCensus.Proofs.Files.Trace

/-!
# The order of a walk

A walk is depth first: what is below an entry comes right behind it, before the entries that are
listed later.  This is the lexicographic order of addresses.

* `FileSystem.address` — the address of an entry: where each name of its chain stands among the
  entries that its directory lists.  Addresses grow along chains (`Leads.address_append`).
* `Parts` — addresses that part, with the earlier one first.  Whatever extends them parts as well.
* `PartsInTurn` — the invariant of the entries that are still to be looked at: they part, in order.
* `Traces.ordered`, `ordered_walk` — a walk tells of entries in the order of their addresses,
  whether it fails or not.
* `ordered_filterMap`, `ordered_paths` — so do the paths that are read off its events.  They are
  determined by their set (`eq_of_ordered`).
-/

set_option autoImplicit false

namespace ComponentCensus

/-! ## Addresses that part -/

/-- At some place, the first address turns to an earlier entry than the second one. -/
def Parts (a b : List Nat) : Prop := ∃ r i j, i < j ∧ r ++ [i] <+: a ∧ r ++ [j] <+: b

namespace Parts

variable {a b a' b' : List Nat}

theorem mono (h : Parts a b) (ha : a <+: a') (hb : b <+: b') : Parts a' b' := by
  obtain ⟨r, i, j, hij, hi, hj⟩ := h
  exact ⟨r, i, j, hij, hi.trans ha, hj.trans hb⟩

theorem lt (h : Parts a b) : a < b := by
  obtain ⟨r, i, j, hij, ⟨s, rfl⟩, ⟨t, rfl⟩⟩ := h
  rw [List.append_assoc, List.append_assoc]
  exact List.append_left_lt (List.cons_lt_cons_iff.2 (.inl hij))

end Parts

/-- An address comes before its proper extensions. -/
theorem lt_of_concat_prefix {a b : List Nat} {i : Nat} (h : a ++ [i] <+: b) : a < b := by
  obtain ⟨s, rfl⟩ := h
  calc a = a ++ [] := (List.append_nil a).symm
    _ < a ++ ([i] ++ s) := List.append_left_lt (List.nil_lt_cons i s)
    _ = a ++ [i] ++ s := (List.append_assoc ..).symm

/-- In a list without repetitions, every element stands before those that follow it. -/
theorem pairwise_idxOf_lt {α : Type} [BEq α] [LawfulBEq α] {l : List α} (h : l.Nodup) :
    l.Pairwise fun a b => l.idxOf a < l.idxOf b := by
  induction l with
  | nil => exact .nil
  | cons x l ih =>
    obtain ⟨hx, hl⟩ := List.nodup_cons.1 h
    have hidx : ∀ a ∈ l, (x :: l).idxOf a = l.idxOf a + 1 := by
      intro a ha
      refine List.idxOf_cons_ne l ?_
      rintro rfl
      exact hx ha
    refine List.pairwise_cons.2 ⟨fun a ha => ?_, (ih hl).imp_of_mem fun ha hb hlt => ?_⟩
    · rw [List.idxOf_cons_self, hidx a ha]
      exact Nat.succ_pos _
    · rw [hidx _ ha, hidx _ hb]
      exact Nat.succ_lt_succ hlt

/-! ## The address of an entry -/

namespace FileSystem

variable {fs : FileSystem} {skip : List String} {start d : fs.Directory} {names : List String}

/-- Where the names of a chain stand in the listings of the directories that it leads through. -/
def address (fs : FileSystem) (d : fs.Directory) : List String → List Nat
  | [] => []
  | name :: names =>
    (fs.names d).idxOf name ::
      match (fs.entry d name).listed with
      | .ok e => fs.address e names
      | .error _ => []

/-- Behind a chain, the address goes on from the directory at its end. -/
theorem Leads.address_append (h : fs.Leads skip start names d) (names' : List String) :
    fs.address start (names ++ names') = fs.address start names ++ fs.address d names' := by
  induction h generalizing names' with
  | here => rfl
  | @down names d e name _ _ opens ih =>
    have hstep : ∀ names', fs.address d (name :: names') =
        (fs.names d).idxOf name :: fs.address e names' := fun names' => by
      rw [address, opens.listed]
    rw [List.append_assoc, List.singleton_append, ih, hstep, ih [name], hstep, List.append_assoc]
    rfl

theorem Leads.address_concat (h : fs.Leads skip start names d) (name : String) :
    fs.address start (names ++ [name]) = fs.address start names ++ [(fs.names d).idxOf name] := by
  rw [h.address_append, address]
  cases (fs.entry d name).listed <;> rfl

/-- The address of the entry at a path below a root. -/
def addressOf (fs : FileSystem) (root : Path) (start : fs.Directory) (path : Path) : List Nat :=
  fs.address start (path.components.drop root.components.length)

@[simp] theorem addressOf_descend (root : Path) (start : fs.Directory) (names : List String) :
    fs.addressOf root start (root.descend names) = fs.address start names := by
  simp [addressOf, Path.descend]

/-- The first path is at an earlier place than the second one, if the tree is gone through depth
first and in the order in which directories are listed. -/
def Before (fs : FileSystem) (root : Path) (start : fs.Directory) (path path' : Path) : Prop :=
  fs.addressOf root start path < fs.addressOf root start path'

end FileSystem

/-! ## The order of events -/

section
variable {fs : FileSystem} {skip : List String} {extension : String} {root : Path}
  {start : fs.Directory}

/-- The entries of a directory lie one step below it, in the order in which they are listed. -/
theorem addressOf_of_mem_pendingIn {names : List String} {d : fs.Directory}
    (h : fs.Leads skip start names d) {p : Pending fs.Directory}
    (hp : p ∈ fs.pendingIn (root.descend names) d) :
    fs.addressOf root start p.path =
      fs.addressOf root start (root.descend names) ++ [(fs.names d).idxOf p.name] := by
  obtain ⟨name, -, rfl⟩ := List.mem_map.1 hp
  rw [Pending.path, Path.child_descend, FileSystem.addressOf_descend,
    FileSystem.addressOf_descend, h.address_concat]

/-- The addresses of the entries part, those of earlier entries first. -/
def PartsInTurn (fs : FileSystem) (root : Path) (start : fs.Directory)
    (pending : List (Pending fs.Directory)) : Prop :=
  pending.Pairwise fun p q =>
    Parts (fs.addressOf root start p.path) (fs.addressOf root start q.path)

theorem partsInTurn_pendingIn {names : List String} {d : fs.Directory}
    (h : fs.Leads skip start names d) :
    PartsInTurn fs root start (fs.pendingIn (root.descend names) d) := by
  refine List.pairwise_map.2 ((pairwise_idxOf_lt (fs.names_nodup d)).imp_of_mem ?_)
  intro name name' hname hname' hlt
  rw [addressOf_of_mem_pendingIn h (List.mem_map_of_mem hname),
    addressOf_of_mem_pendingIn h (List.mem_map_of_mem hname')]
  exact ⟨_, _, _, hlt, List.prefix_rfl, List.prefix_rfl⟩

/-- What is entered is at the end of a chain. -/
theorem Pending.Placed.down {p : Pending fs.Directory} {d : fs.Directory}
    (hp : p.Placed fs skip root start) (opens : fs.Opens skip p.directory p.name d) :
    ∃ names, fs.Leads skip start names d ∧ p.path = root.descend names := by
  obtain ⟨names, hleads, hpath⟩ := hp.path
  obtain ⟨-, -, -, hname⟩ := hp
  exact ⟨names ++ [p.name], .down hleads hname opens, hpath⟩

section Enter

variable {p q : Pending fs.Directory} {rest : List (Pending fs.Directory)} {d : fs.Directory}

theorem Pending.Placed.inner (hp : p.Placed fs skip root start)
    (opens : fs.Opens skip p.directory p.name d) (hq : q ∈ fs.pendingIn p.path d) :
    q.Placed fs skip root start := by
  obtain ⟨names, hleads, hpath⟩ := hp.down opens
  exact placed_of_mem_pendingIn hleads (hpath ▸ hq)

theorem Pending.Placed.address_inner (hp : p.Placed fs skip root start)
    (opens : fs.Opens skip p.directory p.name d) (hq : q ∈ fs.pendingIn p.path d) :
    ∃ i, fs.addressOf root start q.path = fs.addressOf root start p.path ++ [i] := by
  obtain ⟨names, hleads, hpath⟩ := hp.down opens
  rw [hpath] at hq ⊢
  exact ⟨_, addressOf_of_mem_pendingIn hleads hq⟩

/-- The entries of a directory part from one another, and from what comes after the directory as the
directory does. -/
theorem PartsInTurn.enter (hparts : PartsInTurn fs root start (p :: rest))
    (hp : p.Placed fs skip root start) (opens : fs.Opens skip p.directory p.name d) :
    PartsInTurn fs root start (fs.pendingIn p.path d ++ rest) := by
  obtain ⟨hfirst, hrest⟩ := List.pairwise_cons.1 hparts
  obtain ⟨names, hleads, hpath⟩ := hp.down opens
  refine List.pairwise_append.2 ⟨hpath ▸ partsInTurn_pendingIn hleads, hrest, ?_⟩
  intro q hq q' hq'
  obtain ⟨i, hi⟩ := hp.address_inner opens hq
  exact (hfirst q' hq').mono (hi ▸ List.prefix_append _ _) List.prefix_rfl

end Enter

/-- Every event is about one of the given entries or about something below it, and the events come
in the order of addresses. -/
theorem Traces.ordered {before : List fs.Directory} {pending : List (Pending fs.Directory)}
    {w : Walk fs.Directory} (h : Traces fs skip extension before pending w)
    (hplaced : ∀ p ∈ pending, p.Placed fs skip root start)
    (hparts : PartsInTurn fs root start pending) :
    (∀ e ∈ w.events, ∃ p ∈ pending,
        fs.addressOf root start p.path <+: fs.addressOf root start e.path) ∧
      w.events.Pairwise fun e e' => fs.Before root start e.path e'.path := by
  induction h with
  | done => simp
  | fail => simp
  | ignore _ _ _ ih =>
    obtain ⟨hbelow, hpairwise⟩ :=
      ih (fun q hq => hplaced q (List.mem_cons_of_mem _ hq)) (List.pairwise_cons.1 hparts).2
    refine ⟨fun e he => ?_, hpairwise⟩
    obtain ⟨q, hq, hprefix⟩ := hbelow e he
    exact ⟨q, List.mem_cons_of_mem _ hq, hprefix⟩
  | @tell before p rest w e htells _ _ ih =>
    obtain ⟨hfirst, hrest⟩ := List.pairwise_cons.1 hparts
    obtain ⟨hbelow, hpairwise⟩ := ih (fun q hq => hplaced q (List.mem_cons_of_mem _ hq)) hrest
    refine ⟨fun e' he' => ?_, List.pairwise_cons.2 ⟨fun e' he' => ?_, hpairwise⟩⟩
    · rcases List.mem_cons.1 he' with rfl | he'
      · exact ⟨p, List.mem_cons_self .., htells.path_eq ▸ List.prefix_rfl⟩
      · obtain ⟨q, hq, hprefix⟩ := hbelow e' he'
        exact ⟨q, List.mem_cons_of_mem _ hq, hprefix⟩
    · obtain ⟨q, hq, hprefix⟩ := hbelow e' he'
      rw [FileSystem.Before, htells.path_eq]
      exact ((hfirst q hq).mono List.prefix_rfl hprefix).lt
  | @enter before p rest w d htells _ ih =>
    have hp := hplaced p (List.mem_cons_self ..)
    have hfirst := (List.pairwise_cons.1 hparts).1
    have hinner : ∀ q ∈ fs.pendingIn p.path d ++ rest, q.Placed fs skip root start := by
      intro q hq
      rcases List.mem_append.1 hq with hq | hq
      · exact hp.inner htells.opens hq
      · exact hplaced q (List.mem_cons_of_mem _ hq)
    obtain ⟨hbelow, hpairwise⟩ := ih hinner (hparts.enter hp htells.opens)
    -- an entry of the directory has the address of the directory and one more place
    refine ⟨fun e he => ?_, List.pairwise_cons.2 ⟨fun e he => ?_, hpairwise⟩⟩
    · rcases List.mem_cons.1 he with rfl | he
      · exact ⟨p, List.mem_cons_self .., List.prefix_rfl⟩
      · obtain ⟨q, hq, hprefix⟩ := hbelow e he
        rcases List.mem_append.1 hq with hq | hq
        · obtain ⟨i, hi⟩ := hp.address_inner htells.opens hq
          exact ⟨p, List.mem_cons_self .., (hi ▸ List.prefix_append _ _).trans hprefix⟩
        · exact ⟨q, List.mem_cons_of_mem _ hq, hprefix⟩
    · obtain ⟨q, hq, hprefix⟩ := hbelow e he
      rcases List.mem_append.1 hq with hq | hq
      · obtain ⟨i, hi⟩ := hp.address_inner htells.opens hq
        exact lt_of_concat_prefix (hi ▸ hprefix)
      · exact ((hfirst q hq).mono List.prefix_rfl hprefix).lt

/-- A walk tells of the root first, then of everything below it in the order of addresses. -/
theorem ordered_walk (extension : String) (hskip : root.name ∉ skip)
    (hroot : fs.Lists root start) :
    (walk fs root skip extension).events.Pairwise fun e e' =>
      fs.Before root start e.path e'.path := by
  have hhere : fs.Leads skip start [] start := .here
  have hentries : fs.pendingIn root start = fs.pendingIn (root.descend []) start := by
    rw [Path.descend_nil]
  have hplaced : ∀ p ∈ fs.pendingIn root start, p.Placed fs skip root start :=
    fun p hp => placed_of_mem_pendingIn hhere (hentries ▸ hp)
  have hparts : PartsInTurn fs root start (fs.pendingIn root start) :=
    hentries ▸ partsInTurn_pendingIn hhere
  obtain ⟨hbelow, hpairwise⟩ :=
    (traces_walkFrom extension [start] (fs.pendingIn root start)).ordered hplaced hparts
  rw [walk_eq hskip hroot]
  refine List.pairwise_cons.2 ⟨fun e he => ?_, hpairwise⟩
  obtain ⟨p, hp, hprefix⟩ := hbelow e he
  rw [addressOf_of_mem_pendingIn hhere (hentries ▸ hp), Path.descend_nil] at hprefix
  exact lt_of_concat_prefix hprefix

/-- What is read off the events of a walk, with their paths, is in the order of addresses. -/
theorem ordered_filterMap (extension : String) (hskip : root.name ∉ skip)
    (hroot : fs.Lists root start) {f : Event fs.Directory → Option Path}
    (hf : ∀ e path, f e = some path → e.path = path) :
    ((walk fs root skip extension).events.filterMap f).Pairwise (fs.Before root start) := by
  refine List.pairwise_filterMap.2 ((ordered_walk extension hskip hroot).imp ?_)
  intro e e' hbefore path hpath path' hpath'
  rwa [← hf e path hpath, ← hf e' path' hpath']

/-- A walk finds component files in the order of addresses. -/
theorem ordered_paths (extension : String) (hskip : root.name ∉ skip)
    (hroot : fs.Lists root start) :
    (walk fs root skip extension).paths.Pairwise (fs.Before root start) := by
  refine ordered_filterMap extension hskip hroot fun e path hpath => ?_
  cases e with
  | found => exact Option.some.inj hpath
  | _ => cases hpath

/-- Nothing is at an earlier place than itself. -/
instance : Std.Irrefl (fs.Before root start) := ⟨fun _ => List.lt_irrefl _⟩

instance : Std.Antisymm (fs.Before root start) :=
  ⟨fun _ _ hlt hgt => absurd hgt (List.lt_asymm hlt)⟩

/-- Paths in the order of addresses are determined by their set. -/
theorem eq_of_ordered {paths paths' : List Path} (h : paths.Pairwise (fs.Before root start))
    (h' : paths'.Pairwise (fs.Before root start)) (hmem : ∀ p, p ∈ paths ↔ p ∈ paths') :
    paths = paths' :=
  h.eq_of_mem_iff h' hmem

end

end ComponentCensus
