import ComponentCensus.Files.Volume
import ComponentCensus.Proofs.Files.Respelling

/-!
# Paths on a volume

A file system may show one thing at a path and another at the entry that the path spells.  On a
volume the two agree as long as the path keeps to the limits of the volume: names are looked up one
after the other, and all that matters of the names in front is where they have led and how many
links are left to be followed.

* `Volume.lookup_induction` — an induction along a look, one case for each way in which it goes on.
* `Volume.lookup_mono` — with more links to spare a look comes to the same end, unless the links did
  not suffice.
* `Volume.lookup_append_eq_bind` — names are looked up from where those in front of them have led.
* `Volume.Fits` — a path within the limits.
* `Volume.followed_of_fits` — a walk finds at a path within the limits what is at the path.
* `Volume.Named`, `Volume.named_filled` — a volume that is filled along paths of names has
  entries with names.
-/

set_option autoImplicit false

namespace ComponentCensus

namespace Volume

variable {v : Volume} {budget more dir i : Nat} {name : String} {names rest : List String}

/-! ## Looking up names -/

@[simp] theorem lookup_nil (v : Volume) (budget dir : Nat) : v.lookup budget dir [] = .ok dir := by
  cases budget <;> rfl

theorem lookup_cons_of_error {reason : Reason} (h : v.onward dir name = .error reason) :
    v.lookup budget dir (name :: rest) = .error reason := by
  cases budget <;> simp only [lookup, along, h]

theorem lookup_cons_of_node (h : v.onward dir name = .ok (.node i)) :
    v.lookup budget dir (name :: rest) = v.lookup budget i rest := by
  cases budget <;> simp only [lookup, along, h]

theorem lookup_zero_of_link {start : Nat} (h : v.onward dir name = .ok (.link start names)) :
    v.lookup 0 dir (name :: rest) = .error .tooManyLinks := by
  simp only [lookup, along, h]

theorem lookup_succ_of_link {start : Nat} (h : v.onward dir name = .ok (.link start names)) :
    v.lookup (budget + 1) dir (name :: rest) = v.lookup budget start (names ++ rest) := by
  simp only [lookup, along, h]

/-- What holds of a look if it holds of what the look goes on with. -/
theorem lookup_induction {motive : Nat → Nat → List String → Prop}
    (nil : ∀ budget dir, motive budget dir [])
    (error : ∀ {budget dir name rest reason}, v.onward dir name = .error reason →
      motive budget dir (name :: rest))
    (node : ∀ {budget dir name rest i}, v.onward dir name = .ok (.node i) →
      motive budget i rest → motive budget dir (name :: rest))
    (exhausted : ∀ {dir name rest start names}, v.onward dir name = .ok (.link start names) →
      motive 0 dir (name :: rest))
    (link : ∀ {budget dir name rest start names}, v.onward dir name = .ok (.link start names) →
      motive budget start (names ++ rest) → motive (budget + 1) dir (name :: rest))
    (budget dir : Nat) (names : List String) : motive budget dir names := by
  -- the links that are left decrease at a link, the names everywhere else
  have hnames : ∀ budget, (∀ {dir name rest start names},
      v.onward dir name = .ok (.link start names) → motive budget dir (name :: rest)) →
      ∀ names dir, motive budget dir names := by
    intro budget hlink names
    induction names with
    | nil => exact nil budget
    | cons name rest ih =>
      intro dir
      cases honward : v.onward dir name with
      | error reason => exact error honward
      | ok o =>
        cases o with
        | node i => exact node honward (ih i)
        | link start names => exact hlink honward
  induction budget generalizing dir names with
  | zero => exact hnames 0 exhausted names dir
  | succ budget ih => exact hnames (budget + 1) (fun honward => link honward (ih _ _)) names dir

/-- With more links to spare a look comes to the same end, unless the links did not suffice. -/
theorem lookup_mono (h : v.lookup budget dir names ≠ .error .tooManyLinks) (hle : budget ≤ more) :
    v.lookup more dir names = v.lookup budget dir names := by
  induction budget, dir, names using lookup_induction (v := v) generalizing more with
  | nil budget dir => rw [lookup_nil, lookup_nil]
  | error honward => rw [lookup_cons_of_error honward, lookup_cons_of_error honward]
  | node honward ih =>
    rw [lookup_cons_of_node honward] at h ⊢
    rw [lookup_cons_of_node honward, ih h hle]
  | exhausted honward => exact absurd (lookup_zero_of_link honward) h
  | link honward ih =>
    obtain ⟨more, rfl⟩ := Nat.exists_eq_add_of_le' (Nat.le_trans (Nat.le_add_left 1 _) hle)
    rw [lookup_succ_of_link honward] at h ⊢
    rw [lookup_succ_of_link honward, ih h (Nat.le_of_add_le_add_right hle)]

/-- Names are looked up from where those in front of them have led, with the links that these have
left. -/
theorem lookup_append_eq_bind (v : Volume) (budget dir : Nat) (names : List String) :
    ∃ left ≤ budget, ∀ rest, v.lookup budget dir (names ++ rest) =
      (v.lookup budget dir names).bind fun i => v.lookup left i rest := by
  induction budget, dir, names using lookup_induction (v := v) with
  | nil budget dir =>
    refine ⟨budget, Nat.le_refl budget, fun rest => ?_⟩
    rw [lookup_nil]
    rfl
  | @error budget _ _ _ _ honward =>
    refine ⟨budget, Nat.le_refl budget, fun rest => ?_⟩
    rw [List.cons_append, lookup_cons_of_error honward, lookup_cons_of_error honward]
    rfl
  | node honward ih =>
    obtain ⟨left, hle, hrest⟩ := ih
    refine ⟨left, hle, fun rest => ?_⟩
    rw [List.cons_append, lookup_cons_of_node honward, lookup_cons_of_node honward, hrest]
  | exhausted honward =>
    refine ⟨0, Nat.le_refl 0, fun rest => ?_⟩
    rw [List.cons_append, lookup_zero_of_link honward, lookup_zero_of_link honward]
    rfl
  | link honward ih =>
    obtain ⟨left, hle, hrest⟩ := ih
    refine ⟨left, Nat.le_succ_of_le hle, fun rest => ?_⟩
    rw [List.cons_append, lookup_succ_of_link honward, lookup_succ_of_link honward,
      ← List.append_assoc, hrest]

/-- Where the names in front lead nowhere, no name leads further. -/
theorem lookup_append_of_error {reason : Reason} (h : v.lookup budget dir names = .error reason)
    (rest : List String) : v.lookup budget dir (names ++ rest) = .error reason := by
  obtain ⟨left, -, hrest⟩ := lookup_append_eq_bind v budget dir names
  rw [hrest, h]
  rfl

/-- Names are looked up as if those in front of them had followed no link, unless the links do not
suffice. -/
theorem lookup_append (h : v.lookup budget dir names = .ok i) (rest : List String) :
    v.lookup budget dir (names ++ rest) = v.lookup budget i rest ∨
      v.lookup budget dir (names ++ rest) = .error .tooManyLinks := by
  obtain ⟨left, hle, hrest⟩ := lookup_append_eq_bind v budget dir names
  have hleft : v.lookup budget dir (names ++ rest) = v.lookup left i rest := by
    rw [hrest, h]
    rfl
  rw [hleft]
  by_cases hlinks : v.lookup left i rest = .error .tooManyLinks
  · exact .inr hlinks
  · exact .inl (lookup_mono hlinks hle).symm

/-! ## What is at a path -/

/-- A path within the limits of a volume. -/
structure Fits (v : Volume) (path : Path) : Prop where
  noNul : '\x00' ∉ path.text.toList
  short : path.text.utf8ByteSize < pathLimit
  links : v.lookup linkLimit (v.startOf path.anchor) path.components ≠ .error .tooManyLinks

instance (v : Volume) (path : Path) : Decidable (v.Fits path) :=
  decidable_of_iff ('\x00' ∉ path.text.toList ∧ path.text.utf8ByteSize < pathLimit ∧
      v.lookup linkLimit (v.startOf path.anchor) path.components ≠ .error .tooManyLinks)
    ⟨fun h => ⟨h.1, h.2.1, h.2.2⟩, fun h => ⟨h.noNul, h.short, h.links⟩⟩

/-- A look that shows a directory which can be listed has led to it. -/
theorem eq_ok_of_listed_sight {found : Except Reason Nat} {d : Fin v.nodes.size}
    (h : (v.sight name found).listed = .ok d) : found = .ok d.val := by
  rw [Sighting.listed_eq_ok_iff] at h
  unfold sight at h
  split at h
  · split at h <;> cases h
  · split at h
    · split at h
      · injection h with hidentity
        cases hidentity
        rfl
      · cases h
      · cases h
    · cases h

theorem visit_of_fits {path : Path} (h : v.Fits path) :
    v.visit path =
      some (v.sight path.name (v.lookup linkLimit (v.startOf path.anchor) path.components)) := by
  rw [visit, if_neg (by simpa using h.noNul), if_neg (Nat.not_le.2 h.short)]

section
variable {skip : List String} {extension : String} {root : Path}
  {start d : v.fileSystem.Directory}

/-- A root that can be listed is where its components lead. -/
theorem lookup_of_lists (h : v.fileSystem.Lists root start) :
    v.lookup linkLimit (v.startOf root.anchor) root.components = .ok start.val := by
  obtain ⟨s, hvisit, hlisted⟩ := h
  replace hvisit : v.visit root = some s := hvisit
  unfold visit at hvisit
  split at hvisit
  · cases hvisit
  · split at hvisit
    · cases hvisit
      cases hlisted
    · cases hvisit
      exact eq_ok_of_listed_sight hlisted

/-- The path of a chain of entries leads to where the chain ends, unless the links do not
suffice. -/
theorem lookup_of_leads (hroot : v.fileSystem.Lists root start)
    (h : v.fileSystem.Leads skip start names d) :
    v.lookup linkLimit (v.startOf root.anchor) (root.components ++ names) = .ok d.val ∨
      v.lookup linkLimit (v.startOf root.anchor) (root.components ++ names) =
        .error .tooManyLinks := by
  induction h with
  | here => exact .inl ((List.append_nil _).symm ▸ lookup_of_lists hroot)
  | @down names d e name _ _ hopens ih =>
    have hentry : v.lookup linkLimit d.val [name] = .ok e.val := eq_ok_of_listed_sight hopens.listed
    rw [← List.append_assoc]
    rcases ih with hd | hlinks
    · rw [← hentry]
      exact lookup_append hd [name]
    · exact .inr (lookup_append_of_error hlinks [name])

/-- **A walk finds at a path within the limits what is at the path.** -/
theorem followed_of_fits {f : Find v.fileSystem.Directory}
    (hf : f ∈ (walk v.fileSystem root skip extension).finds) (hfits : v.Fits f.path) :
    f.Followed v.fileSystem := by
  obtain ⟨start, hroot, names, hleads, hpath, -, -⟩ := exists_placed hf
  have hname : f.path.name = f.name := by rw [hpath, Path.name_descend_concat]
  have hcomponents : f.path.components = root.components ++ names ++ [f.name] := by
    rw [hpath, List.append_assoc]
    rfl
  have hanchor : f.path.anchor = root.anchor := by
    rw [hpath]
    rfl
  have hlinks := hfits.links
  rw [hcomponents, hanchor] at hlinks
  have hlookup : v.lookup linkLimit (v.startOf root.anchor)
      (root.components ++ names ++ [f.name]) = v.lookup linkLimit f.directory.val [f.name] := by
    rcases lookup_of_leads hroot hleads with hd | herror
    · exact (lookup_append hd [f.name]).resolve_right hlinks
    · exact absurd (lookup_append_of_error herror [f.name]) hlinks
  show v.visit f.path = some (v.sight f.name (v.lookup linkLimit f.directory.val [f.name]))
  rw [visit_of_fits hfits, hname, hcomponents, hanchor, hlookup]

end

/-! ## The names on a volume -/

/-- The entries of all directories have names. -/
def Named (v : Volume) : Prop := ∀ node ∈ v.nodes, ∀ name ∈ namesOf node, IsName name

/-- What a part of a path or of the target of a link can be: a name, or the point that stands for
the same place. -/
def IsStep (name : String) : Prop := name = "." ∨ IsName name

theorem Named.listsNames (h : v.Named) : v.fileSystem.ListsNames :=
  fun d => h _ (Array.getElem_mem d.isLt)

theorem mem_insertEntry {entries : List (String × Nat)} {e : String × Nat}
    (h : e ∈ insertEntry name i entries) : e = (name, i) ∨ e ∈ entries := by
  induction entries with
  | nil => exact .inl (List.mem_singleton.1 h)
  | cons f entries ih =>
    rw [insertEntry] at h
    split at h
    · exact (List.mem_cons.1 h)
    · split at h
      · exact (List.mem_cons.1 h).imp_right (List.mem_cons_of_mem _)
      · rcases List.mem_cons.1 h with rfl | h
        · exact .inr List.mem_cons_self
        · exact (ih h).imp_right (List.mem_cons_of_mem _)

/-- An entry with a name, for a node that has no entries yet. -/
theorem Named.addNode (h : v.Named) {node : Node} (hnode : namesOf node = []) (dir : Nat)
    (hname : IsName name) : (v.addNode dir name node).Named := by
  unfold Volume.addNode
  split
  · rename_i parent entries hdir
    intro node' hmem
    rcases Array.mem_push.1 hmem with hmem | rfl
    · rcases Array.mem_or_eq_of_mem_setIfInBounds hmem with hmem | rfl
      · exact h node' hmem
      · intro other hother
        obtain ⟨e, he, rfl⟩ := List.mem_map.1 (List.mem_eraseDups.1 hother)
        rcases mem_insertEntry he with rfl | he
        · exact hname
        · refine h _ (Array.mem_of_getElem? hdir) e.1 (List.mem_eraseDups.2 ?_)
          exact List.mem_map_of_mem he
    · simp [hnode]
  · exact h

/-- A name that a directory does not know is no point. -/
theorem Named.addNode_of_error (h : v.Named) {node : Node} (hnode : namesOf node = [])
    {reason : Reason} (hlookup : v.lookup linkLimit dir [name] = .error reason)
    (hname : IsStep name) : (v.addNode dir name node).Named := by
  rcases hname with rfl | hname
  · unfold Volume.addNode
    split
    · rename_i parent entries hdir
      have honward : v.onward dir "." = .ok (.node dir) := by simp only [onward, hdir, if_pos]
      cases (lookup_cons_of_node honward).symm.trans hlookup
    · exact h
  · exact h.addNode hnode dir hname

theorem Named.ensureDirectory (h : v.Named) (dir : Nat) (hnames : ∀ name ∈ names, IsStep name) :
    (v.ensureDirectory dir names).1.Named := by
  induction names generalizing v dir with
  | nil => exact h
  | cons name names ih =>
    obtain ⟨hname, hnames⟩ := List.forall_mem_cons.1 hnames
    rw [Volume.ensureDirectory]
    split
    · exact ih h _ hnames
    · rename_i hlookup
      exact ih (h.addNode_of_error rfl hlookup hname) _ hnames

theorem isStep_of_mem_targetComponents {target : String} (h : name ∈ targetComponents target) :
    IsStep name := by
  have hpiece : ∀ name ∈ ((Text.splitOn '/' target.toList).filter (· ≠ [])).map String.ofList,
      IsStep name := by
    intro name hname
    obtain ⟨piece, hpiece, rfl⟩ := List.mem_map.1 hname
    obtain ⟨hmem, hne⟩ := List.mem_filter.1 hpiece
    refine or_iff_not_imp_left.2 fun hpoint => ⟨fun heq => ?_, hpoint, ?_⟩
    · exact of_decide_eq_true hne (by simpa using congrArg String.toList heq)
    · rw [String.toList_ofList]
      exact Text.not_mem_of_mem_splitOn hmem
  unfold targetComponents at h
  dsimp only at h
  split at h
  · rcases List.mem_append.1 h with h | h
    · exact hpiece name h
    · exact .inl (List.mem_singleton.1 h)
  · exact hpiece name h

/-- A node without entries in the place of another one. -/
theorem Named.setNode (h : v.Named) {node : Node} (hnode : namesOf node = []) (i : Nat) :
    { v with nodes := v.nodes.setIfInBounds i node }.Named := by
  intro node' hmem
  rcases Array.mem_or_eq_of_mem_setIfInBounds hmem with hmem | rfl
  · exact h node' hmem
  · simp [hnode]

/-- The directories on the way to the last name are made with names. -/
theorem Named.made {w : Volume} {d : Nat} (h : v.Named) (hnames : ∀ name ∈ names, IsStep name)
    (hmade : v.ensureDirectory dir names.dropLast = (w, d)) : w.Named := by
  have hw := h.ensureDirectory dir fun name hname => hnames name (List.dropLast_subset names hname)
  rwa [hmade] at hw

theorem Named.putFile (h : v.Named) (bytes : Bytes) (budget dir : Nat)
    (hnames : ∀ name ∈ names, IsStep name) : (v.putFile bytes budget dir names).Named := by
  fun_induction Volume.putFile v bytes budget dir names with
  | case1 => exact h
  | case2 =>
    rename_i hmade i _
    exact (h.made hnames hmade).setNode rfl i
  | case3 =>
    -- a link that leads nowhere: the file is put where the link leads to
    rename_i hmade _ _ _ _ _ ih
    exact ih (h.made hnames hmade) fun name => isStep_of_mem_targetComponents
  | case4 =>
    rename_i hlast _ _ hmade _ hlookup _
    have hname := hnames _ (List.mem_of_getLast? hlast)
    exact (h.made hnames hmade).addNode_of_error rfl hlookup hname

/-- One more item at a path of names. -/
theorem Named.put (h : v.Named) {path : Path} (hpath : path.Named) (item : Item) :
    (v.put path item).Named := by
  have hnames : ∀ name ∈ path.components, IsStep name := fun name hname => .inr (hpath name hname)
  unfold Volume.put
  cases item with
  | directory => exact h.ensureDirectory _ hnames
  | file bytes => exact h.putFile bytes _ _ hnames
  | link target =>
    simp only [putAt]
    split
    · exact h
    · rename_i name hlast
      exact (h.made hnames rfl).addNode rfl _ (hpath name (List.mem_of_getLast? hlast))

theorem named_withWorkingDirectory (hnames : ∀ name ∈ names, IsName name) :
    (withWorkingDirectory names).Named := by
  have hroot : ({} : Volume).Named := by
    intro node hnode
    obtain rfl : node = .directory 0 [] := by simpa using hnode
    simp [namesOf]
  exact hroot.ensureDirectory 0 fun name hname => .inr (hnames name hname)

/-- **A volume that is filled along paths of names has entries with names.** -/
theorem named_filled {working : List String} (hworking : ∀ name ∈ working, IsName name)
    {items : List (Path × Item)} (hitems : ∀ item ∈ items, item.1.Named) :
    (filled working items).Named := by
  have hput : ∀ v : Volume, v.Named →
      (items.foldl (fun v item => v.put item.1 item.2) v).Named := by
    induction items with
    | nil => exact fun v hv => hv
    | cons item items ih =>
      intro v hv
      obtain ⟨hitem, hitems⟩ := List.forall_mem_cons.1 hitems
      exact ih hitems _ (hv.put hitem item.2)
  exact hput _ (named_withWorkingDirectory hworking)

end Volume
end ComponentCensus
