import Mathlib.Data.List.Nodup
import ComponentCensus.Settings.Resolution

/-!
# Named values laid over others

What the operations on named values do to the value of a name.  Named values are a list, and a
list could give a name twice; where it does not (`NamesOnce`), the value of a name is all that
counts, and none of the operations below has to be opened again.

* `lookup_setEntry`, `lookup_dropEntry`, `lookup_filter_snd` — one value set, one name dropped, the
  values of a kind kept.
* `lookup_overlay` — the upper values win, name by name, and each is taken whole.
* `bind_eq_ok_iff`, `checkNames_eq_ok_iff` — a row of checks succeeds if each of them does, and a
  record accepts names that are all its own.
-/

set_option autoImplicit false

namespace ComponentCensus
namespace Settings

/-- No name has a value twice. -/
def NamesOnce (entries : Entries) : Prop := (entries.map Prod.fst).Nodup

instance (entries : Entries) : Decidable (NamesOnce entries) :=
  inferInstanceAs (Decidable (entries.map Prod.fst).Nodup)

variable {entries lower upper : Entries}

theorem isSome_lookup_iff {key : String} :
    (entries.lookup key).isSome ↔ key ∈ entries.map Prod.fst := by
  rw [List.lookup_isSome_iff, List.mem_map]
  constructor
  · rintro ⟨e, he, hkey⟩
    exact ⟨e, he, (beq_iff_eq.1 hkey).symm⟩
  · rintro ⟨e, he, rfl⟩
    exact ⟨e, he, beq_self_eq_true _⟩

theorem lookup_eq_none_iff_not_mem {key : String} :
    entries.lookup key = none ↔ key ∉ entries.map Prod.fst := by
  rw [← isSome_lookup_iff, Option.not_isSome_iff_eq_none]

theorem lookup_cons_of_ne {k name : String} (h : k ≠ name) (v : Value) (entries : Entries) :
    ((name, v) :: entries : Entries).lookup k = entries.lookup k := by
  have hbeq : (k == name) = false := by simpa using h
  rw [List.lookup_cons, hbeq]

/-- Where no name has a value twice, the entries are the names with their values. -/
theorem mem_iff_lookup_eq_some (h : NamesOnce entries) {k : String} {v : Value} :
    (k, v) ∈ entries ↔ entries.lookup k = some v := by
  induction entries with
  | nil => simp
  | cons e entries ih =>
    obtain ⟨name, w⟩ := e
    obtain ⟨hname, hentries⟩ := List.nodup_cons.1 h
    rw [List.mem_cons, ih hentries]
    by_cases hk : k = name
    · subst hk
      have hnone : entries.lookup k = none := lookup_eq_none_iff_not_mem.2 hname
      simp [hnone, eq_comm]
    · rw [lookup_cons_of_ne hk]
      simp [hk]

/-! ## One value -/

theorem lookup_map_set (key k : String) (v : Value) :
    (entries.map fun e => if e.1 = key then (key, v) else e).lookup k =
      if k = key then (entries.lookup key).map fun _ => v else entries.lookup k := by
  induction entries with
  | nil => simp
  | cons e entries ih =>
    obtain ⟨name, w⟩ := e
    rw [List.map_cons]
    by_cases hname : name = key
    · subst hname
      rw [if_pos rfl]
      by_cases hk : k = name
      · subst hk
        rw [List.lookup_cons_self, List.lookup_cons_self, if_pos rfl, Option.map_some]
      · rw [lookup_cons_of_ne hk, lookup_cons_of_ne hk, ih, if_neg hk, if_neg hk]
    · rw [if_neg hname]
      by_cases hk : k = name
      · subst hk
        rw [List.lookup_cons_self, List.lookup_cons_self, if_neg hname]
      · rw [lookup_cons_of_ne hk, lookup_cons_of_ne hk, lookup_cons_of_ne (Ne.symm hname), ih]

theorem lookup_setEntry (entries : Entries) (key : String) (v : Value) (k : String) :
    (setEntry entries key v).lookup k = if k = key then some v else entries.lookup k := by
  unfold setEntry
  split
  · rename_i hsome
    obtain ⟨w, hw⟩ := Option.isSome_iff_exists.1 hsome
    rw [lookup_map_set, hw, Option.map_some]
  · rename_i hnone
    rw [Option.not_isSome_iff_eq_none] at hnone
    rw [List.lookup_append]
    by_cases hk : k = key
    · subst hk
      rw [hnone, Option.none_or, List.lookup_cons_self, if_pos rfl]
    · rw [lookup_cons_of_ne hk, List.lookup_nil, Option.or_none, if_neg hk]

theorem names_setEntry (entries : Entries) (key : String) (v : Value) :
    (setEntry entries key v).map Prod.fst =
      if key ∈ entries.map Prod.fst then entries.map Prod.fst
      else entries.map Prod.fst ++ [key] := by
  unfold setEntry
  simp only [isSome_lookup_iff]
  split
  · rw [List.map_map]
    refine List.map_congr_left fun e _ => ?_
    rw [Function.comp_apply]
    split
    · rename_i hkey
      exact hkey.symm
    · rfl
  · rw [List.map_append, List.map_singleton]

theorem NamesOnce.setEntry (h : NamesOnce entries) (key : String) (v : Value) :
    NamesOnce (setEntry entries key v) := by
  rw [NamesOnce, names_setEntry]
  split
  · exact h
  · rename_i hkey
    rw [List.nodup_append]
    refine ⟨h, List.nodup_singleton key, ?_⟩
    rintro name hname k hk rfl
    exact hkey (List.mem_singleton.1 hk ▸ hname)

theorem NamesOnce.filter (h : NamesOnce entries) (p : String × Value → Bool) :
    NamesOnce (entries.filter p) :=
  h.sublist (List.filter_sublist.map Prod.fst)

theorem lookup_dropEntry (entries : Entries) (key k : String) :
    (dropEntry entries key).lookup k = if k = key then none else entries.lookup k := by
  unfold dropEntry
  induction entries with
  | nil => simp
  | cons e entries ih =>
    obtain ⟨name, w⟩ := e
    by_cases hname : name = key
    · subst hname
      rw [List.filter_cons_of_neg (by simp), ih]
      by_cases hk : k = name
      · rw [if_pos hk, if_pos hk]
      · rw [lookup_cons_of_ne hk]
    · rw [List.filter_cons_of_pos (by simpa using hname)]
      by_cases hk : k = name
      · subst hk
        rw [List.lookup_cons_self, List.lookup_cons_self, if_neg hname]
      · rw [lookup_cons_of_ne hk, lookup_cons_of_ne hk, ih]

/-- Keeping the values of a kind keeps the value of a name if it is of that kind. -/
theorem lookup_filter_snd (h : NamesOnce entries) (p : Value → Bool) (k : String) :
    (entries.filter fun e => p e.2).lookup k = (entries.lookup k).filter p := by
  induction entries with
  | nil => rfl
  | cons e entries ih =>
    obtain ⟨name, w⟩ := e
    obtain ⟨hname, hentries⟩ := List.nodup_cons.1 h
    have ih := ih hentries
    rw [List.filter_cons]
    by_cases hk : k = name
    · -- a name that is dropped here does not come again
      subst hk
      have hnone : entries.lookup k = none := lookup_eq_none_iff_not_mem.2 hname
      rw [hnone, Option.filter_none] at ih
      rw [List.lookup_cons_self, Option.filter_some]
      split
      · rw [List.lookup_cons_self]
      · exact ih
    · rw [lookup_cons_of_ne hk, ← ih]
      split
      · rw [lookup_cons_of_ne hk]
      · rfl

/-! ## All values of a place -/

/-- The upper values win. -/
theorem lookup_overlay (h : NamesOnce upper) (lower : Entries) (k : String) :
    (overlay lower upper).lookup k = (upper.lookup k).or (lower.lookup k) := by
  unfold overlay
  induction upper generalizing lower with
  | nil => rfl
  | cons e upper ih =>
    obtain ⟨name, v⟩ := e
    obtain ⟨hname, hupper⟩ := List.nodup_cons.1 h
    rw [List.foldl_cons, ih hupper, lookup_setEntry]
    by_cases hk : k = name
    · subst hk
      have hnone : upper.lookup k = none := lookup_eq_none_iff_not_mem.2 hname
      rw [hnone, Option.none_or, if_pos rfl, List.lookup_cons_self, Option.some_or]
    · rw [if_neg hk, lookup_cons_of_ne hk]

/-! ## Checks -/

theorem bind_eq_ok_iff {ε α β : Type} {x : Except ε α} {f : α → Except ε β} {b : β} :
    (x >>= f) = .ok b ↔ ∃ a, x = .ok a ∧ f a = .ok b := by
  cases x with
  | error e =>
    constructor
    · intro h
      cases h
    · rintro ⟨a, ha, -⟩
      cases ha
  | ok a =>
    constructor
    · exact fun h => ⟨a, rfl, h⟩
    · rintro ⟨a', ha, h⟩
      cases ha
      exact h

theorem bind_eq_error_iff {ε α β : Type} {x : Except ε α} {f : α → Except ε β} {e : ε} :
    (x >>= f) = .error e ↔ x = .error e ∨ ∃ a, x = .ok a ∧ f a = .error e := by
  cases x with
  | error e' => simp [bind, Except.bind]
  | ok a => simp [bind, Except.bind]

theorem throw_bind_ne_ok {ε α β : Type} {e : ε} {f : α → Except ε β} {b : β} :
    ((throw e : Except ε α) >>= f) ≠ .ok b := nofun

/-- A record accepts names that are all its own. -/
theorem checkNames_eq_ok_iff {record : String} {known names : List String} :
    checkNames record known names = .ok () ↔ ∀ name ∈ names, name ∈ known := by
  unfold checkNames
  split
  · rename_i hfind
    simpa using List.find?_eq_none.1 hfind
  · rename_i hfind
    have hmem := List.mem_of_find?_eq_some hfind
    have hunknown := List.find?_some hfind
    simp only [reduceCtorEq, false_iff, not_forall]
    exact ⟨"self", hmem, by simpa using hunknown⟩
  · rename_i name _ hfind
    have hmem := List.mem_of_find?_eq_some hfind
    have hunknown := List.find?_some hfind
    simp only [reduceCtorEq, false_iff, not_forall]
    exact ⟨name, hmem, by simpa using hunknown⟩

end Settings
end ComponentCensus
