import ComponentCensus.Files.FileSystem

/-!
# Tables by name

Counting modules and grouping components by module build a table in the same way: the value of a
name is changed where it stands, and a name that is new gets a value at the end.

* `alterEntry` — one such step.
* `alterEntry_eraseDups` — if the values belong to the names seen so far, the step keeps the table
  in the order in which the names are first seen.
-/

set_option autoImplicit false

namespace ComponentCensus

variable {β : Type}

/-- The table with the value of a name changed; a name that is not in the table gets a value at the
end. -/
def alterEntry (name : String) (new : β) (change : β → β) :
    List (String × β) → List (String × β)
  | [] => [(name, new)]
  | (n, b) :: entries =>
    if n = name then (n, change b) :: entries else (n, b) :: alterEntry name new change entries

theorem alterEntry_of_not_mem {name : String} {entries : List (String × β)} (new : β)
    (change : β → β) (h : ∀ e ∈ entries, e.1 ≠ name) :
    alterEntry name new change entries = entries ++ [(name, new)] := by
  induction entries with
  | nil => rfl
  | cons e entries ih =>
    obtain ⟨he, hentries⟩ := List.forall_mem_cons.1 h
    rw [alterEntry, if_neg he, ih hentries, List.cons_append]

/-- Without repeated names, the step changes the value of the name and no other. -/
theorem alterEntry_map_of_mem {name : String} {names : List String} (hnodup : names.Nodup)
    (hmem : name ∈ names) (new : β) (change : β → β) (value : String → β) :
    alterEntry name new change (names.map fun n => (n, value n)) =
      names.map fun n => (n, if n = name then change (value n) else value n) := by
  induction names with
  | nil => simp at hmem
  | cons n names ih =>
    obtain ⟨hn, hnodup⟩ := List.nodup_cons.1 hnodup
    rw [List.map_cons, List.map_cons, alterEntry]
    by_cases heq : n = name
    · subst heq
      rw [if_pos rfl, if_pos rfl]
      congr 1
      refine List.map_congr_left ?_
      intro m hm
      rw [if_neg (by rintro rfl; exact hn hm)]
    · have hmem : name ∈ names := (List.mem_cons.1 hmem).resolve_left (Ne.symm heq)
      rw [if_neg heq, if_neg heq, ih hnodup hmem]

theorem eraseDups_concat (names : List String) (name : String) :
    (names ++ [name]).eraseDups =
      if name ∈ names then names.eraseDups else names.eraseDups ++ [name] := by
  rw [List.eraseDups_append]
  by_cases hmem : name ∈ names
  · have hremove : [name].removeAll names = [] := by simp [List.removeAll, hmem]
    rw [if_pos hmem, hremove, List.eraseDups_nil, List.append_nil]
  · have hremove : [name].removeAll names = [name] := by simp [List.removeAll, hmem]
    rw [if_neg hmem, hremove, List.eraseDups_cons, List.filter_nil, List.eraseDups_nil]

/-- The step from the values that belong to some names to those that belong to one name more, which
only has an effect on the value of that name. -/
theorem alterEntry_eraseDups {name : String} {names : List String} {new : β} {change : β → β}
    {value next : String → β} (hother : ∀ n, n ≠ name → next n = value n)
    (hnew : name ∉ names → next name = new)
    (hold : name ∈ names → next name = change (value name)) :
    alterEntry name new change (names.eraseDups.map fun n => (n, value n)) =
      (names ++ [name]).eraseDups.map fun n => (n, next n) := by
  rw [eraseDups_concat]
  by_cases hmem : name ∈ names
  · rw [if_pos hmem, alterEntry_map_of_mem (nodup_eraseDups names) (List.mem_eraseDups.2 hmem)]
    refine List.map_congr_left fun n _ => ?_
    split
    · rename_i heq
      rw [heq, hold hmem]
    · rename_i hne
      rw [hother n hne]
  · have hne : ∀ n ∈ names.eraseDups, n ≠ name := by
      rintro n hn rfl
      exact hmem (List.mem_eraseDups.1 hn)
    have hsame : (names.eraseDups.map fun n => (n, next n)) =
        names.eraseDups.map fun n => (n, value n) :=
      List.map_congr_left fun n hn => by rw [hother n (hne n hn)]
    rw [if_neg hmem, alterEntry_of_not_mem new change (List.forall_mem_map.2 hne), List.map_append,
      List.map_singleton, hnew hmem, hsame]

end ComponentCensus
