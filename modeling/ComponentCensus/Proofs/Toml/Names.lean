import ComponentCensus.Proofs.Settings.Overlay
import ComponentCensus.Toml.Reader

/-!
# A configuration file gives a name once

The table of a configuration file is built statement by statement.  A statement either sets a name
that is not there yet or changes the value of a name in place, so the table never gives a name
twice, whatever the file says.

* `Document.namesOnce_add` — a statement keeps this.
* `Reader.Ensures` — what holds of all that a reader can return.
* `namesOnce_of_tableOfBytes` — the table of a file.
-/

set_option autoImplicit false

namespace ComponentCensus
namespace Toml

open Settings

/-! ## Statements -/

theorem namesOnce_concat {t : Table} {name : String} (h : NamesOnce t)
    (hname : t.lookup name = none) (v : Value) : NamesOnce (t ++ [(name, v)]) := by
  have hset : setEntry t name v = t ++ [(name, v)] := by
    rw [setEntry, hname]
    rfl
  exact hset ▸ h.setEntry name v

theorem namesOnce_setValue {t : Table} (h : NamesOnce t) (name : String) (v : Value) :
    NamesOnce (setValue t name v) :=
  h.setEntry name v

/-- A change that gives no name twice can be made anywhere: above it, names are only added or
kept. -/
theorem namesOnce_updateAt {throughArrays : Bool} {f : Table → Option Table} {key : List String}
    {t t' : Table} (h : NamesOnce t) (hf : ∀ u, NamesOnce u → ∀ u', f u = some u' → NamesOnce u')
    (ht : updateAt throughArrays f key t = some t') : NamesOnce t' := by
  cases key with
  | nil => exact hf t h t' ht
  | cons name key =>
    rw [updateAt] at ht
    split at ht
    · rename_i hlookup
      obtain ⟨sub, -, rfl⟩ := Option.map_eq_some_iff.1 ht
      exact namesOnce_concat h hlookup _
    · obtain ⟨sub, -, rfl⟩ := Option.map_eq_some_iff.1 ht
      exact namesOnce_setValue h _ _
    · split at ht
      · split at ht
        · obtain ⟨sub, -, rfl⟩ := Option.map_eq_some_iff.1 ht
          exact namesOnce_setValue h _ _
        · exact absurd ht (by simp)
      · exact absurd ht (by simp)
    · exact absurd ht (by simp)

theorem namesOnce_addValue {name : String} {v : Value} {t t' : Table} (h : NamesOnce t)
    (ht : addValue name v t = some t') : NamesOnce t' := by
  unfold addValue at ht
  split at ht
  · exact absurd ht (by simp)
  · rename_i hlookup
    obtain rfl := Option.some.inj ht
    exact namesOnce_concat h (Option.not_isSome_iff_eq_none.1 hlookup) v

theorem namesOnce_addTable {name : String} {t t' : Table} (h : NamesOnce t)
    (ht : addTable name t = some t') : NamesOnce t' := by
  unfold addTable at ht
  split at ht
  · rename_i hlookup
    obtain rfl := Option.some.inj ht
    exact namesOnce_concat h hlookup _
  · obtain rfl := Option.some.inj ht
    exact namesOnce_setValue h _ _
  · exact absurd ht (by simp)

namespace Document

theorem orFault_eq_ok_iff {α : Type} {result : Option α} {fault : Fault} {a : α} :
    orFault result fault = .ok a ↔ result = some a := by
  cases result <;> simp [orFault]

variable {d d' : Document}

/-- A statement keeps the names of the document apart. -/
theorem namesOnce_add (h : NamesOnce d.root) {s : Statement} (hs : d.add s = .ok d') :
    NamesOnce d'.root := by
  cases s with
  | table key =>
    simp only [add, addHeader] at hs
    split at hs
    · exact absurd hs throw_bind_ne_ok
    · obtain ⟨root, hroot, hd⟩ := bind_eq_ok_iff.1 hs
      cases hd
      exact namesOnce_updateAt h (fun u hu u' hu' => Option.some.inj hu' ▸ hu)
        (orFault_eq_ok_iff.1 hroot)
  | arrayTable key =>
    simp only [add, addArrayHeader] at hs
    split at hs
    · exact absurd hs throw_bind_ne_ok
    · obtain ⟨root, hroot, hd⟩ := bind_eq_ok_iff.1 hs
      cases hd
      exact namesOnce_updateAt h (fun u hu u' hu' => namesOnce_addTable hu hu')
        (orFault_eq_ok_iff.1 hroot)
  | pair key v =>
    simp only [add, addPair] at hs
    split at hs
    · exact absurd hs throw_bind_ne_ok
    · split at hs
      · exact absurd hs throw_bind_ne_ok
      · obtain ⟨root, hroot, hd⟩ := bind_eq_ok_iff.1 hs
        cases hd
        exact namesOnce_updateAt h (fun u hu u' hu' => namesOnce_addValue hu hu')
          (orFault_eq_ok_iff.1 hroot)

end Document

/-! ## Reading statements -/

namespace Reader

variable {α β : Type}

/-- Whatever the reader returns, on whatever text, has the property. -/
def Ensures (P : α → Prop) (x : Reader α) : Prop :=
  ∀ text a rest, x.run text = .ok (a, rest) → P a

theorem ensures_pure {P : α → Prop} {a : α} (h : P a) : Ensures P (pure a) := by
  intro text b rest hrun
  cases hrun
  exact h

theorem ensures_true (x : Reader α) : Ensures (fun _ => True) x := fun _ _ _ _ => trivial

theorem Ensures.bind {P : α → Prop} {Q : β → Prop} {x : Reader α} {f : α → Reader β}
    (hx : Ensures P x) (hf : ∀ a, P a → Ensures Q (f a)) : Ensures Q (x >>= f) := by
  intro text b rest hrun
  rw [StateT.run_bind] at hrun
  obtain ⟨⟨a, text'⟩, ha, hb⟩ := bind_eq_ok_iff.1 hrun
  exact hf a (hx text a text' ha) text' b rest hb

/-- A step whose result is of no consequence. -/
theorem ensures_bind {Q : β → Prop} (x : Reader α) {f : α → Reader β}
    (hf : ∀ a, Ensures Q (f a)) : Ensures Q (x >>= f) :=
  (ensures_true x).bind fun a _ => hf a

theorem ensures_liftM {P : α → Prop} {x : Except Fault α} (h : ∀ a, x = .ok a → P a) :
    Ensures P (liftM x) := by
  intro text a rest hrun
  cases hx : x with
  | error fault =>
    rw [hx] at hrun
    cases hrun
  | ok b =>
    rw [hx] at hrun
    cases hrun
    exact h a hx

end Reader

open Reader

variable {d : Document}

theorem ensures_line (h : NamesOnce d.root) (c : Char) :
    Ensures (fun d' : Document => NamesOnce d'.root) (line d c) := by
  unfold line
  refine ensures_bind _ fun statement => ?_
  cases statement with
  | none => exact ensures_pure h
  | some s =>
    refine (ensures_liftM fun d' hd' => Document.namesOnce_add h hd').bind fun d' hd' => ?_
    exact ensures_bind _ fun _ => ensures_bind _ fun _ => ensures_pure hd'

theorem ensures_statements (fuel : Nat) (h : NamesOnce d.root) :
    Ensures (fun d' : Document => NamesOnce d'.root) (statements fuel d) := by
  induction fuel generalizing d with
  | zero => exact ensures_pure h
  | succ fuel ih =>
    unfold statements
    refine ensures_bind _ fun _ => ensures_bind _ fun next => ?_
    cases next with
    | none => exact ensures_pure h
    | some c =>
      refine ensures_bind _ fun isLineEnd => ?_
      split
      · exact ih h
      · refine (ensures_line h c).bind fun d' hd' => ensures_bind _ fun _ => ?_
        refine ensures_bind _ fun next => ?_
        cases next with
        | none => exact ensures_pure hd'
        | some _ => exact ensures_bind _ fun _ => ih hd'

/-- The table of a configuration file gives no name twice. -/
theorem namesOnce_of_tableOfBytes {bytes : List UInt8} {t : Table}
    (h : tableOfBytes bytes = .ok t) : NamesOnce t := by
  unfold tableOfBytes at h
  split at h
  · cases h
  · simp only [tableOfText] at h
    obtain ⟨⟨d, rest⟩, hrun, hd⟩ := bind_eq_ok_iff.1 h
    cases hd
    have hempty : NamesOnce ({} : Document).root := List.nodup_nil
    exact ensures_statements _ hempty _ _ _ hrun

end Toml
end ComponentCensus
