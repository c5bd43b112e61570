import ComponentCensus.Proofs.Text.Utf8

/-!
# Line ends

A line ends with a carriage return and a line feed, or with one of the two alone.  Bytes are read
first and their line ends unified then; since no other character has the byte of a carriage return
or a line feed in it, and neither byte goes on with a character that was begun, it could be done the
other way round.

* `LineEnds` — a text, and the text with every line end written as a line feed; `lineEnds_iff` says
  that this is `unifyLineEnds`.
* `SameLines` — texts that differ in nothing but how their line ends are written.
* `unifyLineEnds_decodeLossy` — unifying the line ends of bytes, faulty ones too, and reading them.
-/

set_option autoImplicit false

namespace ComponentCensus
namespace Text

section
variable {α : Type} (cr lf : α)

/-- A text with each of its line ends written as a line feed: a carriage return and a line feed
are one line end, and so is a carriage return alone. -/
inductive LineEnds : List α → List α → Prop where
  | nil : LineEnds [] []
  | pair {s u : List α} (h : LineEnds s u) : LineEnds (cr :: lf :: s) (lf :: u)
  | lone {s u : List α} (hlone : s.head? ≠ some lf) (h : LineEnds s u) :
      LineEnds (cr :: s) (lf :: u)
  | other {a : α} {s u : List α} (hother : a ≠ cr) (h : LineEnds s u) : LineEnds (a :: s) (a :: u)

/-- Texts that differ in nothing but how their line ends are written. -/
def SameLines (s t : List α) : Prop := ∃ u, LineEnds cr lf s u ∧ LineEnds cr lf t u

variable {cr lf} {s u : List α}

theorem LineEnds.not_mem (h : LineEnds cr lf s u) (hne : cr ≠ lf) : cr ∉ u := by
  induction h with
  | nil => exact List.not_mem_nil
  | pair h ih => exact List.not_mem_cons_of_ne_of_not_mem hne ih
  | lone hlone h ih => exact List.not_mem_cons_of_ne_of_not_mem hne ih
  | other hother h ih => exact List.not_mem_cons_of_ne_of_not_mem hother.symm ih

end

/-! ## Texts -/

theorem unifyLineEnds_cons_of_ne {c : Char} (hc : c ≠ '\r') (s : List Char) :
    unifyLineEnds (c :: s) = c :: unifyLineEnds s := by
  rw [unifyLineEnds, if_neg hc]
  exact fun _ h => absurd h hc

theorem unifyLineEnds_lone {s : List Char} (h : s.head? ≠ some '\n') :
    unifyLineEnds ('\r' :: s) = '\n' :: unifyLineEnds s := by
  rw [unifyLineEnds, if_pos rfl]
  rintro rest - rfl
  exact h rfl

theorem unifyLineEnds_append {s : List Char} (h : '\r' ∉ s) (t : List Char) :
    unifyLineEnds (s ++ t) = s ++ unifyLineEnds t := by
  induction s with
  | nil => rfl
  | cons c s ih =>
    obtain ⟨hc, hs⟩ := List.ne_and_not_mem_of_not_mem_cons h
    rw [List.cons_append, unifyLineEnds_cons_of_ne hc.symm, ih hs]
    rfl

/-- A text without carriage returns stays as it is. -/
theorem unifyLineEnds_of_not_mem {s : List Char} (h : '\r' ∉ s) : unifyLineEnds s = s := by
  have happend := unifyLineEnds_append h []
  rwa [List.append_nil, unifyLineEnds, List.append_nil] at happend

theorem lineEnds_unifyLineEnds (s : List Char) : LineEnds '\r' '\n' s (unifyLineEnds s) := by
  fun_induction unifyLineEnds s with
  | case1 s ih => exact .pair ih
  | case2 c s hpair ih =>
    split
    · rename_i hc
      subst hc
      refine .lone (fun hhead => ?_) ih
      obtain ⟨rest, rfl⟩ := List.head?_eq_some_iff.1 hhead
      exact hpair rest rfl rfl
    · rename_i hc
      exact .other hc ih
  | case3 => exact .nil

/-- The text that is written so is the one with unified line ends. -/
theorem lineEnds_iff {s u : List Char} : LineEnds '\r' '\n' s u ↔ unifyLineEnds s = u := by
  constructor
  · intro h
    induction h with
    | nil => rfl
    | pair h ih => rw [unifyLineEnds, ih]
    | lone hlone h ih => rw [unifyLineEnds_lone hlone, ih]
    | other hother h ih => rw [unifyLineEnds_cons_of_ne hother, ih]
  · rintro rfl
    exact lineEnds_unifyLineEnds s

/-! ## Bytes -/

open Utf8

/-- A text begins with a line feed only if its bytes do. -/
theorem head?_of_head?_decodeLossy {bs : List UInt8}
    (h : (decodeLossy bs).head? = some '\n') : bs.head? = some 10 := by
  obtain ⟨t, ht⟩ := List.head?_eq_some_iff.1 h
  have hreads := reads_decodeLossy bs
  generalize decodeLossy bs = text at hreads ht
  cases hreads with
  | nil => cases ht
  | char c hreads =>
    obtain ⟨rfl, -⟩ := List.cons.inj ht
    rfl
  | faulty hfaulty hreads => exact absurd (List.cons.inj ht).1 (by decide)

theorem carriage_not_mem_map {out : List (Option Char)} (h : some '\r' ∉ out) :
    '\r' ∉ out.map (·.getD replacement) := by
  rintro hmem
  obtain ⟨c?, hout, hc⟩ := List.mem_map.1 hmem
  cases c? with
  | none => exact absurd hc (by decide)
  | some c =>
    obtain rfl : c = '\r' := hc
    exact h hout

/-- Unifying the line ends of bytes and reading them comes to the same in either order, whatever
the machine expects of the first byte. -/
theorem unifyLineEnds_lossyFrom {bs u : List UInt8} (h : LineEnds 13 10 bs u) {piece : List UInt8}
    {e : Expect} (hreached : Reached piece e) :
    unifyLineEnds (lossyFrom e bs) = lossyFrom e u := by
  -- A line can end within a character, so the induction has to hold for all that the machine may
  -- expect; the byte of a line end makes it give up what it has read of the character.
  have hstart : Reached [] .start := rfl
  have hgivenUp : ∀ e : Expect, '\r' ∉ if e = .start then [] else [replacement] := by
    intro e
    split
    · exact List.not_mem_nil
    · decide
  induction h generalizing piece e with
  | nil =>
    cases e with
    | start => rfl
    | more left low high value => rfl
  | pair h ih =>
    rw [lossyFrom_cons_ascii hreached (by decide), lossyFrom_cons_ascii hstart (by decide),
      lossyFrom_cons_ascii hreached (by decide), unifyLineEnds_append (hgivenUp e),
      ← ih hstart]
    rfl
  | lone hlone h ih =>
    rename_i s u
    have hhead : (lossyFrom .start s).head? ≠ some '\n' := fun hhead =>
      hlone (head?_of_head?_decodeLossy hhead)
    rw [lossyFrom_cons_ascii hreached (by decide), lossyFrom_cons_ascii hreached (by decide),
      unifyLineEnds_append (hgivenUp e), ← ih hstart]
    exact congrArg _ (unifyLineEnds_lone hhead)
  | other hother h ih =>
    rename_i a s u
    have hout : some '\r' ∉ (step e a.toNat).1 := fun hmem =>
      hother (eq_of_some_mem_step hreached rfl hmem)
    obtain ⟨piece', hnext⟩ := exists_reached_step hreached a
    cases hstep : step e a.toNat with
    | mk out next =>
      rw [hstep] at hout hnext
      rw [lossyFrom_cons hstep, lossyFrom_cons hstep,
        unifyLineEnds_append (carriage_not_mem_map hout), ih hnext]

/-- Reading unifies the line ends that stand in the bytes. -/
theorem unifyLineEnds_decodeLossy {bs u : List UInt8} (h : LineEnds 13 10 bs u) :
    unifyLineEnds (decodeLossy bs) = decodeLossy u :=
  @unifyLineEnds_lossyFrom _ _ h [] .start rfl

end Text
end ComponentCensus
