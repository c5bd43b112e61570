import ComponentCensus.Proofs.Component.Growth
import ComponentCensus.Proofs.Component.Veto
import ComponentCensus.Proofs.Pattern.Case

/-!
# The case of letters, and the one veto that sees it

What is found in a component does not depend on the case of its letters, with one exception: only a
block of computed entries whose name is written small vetoes a call of `computed`.  So writing
letters large or small may make that one signal come or go, and with it a component may change
between composition and options, but it goes to no other style and comes from no other.

* `caseFree_signals`, `caseFree_tags` — no pattern but the veto sees the case of letters.
* `Signal.firesIn_recased` — signals in two texts that differ in the case of letters.
* `firing_filter` — leaving out a name from what is listed.
* `trace_recased` — the traces of two such texts.
-/

set_option autoImplicit false

namespace ComponentCensus

open Text

theorem caseFree_signals : ∀ sig ∈ compositionSignals ++ optionsSignals,
    sig.pattern.caseFree = true := by
  decide +kernel

theorem caseFree_tags : ∀ p ∈ [templateTag, scriptTag], p.caseFree = true := by
  decide +kernel

/-- What is listed without some names is what a smaller family lists. -/
theorem firing_filter (family : List Signal) (keep : String → Bool) (text : List Char) :
    (firing family text).filter keep = firing (family.filter fun sig => keep sig.name) text := by
  rw [firing, firing, List.filter_map, List.filter_comm]
  rfl

section
variable {s t : List Char} (h : smallLetters s = smallLetters t)
include h

/-- A signal fires in both texts or in neither, if its veto occurs in both or in neither. -/
theorem Signal.firesIn_recased {sig : Signal} (hsig : sig ∈ compositionSignals ++ optionsSignals)
    (hveto : ∀ v ∈ sig.veto, v.occursIn s = v.occursIn t) : sig.firesIn s = sig.firesIn t := by
  rw [firesIn, firesIn, Pattern.occursIn_recased (caseFree_signals sig hsig) h]
  cases hv : sig.veto with
  | none => rfl
  | some v => rw [Option.any_some, Option.any_some, hveto v hv]

theorem hasTemplate_recased : hasTemplate s = hasTemplate t :=
  Pattern.occursIn_recased (caseFree_tags templateTag (by simp)) h

theorem hasScript_recased : hasScript s = hasScript t :=
  Pattern.occursIn_recased (caseFree_tags scriptTag (by simp)) h

theorem options_recased : (traceOf s).options = (traceOf t).options := by
  refine firing_congr fun sig hsig => ?_
  refine Signal.firesIn_recased h (List.mem_append_right _ hsig) fun v hv => ?_
  rw [veto_optionsSignals sig hsig] at hv
  cases hv

/-- Without the signal that can be vetoed, the composition signals do not see the case. -/
theorem composition_recased :
    (traceOf s).composition.filter (· ≠ "computed_call") =
      (traceOf t).composition.filter (· ≠ "computed_call") := by
  refine (firing_filter ..).trans (Eq.trans ?_ (firing_filter ..).symm)
  refine firing_congr fun sig hsig => ?_
  obtain ⟨hmem, hname⟩ := List.mem_filter.1 hsig
  refine Signal.firesIn_recased h (List.mem_append_left _ hmem) fun v hv => ?_
  have hother : sig.name ≠ computedCall.name := of_decide_eq_true hname
  rw [veto_compositionSignals sig hmem, if_neg hother] at hv
  cases hv

/-- If what vetoes is in both texts or in neither, the traces are the same. -/
theorem traceOf_recased (hveto : computedOption.occursIn s = computedOption.occursIn t) :
    traceOf s = traceOf t := by
  refine traceOf_eq (hasTemplate_recased h) (hasScript_recased h) ?_ (options_recased h)
  refine firing_congr fun sig hsig => ?_
  refine Signal.firesIn_recased h (List.mem_append_left _ hsig) fun v hv => ?_
  rw [veto_compositionSignals sig hsig] at hv
  split at hv
  · rwa [← Option.some_inj.1 hv]
  · cases hv

/-- If the styles differ, both texts have an options signal and neither is a bare template. -/
theorem options_ne_nil_of_style_ne (hstyle : (traceOf s).style ≠ (traceOf t).style) :
    ¬ (traceOf s).IsBare ∧ (traceOf s).options ≠ [] := by
  have hoptions := options_recased h
  constructor
  · intro hbare
    have hbare' : (traceOf t).IsBare :=
      ⟨(hasTemplate_recased h).symm.trans hbare.1, (hasScript_recased h).symm.trans hbare.2⟩
    rw [style_traceOf, style_traceOf, Trace.calledFor_of_isBare hbare,
      Trace.calledFor_of_isBare hbare'] at hstyle
    exact hstyle rfl
  · have hveto : computedOption.occursIn s = true ∨ computedOption.occursIn t = true := by
      by_contra hnot
      rw [not_or, Bool.not_eq_true, Bool.not_eq_true] at hnot
      exact hstyle (congrArg Trace.style (traceOf_recased h (hnot.1.trans hnot.2.symm)))
    rcases hveto with hveto | hveto
    · exact options_ne_nil_of_computedOption hveto
    · exact hoptions ▸ options_ne_nil_of_computedOption hveto

end

/-- **Only one signal sees the case of letters.**  The traces of two texts that differ in the case
of ASCII letters agree on the regions, on the options signals and on all composition signals but a
call of `computed`.  They agree on everything if the block that vetoes such a call, its name as it
is written, is in both texts or in neither; and if the styles differ, then they are composition and
options. -/
theorem trace_recased {s t : List Char} (h : smallLetters s = smallLetters t) :
    (traceOf s).hasTemplate = (traceOf t).hasTemplate ∧
      (traceOf s).hasScript = (traceOf t).hasScript ∧
      (traceOf s).options = (traceOf t).options ∧
      (traceOf s).composition.filter (· ≠ "computed_call") =
        (traceOf t).composition.filter (· ≠ "computed_call") ∧
      (computedOption.occursIn s = computedOption.occursIn t → traceOf s = traceOf t) ∧
      ((traceOf s).style ≠ (traceOf t).style →
        ∀ style ∈ [(traceOf s).style, (traceOf t).style],
          style = some .composition ∨ style = some .options) := by
  refine ⟨hasTemplate_recased h, hasScript_recased h, options_recased h, composition_recased h,
    traceOf_recased h, fun hstyle => ?_⟩
  obtain ⟨hs, hs'⟩ := options_ne_nil_of_style_ne h hstyle
  obtain ⟨ht, ht'⟩ := options_ne_nil_of_style_ne h.symm hstyle.symm
  exact List.forall_mem_cons.2
    ⟨style_of_options hs hs', List.forall_mem_singleton.2 (style_of_options ht ht')⟩

/-- A component with a call of `computed` and a block of computed entries. -/
def smallBlock : String :=
  "<script>computed(f); export default \x7b computed: \x7b \x7d \x7d</script>"

/-- The same component, with some letters large. -/
def largeBlock : String :=
  "<SCRIPT>computed(f); export Default \x7b Computed: \x7b \x7d \x7d</script>"

theorem trace_recased_blocks :
    smallLetters smallBlock.toList = smallLetters largeBlock.toList ∧
      (traceOf smallBlock.toList).style = some .options ∧
      (traceOf largeBlock.toList).style = some .composition ∧
      (traceOf smallBlock.toList).options = (traceOf largeBlock.toList).options ∧
      (traceOf smallBlock.toList).composition.filter (· ≠ "computed_call") =
        (traceOf largeBlock.toList).composition.filter (· ≠ "computed_call") ∧
      ∀ style ∈ [(traceOf smallBlock.toList).style, (traceOf largeBlock.toList).style],
        style = some .composition ∨ style = some .options := by
  have h : smallLetters smallBlock.toList = smallLetters largeBlock.toList := by decide +kernel
  have hsmall : (traceOf smallBlock.toList).style = some .options := by decide +kernel
  have hlarge : (traceOf largeBlock.toList).style = some .composition := by decide +kernel
  obtain ⟨-, -, hoptions, hcomposition, -, hstyles⟩ := trace_recased h
  refine ⟨h, hsmall, hlarge, hoptions, hcomposition, hstyles ?_⟩
  rw [hsmall, hlarge]
  decide

end ComponentCensus
