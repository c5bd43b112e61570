import Mathlib.Data.List.Forall2
import ComponentCensus.Component.Assessment
import ComponentCensus.Proofs.Component.Trace
import ComponentCensus.Proofs.Pattern.Layout
import ComponentCensus.Proofs.Text.Splitting

/-!
# Layout does not matter

Indenting a component, wrapping its lines or changing its line ends changes neither what is found
in it nor its assessment.

* `firing_respaced`, `traceOf_respaced` — signals, regions and style.
* `entryCount_respaced`, `Features.ofText_respaced` — counts and flags.
* `trace_and_assess_respaced` — all of it together.

Every pattern in use is layout-free, and those whose stretches are counted are definite.  Both are
questions about their pieces, so evaluation settles them.
-/

set_option autoImplicit false

namespace ComponentCensus

open Text

/-! ## The patterns in use -/

/-- Whether neither the pattern of a signal nor its veto sees the layout. -/
def Signal.layoutFree (s : Signal) : Bool := s.pattern.layoutFree && s.veto.all (·.layoutFree)

/-- The patterns of which the scoring asks only whether they occur. -/
def flagPatterns : List Pattern :=
  [watchOption "immediate", watchOption "deep", mixinsOption, filtersOption] ++ propsOptions ++
    dataOptions

/-- The patterns of which the scoring counts or reads the stretches. -/
def countedPatterns : List Pattern := [hookCall, computedBlock, methodsBlock, watchBlock]

theorem layoutFree_signals : ∀ family ∈ [compositionSignals, optionsSignals],
    family.all Signal.layoutFree = true := by
  decide +kernel

theorem layoutFree_patterns :
    (∀ p ∈ [templateTag, scriptTag] ++ flagPatterns, p.layoutFree = true) ∧
      ∀ p ∈ countedPatterns, p.layoutFree = true ∧ p.definite = true := by
  decide +kernel

/-! ## Signals and styles -/

theorem occursIn_respaced {p : Pattern} (hp : p.layoutFree = true) {s t : List Char}
    (h : Respaced s t) : p.occursIn s = p.occursIn t :=
  Pattern.occursAfter_respaced hp (.inl rfl) h

theorem Signal.firesIn_respaced {sig : Signal} (hsig : sig.layoutFree = true) {s t : List Char}
    (h : Respaced s t) : sig.firesIn s = sig.firesIn t := by
  rw [layoutFree, Bool.and_eq_true] at hsig
  rw [firesIn, firesIn, occursIn_respaced hsig.1 h]
  cases hv : sig.veto with
  | none => rfl
  | some v =>
    have hfree : v.layoutFree = true := by simpa [hv] using hsig.2
    rw [Option.any_some, Option.any_some, occursIn_respaced hfree h]

section
variable {family : List Signal} {s t : List Char}

theorem firing_respaced (hfamily : family.all Signal.layoutFree = true) (h : Respaced s t) :
    firing family s = firing family t :=
  firing_congr fun sig hsig => Signal.firesIn_respaced (List.all_eq_true.1 hfamily sig hsig) h

theorem hasTemplate_respaced (h : Respaced s t) : hasTemplate s = hasTemplate t :=
  occursIn_respaced (layoutFree_patterns.1 templateTag (by simp)) h

theorem hasScript_respaced (h : Respaced s t) : hasScript s = hasScript t :=
  occursIn_respaced (layoutFree_patterns.1 scriptTag (by simp)) h

theorem traceOf_respaced (h : Respaced s t) : traceOf s = traceOf t :=
  traceOf_eq (hasTemplate_respaced h) (hasScript_respaced h)
    (firing_respaced (layoutFree_signals compositionSignals (by simp)) h)
    (firing_respaced (layoutFree_signals optionsSignals (by simp)) h)

end

/-! ## Counting -/

theorem entryCount_respaced {s t : List Char} (h : Respaced s t) : entryCount s = entryCount t := by
  have hcomma : isBlank ',' = false := by decide
  rw [entryCount, entryCount, h.isEmpty_eq, length_splitOn, length_splitOn, h.count_eq hcomma]

theorem respaced_flatten {ss ts : List (List Char)} (h : List.Forall₂ Respaced ss ts) :
    Respaced ss.flatten ts.flatten := by
  induction h with
  | nil => exact .nil
  | cons h _ ih => exact h.append ih

section
variable {p : Pattern} {s t : List Char}

theorem matchesIn_respaced (hp : p.layoutFree = true ∧ p.definite = true) (h : Respaced s t) :
    List.Forall₂ Respaced (p.matchesIn s) (p.matchesIn t) :=
  Pattern.matchesAfter_respaced hp.1 hp.2 (.inl rfl) h

theorem entryCountAll_matchesIn_respaced (hp : p.layoutFree = true ∧ p.definite = true)
    (h : Respaced s t) : entryCountAll (p.matchesIn s) = entryCountAll (p.matchesIn t) :=
  entryCount_respaced (respaced_flatten (matchesIn_respaced hp h))

theorem entryCount_firstIn?_respaced (hp : p.layoutFree = true ∧ p.definite = true)
    (h : Respaced s t) :
    entryCount ((p.firstIn? s).getD []) = entryCount ((p.firstIn? t).getD []) := by
  have hmatches := matchesIn_respaced hp h
  rw [Pattern.firstIn?, Pattern.firstIn?]
  generalize p.matchesIn s = found at hmatches ⊢
  generalize p.matchesIn t = found' at hmatches ⊢
  cases hmatches with
  | nil => rfl
  | cons hfirst _ => exact entryCount_respaced hfirst

end

theorem Features.ofText_respaced {s t : List Char} (h : Respaced s t) :
    Features.ofText s = Features.ofText t := by
  have hflag : ∀ p ∈ flagPatterns, p.occursIn s = p.occursIn t := fun p hp =>
    occursIn_respaced (layoutFree_patterns.1 p (List.mem_append_right _ hp)) h
  have hcounted : ∀ p ∈ countedPatterns,
      (p.matchesIn s).length = (p.matchesIn t).length ∧
      entryCountAll (p.matchesIn s) = entryCountAll (p.matchesIn t) ∧
      entryCount ((p.firstIn? s).getD []) = entryCount ((p.firstIn? t).getD []) := by
    intro p hp
    have hdefinite := layoutFree_patterns.2 p hp
    exact ⟨(matchesIn_respaced hdefinite h).length_eq,
      entryCountAll_matchesIn_respaced hdefinite h, entryCount_firstIn?_respaced hdefinite h⟩
  simp only [flagPatterns, propsOptions, dataOptions, List.cons_append, List.nil_append,
    List.forall_mem_cons, List.not_mem_nil, false_implies, implies_true, and_true] at hflag
  simp only [countedPatterns, List.forall_mem_cons, List.not_mem_nil, false_implies,
    implies_true, and_true] at hcounted
  simp only [ofText, propsOptions, dataOptions, List.any_cons, List.any_nil, hflag, hcounted]

theorem Component.assess_respaced {text text' : String} (h : Respaced text.toList text'.toList)
    (path : String) (scoring : Scoring) :
    (Component.mk path text).assess scoring = (Component.mk path text').assess scoring := by
  rw [assess, assess, Features.ofText_respaced h]

/-! ## All of it -/

/-- Of two texts that differ in their blanks only, the trace is the same, and so is the assessment
under every path and every scoring. -/
theorem trace_and_assess_respaced {text text' : String}
    (h : Respaced text.toList text'.toList) :
    traceOf text.toList = traceOf text'.toList ∧
      ∀ (path : String) (scoring : Scoring),
        (Component.mk path text).assess scoring = (Component.mk path text').assess scoring :=
  ⟨traceOf_respaced h, fun path scoring => Component.assess_respaced h path scoring⟩

/-- A component on one line. -/
def oneLineComponent : String :=
  "<script>export default \x7b watch: \x7b a () \x7b \x7d \x7d, created () \x7b \x7d \x7d</script>"

/-- The same component, wrapped and indented, with other line ends. -/
def wrappedComponent : String :=
  "<script>export\tdefault\r\n\x7b\r\n  watch:\r\n    \x7b a\u00a0() \x7b\n\x7d \x7d,\r\n  " ++
    "created () \x7b\n\n\x7d\r\n\x7d</script>"

theorem trace_and_assess_wrappedComponent :
    Respaced oneLineComponent.toList wrappedComponent.toList ∧
      traceOf oneLineComponent.toList = traceOf wrappedComponent.toList ∧
      ∀ (path : String) (scoring : Scoring),
        (Component.mk path oneLineComponent).assess scoring =
          (Component.mk path wrappedComponent).assess scoring :=
  have h : Respaced oneLineComponent.toList wrappedComponent.toList := by decide +kernel
  ⟨h, trace_and_assess_respaced h⟩

end ComponentCensus
