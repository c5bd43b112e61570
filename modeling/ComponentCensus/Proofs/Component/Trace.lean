import Mathlib.Data.List.Nodup
import ComponentCensus.Component.Style

/-!
# What a trace says about the style

The style of a text comes from rules that stop at the first one that holds, and their signals stop
at the first one that fires.  A trace lists all signals.  So a trace holds more than the rules look
at, and it has to be of one mind with them: the style in a trace is what everything else in it calls
for.

* `firing_ne_nil_iff`, `name_mem_firing_iff` — the signals that are listed are those that fire.
* `styleOf?_eq` — the rules as a chain of choices; `traceOf_eq` — what makes up a trace.
* `Trace.Settles` — which trace has which style.
* `trace_settles_style` — every trace has the style that the rest of it settles, and it is that of
  the rules.
-/

set_option autoImplicit false

namespace ComponentCensus

/-! ## The signals that fire -/

section
variable {family : List Signal} {text : List Char}

/-- Some signal is listed exactly if some signal fires. -/
theorem firing_ne_nil_iff :
    firing family text ≠ [] ↔ (family.any fun sig => sig.firesIn text) = true := by
  rw [firing, Ne, List.map_eq_nil_iff, List.filter_eq_nil_iff, List.any_eq_true]
  push Not
  rfl

/-- If every signal has a name of its own, a name is listed exactly if its signal fires. -/
theorem name_mem_firing_iff (hnames : (family.map Signal.name).Nodup) {sig : Signal}
    (hsig : sig ∈ family) : sig.name ∈ firing family text ↔ sig.firesIn text = true := by
  rw [firing, List.mem_map]
  constructor
  · rintro ⟨other, hother, hname⟩
    obtain ⟨hmem, hfires⟩ := List.mem_filter.1 hother
    rwa [← List.inj_on_of_nodup_map hnames hmem hsig hname]
  · intro hfires
    exact ⟨sig, List.mem_filter.2 ⟨hsig, hfires⟩, rfl⟩

end

/-- Signals that fire alike in two texts are listed alike. -/
theorem firing_congr {family : List Signal} {s t : List Char}
    (h : ∀ sig ∈ family, sig.firesIn s = sig.firesIn t) : firing family s = firing family t :=
  congrArg (List.map Signal.name) (List.filter_congr h)

/-- In both families, every signal has a name of its own. -/
theorem nodup_names : (compositionSignals.map Signal.name).Nodup ∧
    (optionsSignals.map Signal.name).Nodup := by
  decide +kernel

/-! ## The style -/

theorem styleOf?_eq (text : List Char) :
    styleOf? text =
      if isTemplateOnly text then some .templateOnly
      else if hasCompositionSignal text then some .composition
      else if hasOptionsSignal text then some .options
      else if hasScript text then some .unclassified
      else none := by
  simp only [styleOf?, styleRules, List.find?_cons, List.find?_nil]
  cases isTemplateOnly text <;> cases hasCompositionSignal text <;>
    cases hasOptionsSignal text <;> cases hasScript text <;> rfl

/-- Which traces have a template and no script. -/
def Trace.IsBare (t : Trace) : Prop := t.hasTemplate = true ∧ t.hasScript = false

/-- The style of a trace is the one that everything else in the trace settles. -/
structure Trace.Settles (t : Trace) : Prop where
  templateOnly : t.style = some .templateOnly ↔ t.IsBare
  composition : t.style = some .composition ↔ ¬ t.IsBare ∧ t.composition ≠ []
  options : t.style = some .options ↔ ¬ t.IsBare ∧ t.composition = [] ∧ t.options ≠ []
  unclassified : t.style = some .unclassified ↔
    ¬ t.IsBare ∧ t.composition = [] ∧ t.options = [] ∧ t.hasScript = true
  none : t.style = none ↔
    t.hasTemplate = false ∧ t.hasScript = false ∧ t.composition = [] ∧ t.options = []

/-- The style that the regions and signals of a trace call for. -/
def Trace.calledFor (t : Trace) : Option Style :=
  if t.hasTemplate && !t.hasScript then some .templateOnly
  else if t.composition ≠ [] then some .composition
  else if t.options ≠ [] then some .options
  else if t.hasScript then some .unclassified
  else none

theorem Trace.settles_of_eq_calledFor {t : Trace} (h : t.style = t.calledFor) : t.Settles := by
  -- both sides of each equivalence depend on the two flags and on which lists are empty
  constructor <;> simp only [h, calledFor, IsBare] <;> cases t.hasTemplate <;>
    cases t.hasScript <;> cases t.composition <;> cases t.options <;> simp

theorem style_traceOf (text : List Char) : (traceOf text).style = (traceOf text).calledFor := by
  have hcomposition : (traceOf text).composition ≠ [] ↔ hasCompositionSignal text = true :=
    firing_ne_nil_iff
  have hoptions : (traceOf text).options ≠ [] ↔ hasOptionsSignal text = true :=
    firing_ne_nil_iff
  simp only [Trace.calledFor, hcomposition, hoptions]
  exact styleOf?_eq text

/-- Regions and signals make up the whole trace. -/
theorem traceOf_eq {s t : List Char} (htemplate : hasTemplate s = hasTemplate t)
    (hscript : hasScript s = hasScript t)
    (hcomposition : firing compositionSignals s = firing compositionSignals t)
    (hoptions : firing optionsSignals s = firing optionsSignals t) : traceOf s = traceOf t := by
  have hrest : { traceOf s with style := none } = { traceOf t with style := none } := by
    rw [traceOf, traceOf, htemplate, hscript, hcomposition, hoptions]
  have hstyle : (traceOf s).style = (traceOf t).style :=
    (style_traceOf s).trans ((congrArg Trace.calledFor hrest).trans (style_traceOf t).symm)
  exact congrArg₂ (fun rest style => { rest with style := style }) hrest hstyle

/-- **The style in a trace is settled by the rest of the trace**, and it is the style that the rules
give the text.  A rule that asks for some signal holds exactly if the trace lists one, and the trace
lists every signal that fires and no other. -/
theorem trace_settles_style (text : List Char) :
    (traceOf text).Settles ∧ (traceOf text).style = styleOf? text ∧
      (hasCompositionSignal text = true ↔ (traceOf text).composition ≠ []) ∧
      (hasOptionsSignal text = true ↔ (traceOf text).options ≠ []) ∧
      (∀ sig ∈ compositionSignals,
        sig.name ∈ (traceOf text).composition ↔ sig.firesIn text = true) ∧
      ∀ sig ∈ optionsSignals, sig.name ∈ (traceOf text).options ↔ sig.firesIn text = true :=
  ⟨Trace.settles_of_eq_calledFor (style_traceOf text), rfl, firing_ne_nil_iff.symm,
    firing_ne_nil_iff.symm, fun _ hsig => name_mem_firing_iff nodup_names.1 hsig,
    fun _ hsig => name_mem_firing_iff nodup_names.2 hsig⟩

end ComponentCensus
