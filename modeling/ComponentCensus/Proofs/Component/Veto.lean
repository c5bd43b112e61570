import ComponentCensus.Proofs.Component.Agreement
import ComponentCensus.Proofs.Component.Tag

/-!
# Setup tags and the veto

A script tag with `setup` makes a component a composition component, whatever else its text holds.
A call of `computed` does so too, but for one veto: a block of computed entries, its name as it is
written.  The same block is an options signal, so what loses its composition style through the veto
is an options component.

* `hasScript_of_tag` — a script tag with anything before its closing bracket opens a script region.
* `veto_compositionSignals` — the only veto there is.
* `options_ne_nil_of_computedOption` — what vetoes is an options signal itself.
* `unvetoedStyle?` — the style that a text would have if nothing were vetoed.
* `style_of_setup_or_computed` — the style of texts with such tags and calls.
-/

set_option autoImplicit false

namespace ComponentCensus

open Text

variable {text : List Char}

/-! ## Setup tags -/

/-- A script tag with some pieces before its closing bracket opens a script region.  As an opening
tag it may end earlier, at a closing bracket within what the pieces fit. -/
theorem hasScript_of_tag (ps : List Piece)
    (h : (Pattern.of (mark '<' ++ anyCase "script" ++ (ps ++ mark '>'))).occursIn text = true) :
    hasScript text = true := by
  obtain ⟨_, ⟨a, y, rfl⟩, ht⟩ := Pattern.occursIn_of_iff.1 h
  obtain ⟨o, u, rfl, ho, hu⟩ := fits_append.1 ht
  obtain ⟨b, e, rfl, -, he⟩ := fits_append.1 hu
  obtain rfl := fits_mark.1 he
  exact occursIn_tag.2 ⟨a, o, b ++ '>' :: y, by simp, fits_tagName.1 ho, by simp⟩

theorem hasScript_of_setupTag
    (h : setupTag.occursIn text = true ∨ languageSetupTag.occursIn text = true) :
    hasScript text = true := by
  rcases h with h | h
  · refine hasScript_of_tag (space ++ anyCase "setup" ++ gap) ?_
    simpa only [setupTag, List.append_assoc] using h
  · refine hasScript_of_tag (space ++ anyCase "lang" ++ mark '=' ++ mark '"' ++
      [.one (.except '"')] ++ upToMark '"' ++ mark '"' ++ space ++ anyCase "setup" ++ gap) ?_
    simpa only [languageSetupTag, List.append_assoc] using h

/-! ## The veto -/

/-- A call of `computed` is the only signal that can be vetoed, and its veto is a block of computed
entries as it is written. -/
theorem veto_compositionSignals : ∀ sig ∈ compositionSignals,
    sig.veto = if sig.name = computedCall.name then computedCall.veto else none := by
  decide +kernel

/-- What vetoes is an options signal itself. -/
theorem options_ne_nil_of_computedOption (h : computedOption.occursIn text = true) :
    (traceOf text).options ≠ [] := by
  have hfront : (entry "computed" '{').frontOf computedOption = true := by decide +kernel
  have hmem : "computed" ∈ (traceOf text).options :=
    (mem_options_iff (p := entry "computed" '{') (by simp [optionsSignals])).2
      (Pattern.occursAfter_of_frontOf hfront h)
  exact List.ne_nil_of_mem hmem

namespace Signal

/-- The signal without its veto. -/
def unvetoed (sig : Signal) : Signal := { sig with veto := none }

theorem firesIn_unvetoed {sig : Signal} :
    sig.unvetoed.firesIn text = sig.pattern.occursIn text :=
  Bool.and_true _

theorem firesIn_unvetoed_of_firesIn {sig : Signal} (h : sig.firesIn text = true) :
    sig.unvetoed.firesIn text = true := by
  rw [firesIn, Bool.and_eq_true] at h
  rw [firesIn_unvetoed]
  exact h.1

/-- Where nothing vetoes it, a signal fires as if there were no veto. -/
theorem firesIn_unvetoed_of_not {sig : Signal} (hsig : sig ∈ compositionSignals)
    (h : computedOption.occursIn text = false) : sig.unvetoed.firesIn text = sig.firesIn text := by
  rw [firesIn_unvetoed, firesIn, veto_compositionSignals sig hsig]
  split <;> simp [computedCall, h]

end Signal

/-- The trace of a text, with the composition signals that would fire if nothing were vetoed. -/
def unvetoedTrace (text : List Char) : Trace :=
  { traceOf text with composition := firing (compositionSignals.map Signal.unvetoed) text }

/-- The style that the text would have if nothing were vetoed. -/
def unvetoedStyle? (text : List Char) : Option Style := (unvetoedTrace text).calledFor

theorem unvetoed_composition_ne_nil (h : (traceOf text).composition ≠ []) :
    (unvetoedTrace text).composition ≠ [] := by
  obtain ⟨sig, hsig, hfires⟩ := List.any_eq_true.1 (firing_ne_nil_iff.1 h)
  refine firing_ne_nil_iff.2 (List.any_eq_true.2 ⟨sig.unvetoed, ?_, ?_⟩)
  · exact List.mem_map_of_mem hsig
  · exact Signal.firesIn_unvetoed_of_firesIn hfires

theorem unvetoed_composition_eq (h : computedOption.occursIn text = false) :
    (unvetoedTrace text).composition = (traceOf text).composition := by
  change firing (compositionSignals.map Signal.unvetoed) text = firing compositionSignals text
  rw [firing, firing, List.filter_map, List.map_map]
  refine congrArg _ (List.filter_congr fun sig hsig => ?_)
  exact Signal.firesIn_unvetoed_of_not hsig h

/-! ## Styles -/

namespace Trace

variable {t : Trace}

theorem calledFor_of_isBare (h : t.IsBare) : t.calledFor = some .templateOnly := by
  simp [calledFor, h.1, h.2]

theorem calledFor_of_not_isBare (h : ¬ t.IsBare) :
    t.calledFor =
      if t.composition ≠ [] then some .composition
      else if t.options ≠ [] then some .options
      else if t.hasScript then some .unclassified
      else none := by
  rw [calledFor, if_neg]
  simpa [IsBare] using h

theorem calledFor_of_composition (hbare : ¬ t.IsBare) (h : t.composition ≠ []) :
    t.calledFor = some .composition := by
  rw [calledFor_of_not_isBare hbare, if_pos h]

theorem calledFor_of_options (hbare : ¬ t.IsBare) (h : t.options ≠ []) :
    t.calledFor = if t.composition ≠ [] then some .composition else some .options := by
  rw [calledFor_of_not_isBare hbare, if_pos h]

end Trace

/-- The veto can only turn a composition component into an options component: without it, a text has
the style that it has anyway, or it would be one of the former and is one of the latter. -/
theorem style_eq_unvetoedStyle?_or (text : List Char) :
    (traceOf text).style = unvetoedStyle? text ∨
      computedOption.occursIn text = true ∧ unvetoedStyle? text = some .composition ∧
        (traceOf text).style = some .options := by
  rw [style_traceOf]
  cases hveto : computedOption.occursIn text with
  | false =>
    have heq : unvetoedTrace text = traceOf text :=
      congrArg (fun fired => { traceOf text with composition := fired })
        (unvetoed_composition_eq hveto)
    exact .inl (congrArg Trace.calledFor heq.symm)
  | true =>
    have hoptions : (traceOf text).options ≠ [] := options_ne_nil_of_computedOption hveto
    by_cases hbare : (traceOf text).IsBare
    · have hunvetoed : (unvetoedTrace text).IsBare := hbare
      exact .inl ((Trace.calledFor_of_isBare hbare).trans
        (Trace.calledFor_of_isBare hunvetoed).symm)
    · rw [unvetoedStyle?, Trace.calledFor_of_options (t := unvetoedTrace text) hbare hoptions,
        Trace.calledFor_of_options hbare hoptions]
      by_cases hfires : (traceOf text).composition = []
      · rw [if_neg (not_not.2 hfires)]
        split
        · exact .inr ⟨rfl, rfl, rfl⟩
        · exact .inl rfl
      · rw [if_pos hfires, if_pos (unvetoed_composition_ne_nil hfires)]
        exact .inl rfl

theorem style_of_composition (hbare : ¬ (traceOf text).IsBare)
    (h : (traceOf text).composition ≠ []) : (traceOf text).style = some .composition :=
  (style_traceOf text).trans (Trace.calledFor_of_composition hbare h)

/-- A text with an options signal has one of the two styles with an interface of their own, if it is
no bare template. -/
theorem style_of_options (hbare : ¬ (traceOf text).IsBare) (h : (traceOf text).options ≠ []) :
    (traceOf text).style = some .composition ∨ (traceOf text).style = some .options := by
  rw [style_traceOf, Trace.calledFor_of_options hbare h]
  split
  · exact .inl rfl
  · exact .inr rfl

/-- Without the veto, a call of `computed` leaves two styles. -/
theorem unvetoedStyle?_of_call (h : (call "computed").occursIn text = true) :
    unvetoedStyle? text = some .templateOnly ∨ unvetoedStyle? text = some .composition := by
  by_cases hbare : (unvetoedTrace text).IsBare
  · exact .inl (Trace.calledFor_of_isBare hbare)
  · refine .inr (Trace.calledFor_of_composition hbare (firing_ne_nil_iff.2 ?_))
    exact List.any_eq_true.2 ⟨computedCall.unvetoed, List.mem_map_of_mem computedCall_mem,
      Signal.firesIn_unvetoed.trans h⟩

theorem style_of_setup
    (h : "script_setup" ∈ (traceOf text).composition ∨
      "script_lang_setup" ∈ (traceOf text).composition) :
    (traceOf text).hasScript = true ∧ (traceOf text).style = some .composition := by
  have hscript : hasScript text = true := by
    refine hasScript_of_setupTag (h.imp (fun hmem => ?_) fun hmem => ?_)
    · exact (mem_firing_iff nodup_names.1 (p := setupTag) (by simp [compositionSignals])).1 hmem
    · exact (mem_firing_iff nodup_names.1 (p := languageSetupTag)
        (by simp [compositionSignals])).1 hmem
  refine ⟨hscript, style_of_composition (fun hbare => ?_) ?_⟩
  · exact absurd (hbare.2.symm.trans hscript) (by decide)
  · exact h.elim List.ne_nil_of_mem List.ne_nil_of_mem

/-- **Setup tags settle the style, and the veto leads from one style to one other.**  A script tag
with `setup` opens a script region and makes a composition component of every text.  A text with a
call of `computed` is a bare template, or it has one of the two styles with an interface of their
own.  Whatever the text, its style is the one that it would have without vetoes, or options in the
place of composition. -/
theorem style_of_setup_or_computed (text : List Char) :
    ("script_setup" ∈ (traceOf text).composition ∨
        "script_lang_setup" ∈ (traceOf text).composition →
      (traceOf text).hasScript = true ∧ (traceOf text).style = some .composition) ∧
    ((call "computed").occursIn text = true →
      (traceOf text).style ∈ [some .templateOnly, some .composition, some .options]) ∧
    ((traceOf text).style = unvetoedStyle? text ∨
      computedOption.occursIn text = true ∧ unvetoedStyle? text = some .composition ∧
        (traceOf text).style = some .options) := by
  refine ⟨style_of_setup, fun hcall => ?_, style_eq_unvetoedStyle?_or text⟩
  rcases style_eq_unvetoedStyle?_or text with heq | ⟨-, -, heq⟩
  · rw [heq]
    rcases unvetoedStyle?_of_call hcall with h | h <;> simp [h]
  · simp [heq]

end ComponentCensus
