import ComponentCensus.Proofs.Component.Case
import ComponentCensus.Proofs.Pattern.Wall

/-!
# Setup and language in one tag

A script tag may have `setup` and a language, in either order.  What is found in a component does
not depend on the order, but for one signal: only with the language first is there a signal for
the tag itself.  With `setup` first the style of the component is left to what else its text holds.

* `scriptTagText`, `setupFirst`, `languageFirst` — the tags.
* `Pattern.keepsOut`, `keepsOut_signals` — the patterns of nearly all signals see nothing of a tag
  but its value.
* `IsScriptTag.occursIn_of_keepsOut` — what is left of a tag for such a pattern; and with
  `IsScriptTag.occursIn_setupTag`, `IsScriptTag.occursIn_setupFunction` and
  `IsScriptTag.occursIn_templateTag`, for the three patterns that need an argument of their own.
* `Signal.firesIn_scriptTag` — signals in texts with two tags of the same value.
* `trace_of_setupFirst` — the traces of a text with either tag.
-/

set_option autoImplicit false

namespace ComponentCensus

open Text

/-! ## Script tags with one value -/

/-- A script tag: what is written between its name and the value of an attribute, the value, and
what is written behind it. -/
def scriptTagText (names value more : List Char) : List Char :=
  '<' :: ("script".toList ++ names ++ '=' :: '"' :: (value ++ '"' :: (more ++ ['>'])))

/-- A script tag with `setup` and then a language. -/
def setupFirst (w₁ w₂ value : List Char) : List Char :=
  scriptTagText (w₁ ++ "setup".toList ++ w₂ ++ "lang".toList) value []

/-- A script tag with a language and then `setup`. -/
def languageFirst (w₁ w₂ value : List Char) : List Char :=
  scriptTagText (w₁ ++ "lang".toList) value (w₂ ++ "setup".toList)

example :
    setupFirst [' '] [' '] "ts".toList = "<script setup lang=\"ts\">".toList ∧
      languageFirst [' '] [' '] "ts".toList = "<script lang=\"ts\" setup>".toList := by
  decide

/-- Some white space. -/
def IsSpace (w : List Char) : Prop := w ≠ [] ∧ ∀ c ∈ w, isBlank c = true

/-! ## Plain text -/

/-- Marks that patterns look for, and that a tag has only around its value. -/
def tagMarks : List Char := ['<', '>', '=', '"', '\'', '(', ')', '[', '\x7b']

/-- Whether a text has none of the marks. -/
def isPlain (s : List Char) : Bool := s.all fun c => !tagMarks.contains c

theorem isPlain_append {s t : List Char} (hs : isPlain s = true) (ht : isPlain t = true) :
    isPlain (s ++ t) = true := by
  rw [isPlain, List.all_append, Bool.and_eq_true]
  exact ⟨hs, ht⟩

theorem isPlain_of_isSpace {w : List Char} (hw : IsSpace w) : isPlain w = true :=
  List.all_eq_true.2 fun _ hc =>
    forall_blank (P := fun c => !tagMarks.contains c) (by decide) (hw.2 _ hc)

theorem not_mem_of_isPlain {c : Char} (hc : tagMarks.contains c = true) {s : List Char}
    (hs : isPlain s = true) : c ∉ s := by
  intro hmem
  have hnot : (!tagMarks.contains c) = true := List.all_eq_true.1 hs c hmem
  rw [hc] at hnot
  exact absurd hnot (by decide)

/-- A set of such marks has nothing of a plain text. -/
theorem has_among_of_isPlain {marks : List Char} (hmarks : marks.all tagMarks.contains = true)
    {s : List Char} (hs : isPlain s = true) :
    ∀ c ∈ s, (CharSet.among marks).has c = false := by
  intro c hc
  rw [Bool.eq_false_iff]
  intro hmem
  exact not_mem_of_isPlain (List.all_eq_true.1 hmarks c (List.contains_iff_mem.1 hmem)) hs hc

/-! ## Patterns that keep out of tags -/

/-- Marks that a pattern may end with. -/
def endMarks : List Char := ['\x7b', '[', '(', '<', '\'', '"']

/-- Whether the test finds the pattern to see nothing of a tag but its value: it takes neither what
comes before the value nor the closing bracket, and ends with a mark that is not between. -/
def Pattern.keepsOut (p : Pattern) : Bool :=
  p.avoids '=' && p.avoids '>' && p.endsIn (.among endMarks)

/-- The patterns of all signals keep out of tags, but for the two tags and for the function. -/
theorem keepsOut_signals : ∀ sig ∈ compositionSignals ++ optionsSignals,
    sig.name ≠ "script_lang_setup" → sig.pattern = setupTag ∨ sig.pattern = setupFunction ∨
      sig.pattern.keepsOut = true := by
  decide

theorem keepsOut_vetoes : ∀ sig ∈ compositionSignals ++ optionsSignals, ∀ v ∈ sig.veto,
    v.keepsOut = true := by
  decide

/-! ## What patterns see of a tag -/

/-- A script tag with the value, and with plain text on both sides of it. -/
def IsScriptTag (value tag : List Char) : Prop :=
  ∃ names more, isPlain names = true ∧ isPlain more = true ∧ tag = scriptTagText names value more

/-- A text with a tag, cut at the marks of the tag. -/
theorem append_scriptTagText (front names value more back : List Char) :
    front ++ scriptTagText names value more ++ back =
      front ++ '<' :: (("script".toList ++ names) ++
        '=' :: '"' :: (value ++ '"' :: (more ++ '>' :: back))) := by
  rw [scriptTagText]
  generalize "script".toList = name
  simp

theorem isPlain_tagName {names : List Char} (hnames : isPlain names = true) :
    isPlain ("script".toList ++ names) = true :=
  isPlain_append (by decide) hnames

namespace IsScriptTag

variable {front value tag back : List Char} (htag : IsScriptTag value tag)
include htag

/-- What such a pattern sees of a tag: an opening bracket, and the value. -/
theorem occursIn_of_keepsOut {p : Pattern} (hp : p.keepsOut = true) :
    p.occursIn (front ++ tag ++ back) =
      p.occursIn (front ++ '<' :: '=' :: '"' :: (value ++ '"' :: '>' :: back)) := by
  obtain ⟨names, more, hnames, hmore, rfl⟩ := htag
  rw [Pattern.keepsOut, Bool.and_eq_true, Bool.and_eq_true] at hp
  obtain ⟨⟨hequals, hcloses⟩, hends⟩ := hp
  have hmarks : endMarks.all tagMarks.contains = true := by decide
  have hname := has_among_of_isPlain hmarks (isPlain_tagName hnames)
  have hmore := has_among_of_isPlain hmarks hmore
  -- the names run up to one wall, the equals sign, and the text behind the value up to the bracket
  rw [append_scriptTagText, List.append_cons,
    Pattern.occursIn_append_wall_of_endsIn hequals (fun _ => by decide) hends hname]
  calc p.occursIn ((front ++ ['<']) ++ '=' :: '"' :: (value ++ '"' :: (more ++ '>' :: back)))
    _ = p.occursIn ((front ++ '<' :: '=' :: '"' :: (value ++ ['"'])) ++ (more ++ '>' :: back)) := by
        simp
    _ = p.occursIn ((front ++ '<' :: '=' :: '"' :: (value ++ ['"'])) ++ '>' :: back) :=
        Pattern.occursIn_append_wall_of_endsIn hcloses (fun _ => by decide) hends hmore _ _
    _ = p.occursIn (front ++ '<' :: '=' :: '"' :: (value ++ '"' :: '>' :: back)) := by simp

/-- The tag is not seen as a tag with `setup` alone, for its value stands between. -/
theorem occursIn_setupTag :
    setupTag.occursIn (front ++ tag ++ back) =
      setupTag.occursIn (front ++ '=' :: '"' :: (value ++ '"' :: back)) := by
  obtain ⟨names, more, hnames, hmore, rfl⟩ := htag
  have hends : setupTag.endsIn (.among ['>']) = true := by decide
  have hstarts : setupTag.startsIn (.among ['<']) = true := by decide
  have hwalls : setupTag.avoids '=' = true ∧ setupTag.avoids '"' = true := by decide
  have hname : ∀ c ∈ '<' :: ("script".toList ++ names), (CharSet.among ['>']).has c = false :=
    List.forall_mem_cons.2 ⟨by decide, has_among_of_isPlain (by decide) (isPlain_tagName hnames)⟩
  have hclose : ∀ c ∈ more ++ ['>'], (CharSet.among ['<']).has c = false :=
    List.forall_mem_append.2
      ⟨has_among_of_isPlain (by decide) hmore, List.forall_mem_singleton.2 (by decide)⟩
  rw [append_scriptTagText, ← List.cons_append,
    Pattern.occursIn_append_wall_of_endsIn hwalls.1 (fun _ => by decide) hends hname]
  calc setupTag.occursIn (front ++ '=' :: '"' :: (value ++ '"' :: (more ++ '>' :: back)))
    _ = setupTag.occursIn ((front ++ '=' :: '"' :: value) ++ '"' :: ((more ++ ['>']) ++ back)) := by
        simp
    _ = setupTag.occursIn ((front ++ '=' :: '"' :: value) ++ '"' :: back) :=
        Pattern.occursIn_append_wall_of_startsIn hwalls.2 hstarts hclose _ _
    _ = setupTag.occursIn (front ++ '=' :: '"' :: (value ++ '"' :: back)) := by simp

/-- A function may begin in front of the tag and go on behind it, but not within it. -/
theorem occursIn_setupFunction :
    setupFunction.occursIn (front ++ tag ++ back) =
      setupFunction.occursIn (front ++ '<' :: '"' :: (value ++ '"' :: back)) := by
  obtain ⟨names, more, hnames, hmore, rfl⟩ := htag
  let opening := anyCase "setup" ++ gap ++ mark '('
  let body := gap ++ mark '\x7b'
  have hacross : setupFunction = across opening ')' body := by
    simp only [across, setupFunction, opening, body, List.append_assoc]
  have hends : (Pattern.ofWord opening).endsIn (.among ['(']) = true := by decide
  have hbracket : isWall opening ')' body '<' = true := by decide
  have hequals : isWall opening ')' body '=' = true := by decide
  have hquote : isWall opening ')' body '"' = true := by decide
  have hcloses : isWall opening ')' body '>' = true := by decide
  have hname := isPlain_tagName hnames
  -- a function that begins in front of the tag may go on behind it: it looks for the next closing
  -- parenthesis, and there is none in plain text
  rw [append_scriptTagText, hacross,
    occursIn_across_append_walls hbracket hequals hends (has_among_of_isPlain (by decide) hname)
      (not_mem_of_isPlain (by decide) hname)]
  calc (across opening ')' body).occursIn
        (front ++ '<' :: '"' :: (value ++ '"' :: (more ++ '>' :: back)))
    _ = (across opening ')' body).occursIn
        ((front ++ '<' :: '"' :: value) ++ '"' :: (more ++ '>' :: back)) := by simp
    _ = (across opening ')' body).occursIn ((front ++ '<' :: '"' :: value) ++ '"' :: back) :=
        occursIn_across_append_walls hquote hcloses hends
          (has_among_of_isPlain (by decide) hmore) (not_mem_of_isPlain (by decide) hmore) _ _
    _ = (across opening ')' body).occursIn (front ++ '<' :: '"' :: (value ++ '"' :: back)) := by
        simp

/-- A template may be opened in front of the tag, and then the tag closes it. -/
theorem occursIn_templateTag :
    templateTag.occursIn (front ++ tag ++ back) =
      ((Pattern.of (mark '<' ++ anyCase "template")).occursIn
        (front ++ '<' :: 's' :: (value ++ ['"'])) || templateTag.occursIn back) := by
  obtain ⟨names, more, hnames, hmore, rfl⟩ := htag
  let opening := mark '<' ++ anyCase "template"
  let letters := "script".toList.tail ++ names
  have hclosing : templateTag = closing opening '>' := by
    simp only [closing, templateTag, tagPieces, opening, List.append_assoc]
  have hseparator : avoids '>' opening = true := by decide
  have hstarts : (Pattern.of opening).startsIn (.among ['<']) = true := by decide
  have hletter : (Pattern.of opening).avoids 's' = true := by decide
  have hquote : (Pattern.of opening).avoids '"' = true := by decide
  have hletters : isPlain letters = true := isPlain_append (by decide) hnames
  have hbehind : ∀ c ∈ letters ++ ['=', '"'], (CharSet.among ['<']).has c = false :=
    List.forall_mem_append.2 ⟨has_among_of_isPlain (by decide) hletters, by simp [CharSet.has]⟩
  -- no template begins with the letter behind the bracket, so this letter is a wall as well
  have hcut : front ++ scriptTagText names value more ++ back =
      (front ++ ['<'] ++ 's' :: ((letters ++ ['=', '"']) ++ (value ++ '"' :: more))) ++
        '>' :: back := by
    have hscript : "script".toList ++ names = 's' :: letters := rfl
    rw [append_scriptTagText, hscript]
    generalize letters = name
    simp
  calc templateTag.occursIn (front ++ scriptTagText names value more ++ back)
    _ = ((Pattern.of opening).occursIn
          (front ++ ['<'] ++ 's' :: ((letters ++ ['=', '"']) ++ (value ++ '"' :: more))) ||
        templateTag.occursIn back) := by
        rw [hcut, hclosing, occursIn_closing_append_cons hseparator]
    _ = ((Pattern.of opening).occursIn
          ((front ++ '<' :: 's' :: value) ++ '"' :: (more ++ [])) ||
        templateTag.occursIn back) := by
        rw [Pattern.occursIn_append_wall_of_startsIn hletter hstarts hbehind]
        simp
    _ = ((Pattern.of opening).occursIn (front ++ '<' :: 's' :: (value ++ ['"'])) ||
        templateTag.occursIn back) := by
        rw [Pattern.occursIn_append_wall_of_startsIn hquote hstarts
          (has_among_of_isPlain (by decide) hmore)]
        simp

theorem hasScript : ComponentCensus.hasScript (front ++ tag ++ back) = true := by
  obtain ⟨names, more, -, -, rfl⟩ := htag
  refine occursIn_tag.2 ⟨front, '<' :: "script".toList,
    names ++ '=' :: '"' :: (value ++ '"' :: (more ++ '>' :: back)), ?_, Spells.refl _, by simp⟩
  rw [append_scriptTagText, List.append_assoc, List.cons_append]

end IsScriptTag

theorem isScriptTag_setupFirst {w₁ w₂ : List Char} (hw₁ : IsSpace w₁) (hw₂ : IsSpace w₂)
    (value : List Char) : IsScriptTag value (setupFirst w₁ w₂ value) := by
  refine ⟨_, _, ?_, rfl, rfl⟩
  refine isPlain_append (isPlain_append (isPlain_append ?_ ?_) ?_) ?_
  · exact isPlain_of_isSpace hw₁
  · decide
  · exact isPlain_of_isSpace hw₂
  · decide

theorem isScriptTag_languageFirst {w₁ w₂ : List Char} (hw₁ : IsSpace w₁) (hw₂ : IsSpace w₂)
    (value : List Char) : IsScriptTag value (languageFirst w₁ w₂ value) :=
  ⟨_, _, isPlain_append (isPlain_of_isSpace hw₁) (by decide),
    isPlain_append (isPlain_of_isSpace hw₂) (by decide), rfl⟩

/-! ## Two tags with the same value -/

section
variable {front value tag tag' back : List Char} (h : IsScriptTag value tag)
  (h' : IsScriptTag value tag')
include h h'

/-- But for the signal of a tag with a language and `setup`, a signal fires with both tags or with
neither. -/
theorem Signal.firesIn_scriptTag {sig : Signal} (hsig : sig ∈ compositionSignals ++ optionsSignals)
    (hname : sig.name ≠ "script_lang_setup") :
    sig.firesIn (front ++ tag ++ back) = sig.firesIn (front ++ tag' ++ back) := by
  have hpattern : sig.pattern.occursIn (front ++ tag ++ back) =
      sig.pattern.occursIn (front ++ tag' ++ back) := by
    rcases keepsOut_signals sig hsig hname with heq | heq | hout
    · rw [heq, h.occursIn_setupTag, h'.occursIn_setupTag]
    · rw [heq, h.occursIn_setupFunction, h'.occursIn_setupFunction]
    · rw [h.occursIn_of_keepsOut hout, h'.occursIn_of_keepsOut hout]
  rw [firesIn, firesIn, hpattern]
  cases hv : sig.veto with
  | none => rfl
  | some v =>
    have hout : v.keepsOut = true := keepsOut_vetoes sig hsig v hv
    rw [Option.any_some, Option.any_some, h.occursIn_of_keepsOut hout,
      h'.occursIn_of_keepsOut hout]

theorem hasTemplate_scriptTag :
    hasTemplate (front ++ tag ++ back) = hasTemplate (front ++ tag' ++ back) :=
  h.occursIn_templateTag.trans h'.occursIn_templateTag.symm

theorem options_scriptTag :
    (traceOf (front ++ tag ++ back)).options = (traceOf (front ++ tag' ++ back)).options := by
  have hnames : ∀ sig ∈ optionsSignals, sig.name ≠ "script_lang_setup" := by decide
  exact firing_congr fun sig hsig =>
    Signal.firesIn_scriptTag h h' (List.mem_append_right _ hsig) (hnames sig hsig)

theorem composition_scriptTag :
    (traceOf (front ++ tag ++ back)).composition.filter (· ≠ "script_lang_setup") =
      (traceOf (front ++ tag' ++ back)).composition.filter (· ≠ "script_lang_setup") := by
  refine (firing_filter ..).trans (Eq.trans ?_ (firing_filter ..).symm)
  refine firing_congr fun sig hsig => ?_
  obtain ⟨hmem, hname⟩ := List.mem_filter.1 hsig
  exact Signal.firesIn_scriptTag h h' (List.mem_append_left _ hmem) (of_decide_eq_true hname)

end

/-! ## The tag with the language first -/

theorem fits_space {t : List Char} : Fits space t ↔ IsSpace t := by
  rw [space, fits_one_cons]
  constructor
  · rintro ⟨c, u, rfl, hc, hu⟩
    obtain ⟨v, w, rfl, hv, hw⟩ := fits_run_cons.1 hu
    obtain rfl := fits_nil.1 hw
    rw [List.append_nil]
    exact ⟨List.cons_ne_nil c v, List.forall_mem_cons.2 ⟨hc, hv⟩⟩
  · rintro ⟨hne, hall⟩
    obtain ⟨c, u, rfl⟩ := List.exists_cons_of_ne_nil hne
    obtain ⟨hc, hu⟩ := List.forall_mem_cons.1 hall
    exact ⟨c, u, rfl, hc, fits_run_cons.2 ⟨u, [], by simp, hu, .nil⟩⟩

section
variable {front w₁ w₂ value back : List Char} (hw₁ : IsSpace w₁) (hw₂ : IsSpace w₂)
include hw₁ hw₂

/-- The tag with the language first is seen as such, if there is a value. -/
theorem occursIn_languageFirst (hvalue : value ≠ []) (hquote : '"' ∉ value) :
    languageSetupTag.occursIn (front ++ languageFirst w₁ w₂ value ++ back) = true := by
  have hall : ∀ d ∈ value, (CharSet.except '"').has d = true := fun d hd =>
    bne_iff_ne.2 fun heq => hquote (heq ▸ hd)
  obtain ⟨c, v, rfl⟩ := List.exists_cons_of_ne_nil hvalue
  obtain ⟨hc, hv⟩ := List.forall_mem_cons.1 hall
  have hmark : ∀ c, Fits (mark c) [c] := fun c => fits_mark.2 rfl
  have hword : ∀ name, Fits (anyCase name) name.toList := fun _ => fits_anyCase.2 (Spells.refl _)
  have hfirst : Fits [.one (.except '"')] [c] := fits_one_cons.2 ⟨c, [], rfl, hc, .nil⟩
  have hrest : Fits (upToMark '"') v := fits_run_cons.2 ⟨v, [], by simp, hv, .nil⟩
  have hgap : Fits gap [] := fits_run_cons.2 ⟨[], [], rfl, by simp, .nil⟩
  have hname := (((hmark '<').append (hword "script")).append (fits_space.2 hw₁)).append
    (hword "lang")
  have hlanguage := ((((hname.append (hmark '=')).append (hmark '"')).append hfirst).append
    hrest).append (hmark '"')
  have hsetup := (((hlanguage.append (fits_space.2 hw₂)).append (hword "setup")).append
    hgap).append (hmark '>')
  refine Pattern.occursIn_of_iff.2 ⟨_, ⟨front, back, ?_⟩, hsetup⟩
  rw [languageFirst, scriptTagText]
  generalize "script".toList = script, "lang".toList = lang, "setup".toList = setup
  simp

/-- With the language first, the component is a composition component. -/
theorem style_of_languageFirst (hvalue : value ≠ []) (hquote : '"' ∉ value) :
    (traceOf (front ++ languageFirst w₁ w₂ value ++ back)).style = some .composition ∧
      "script_lang_setup" ∈ (traceOf (front ++ languageFirst w₁ w₂ value ++ back)).composition := by
  have hoccurs : languageSetupTag.occursIn (front ++ languageFirst w₁ w₂ value ++ back) = true :=
    occursIn_languageFirst hw₁ hw₂ hvalue hquote
  have hmem : "script_lang_setup" ∈
      (traceOf (front ++ languageFirst w₁ w₂ value ++ back)).composition :=
    (mem_firing_iff nodup_names.1 (p := languageSetupTag) (by simp [compositionSignals])).2 hoccurs
  exact ⟨(style_of_setup (.inr hmem)).2, hmem⟩

end

section
variable {text : List Char} (h : hasScript text = true)
include h

theorem not_isBare_of_hasScript : ¬ (traceOf text).IsBare :=
  fun hbare => absurd (hbare.2.symm.trans h) (by decide)

theorem style_eq_composition_iff :
    (traceOf text).style = some .composition ↔ (traceOf text).composition ≠ [] :=
  (Trace.settles_of_eq_calledFor (style_traceOf text)).composition.trans
    (and_iff_right (not_isBare_of_hasScript h))

/-- A text with a script region and no composition signal is an options component if it has an
options signal. -/
theorem style_of_composition_eq_nil (hnone : (traceOf text).composition = []) :
    (traceOf text).style =
      if (traceOf text).options ≠ [] then some .options else some .unclassified := by
  have hregion : (traceOf text).hasScript = true := h
  rw [style_traceOf, Trace.calledFor_of_not_isBare (not_isBare_of_hasScript h),
    if_neg (not_not.2 hnone), hregion, if_pos rfl]

end

/-- **The order of `setup` and the language matters for one signal alone.**  Whatever stands in
front of a tag with both and behind it, the traces with either order agree on the regions, on the
options signals and on all composition signals but that of the tag itself.  With the language first
this signal fires and the component is a composition component.  With `setup` first it has the same
style exactly if some composition signal fires in it all the same; otherwise it is an options
component or unclassified. -/
theorem trace_of_setupFirst (front back : List Char) {w₁ w₂ value : List Char}
    (hw₁ : IsSpace w₁) (hw₂ : IsSpace w₂) (hvalue : value ≠ []) (hquote : '"' ∉ value) :
    let s := traceOf (front ++ setupFirst w₁ w₂ value ++ back)
    let t := traceOf (front ++ languageFirst w₁ w₂ value ++ back)
    (s.style = t.style ↔ s.composition ≠ []) ∧
      (s.composition = [] →
        s.style = if s.options ≠ [] then some .options else some .unclassified) ∧
      t.style = some .composition ∧
      "script_lang_setup" ∈ t.composition ∧
      s.hasTemplate = t.hasTemplate ∧
      s.hasScript = t.hasScript ∧
      s.options = t.options ∧
      s.composition.filter (· ≠ "script_lang_setup") =
        t.composition.filter (· ≠ "script_lang_setup") := by
  intro s t
  have h : IsScriptTag value (setupFirst w₁ w₂ value) := isScriptTag_setupFirst hw₁ hw₂ value
  have h' : IsScriptTag value (languageFirst w₁ w₂ value) :=
    isScriptTag_languageFirst hw₁ hw₂ value
  obtain ⟨hstyle, hmem⟩ : t.style = some .composition ∧ "script_lang_setup" ∈ t.composition :=
    style_of_languageFirst hw₁ hw₂ hvalue hquote
  refine ⟨?_, style_of_composition_eq_nil h.hasScript, hstyle, hmem, hasTemplate_scriptTag h h',
    h.hasScript.trans h'.hasScript.symm, options_scriptTag h h', composition_scriptTag h h'⟩
  rw [hstyle]
  exact style_eq_composition_iff h.hasScript

/-- A setup script with a call of `ref`, behind its tag. -/
def scriptWithRef : List Char := "\nconst a = ref(1)\n</script>".toList

/-- A setup script with nothing in it but a constant, behind its tag. -/
def scriptWithConstant : List Char := "\nconst a = 1\n</script>".toList

theorem trace_of_setupFirst_ref :
    (traceOf ([] ++ setupFirst [' '] [' '] "ts".toList ++ scriptWithRef)).composition = ["ref"] ∧
      (traceOf ([] ++ languageFirst [' '] [' '] "ts".toList ++ scriptWithRef)).composition =
        ["script_lang_setup", "ref"] ∧
      (traceOf ([] ++ setupFirst [' '] [' '] "ts".toList ++ scriptWithRef)).style =
        (traceOf ([] ++ languageFirst [' '] [' '] "ts".toList ++ scriptWithRef)).style := by
  have hspace : IsSpace [' '] := ⟨by simp, List.forall_mem_singleton.2 (by decide)⟩
  have hvalue : "ts".toList ≠ [] ∧ '"' ∉ "ts".toList := by decide
  have hs : (traceOf ([] ++ setupFirst [' '] [' '] "ts".toList ++ scriptWithRef)).composition =
      ["ref"] := by decide
  have ht : (traceOf ([] ++ languageFirst [' '] [' '] "ts".toList ++ scriptWithRef)).composition =
      ["script_lang_setup", "ref"] := by decide
  obtain ⟨hstyle, -⟩ := trace_of_setupFirst [] scriptWithRef hspace hspace hvalue.1 hvalue.2
  exact ⟨hs, ht, hstyle.2 (ne_of_eq_of_ne hs (List.cons_ne_nil _ _))⟩

/-- Without any composition signal behind the tag, the order decides the style. -/
theorem styleOf?_scriptWithConstant :
    styleOf? ([] ++ setupFirst [' '] [' '] "ts".toList ++ scriptWithConstant) =
        some .unclassified ∧
      styleOf? ([] ++ languageFirst [' '] [' '] "ts".toList ++ scriptWithConstant) =
        some .composition := by
  decide

end ComponentCensus
