import ComponentCensus.Component.Assessment
import ComponentCensus.Proofs.Component.Blocks
import ComponentCensus.Proofs.Component.Trace
import ComponentCensus.Proofs.Pattern.Inclusion

/-!
# Scoring and signals

The scoring and the signals look for the same entries of an options object, each with patterns of
its own: some ask for the closing brace as well, some for the name as it is written, and one signal
can be vetoed.  Whatever the scoring finds, there is a signal for it, so a component without an
options signal has no score but that of its hooks.

* `mem_firing_iff`, `mem_options_iff` — a signal is listed exactly if its pattern occurs.
* `frontOf_block`, `frontOf_watchOption` — what the patterns of the two sides have in common.
* `Assessment.AgreesWith` — what is assessed, and the signals it goes with.
* `assess_agrees` — every component agrees, and what that means for the score of one without options
  signals.
-/

set_option autoImplicit false

namespace ComponentCensus

/-! ## Signals and their patterns -/

/-- A signal that nothing vetoes is listed exactly if its pattern occurs. -/
theorem mem_firing_iff {family : List Signal} (hnames : (family.map Signal.name).Nodup)
    {name : String} {p : Pattern} (h : { name := name, pattern := p } ∈ family)
    {text : List Char} : name ∈ firing family text ↔ p.occursIn text = true := by
  refine (name_mem_firing_iff hnames h).trans ?_
  rw [Signal.firesIn, Option.any_none, Bool.not_false, Bool.and_true]

theorem mem_options_iff {name : String} {p : Pattern}
    (h : { name := name, pattern := p } ∈ optionsSignals) {text : List Char} :
    name ∈ (traceOf text).options ↔ p.occursIn text = true :=
  mem_firing_iff nodup_names.2 h

/-- The opening of a block begins every block, and so does the entry in any case. -/
theorem frontOf_block : ∀ name ∈ blockNames,
    (entry name '{').frontOf (.of (blockPieces name)) = true ∧
      (writtenEntry name '{').frontOf (.of (blockPieces name)) = true := by
  decide +kernel

/-- The entry of the watchers begins every block with an option that is switched on. -/
theorem frontOf_watchOption : ∀ name ∈ watchOptionNames,
    (entry "watch" '{').frontOf (watchOption name) = true := by
  decide +kernel

/-- Where a block is found, there is its entry, in any case and as it is written. -/
theorem occursIn_of_mem_block {name : String} (hname : name ∈ blockNames) {s stretch : List Char}
    (h : stretch ∈ (Pattern.of (blockPieces name)).matchesIn s) :
    (entry name '{').occursIn s = true ∧ (writtenEntry name '{').occursIn s = true := by
  obtain ⟨hentry, hwritten⟩ := frontOf_block name hname
  have hoccurs : (Pattern.of (blockPieces name)).occursIn s = true :=
    Pattern.occursAfter_of_mem_matchesAfter h
  exact ⟨Pattern.occursAfter_of_frontOf hentry hoccurs,
    Pattern.occursAfter_of_frontOf hwritten hoccurs⟩

theorem occursIn_watch_of_watchOption {name : String} (hname : name ∈ watchOptionNames)
    {s : List Char} (h : (watchOption name).occursIn s = true) :
    (entry "watch" '{').occursIn s = true :=
  Pattern.occursAfter_of_frontOf (frontOf_watchOption name hname) h

/-! ## Counts -/

/-- Entries are counted only if there is a block to count them in. -/
theorem exists_mem_of_entryCountAll_pos {blocks : List (List Char)}
    (h : 0 < entryCountAll blocks) : ∃ stretch, stretch ∈ blocks := by
  cases blocks with
  | nil => exact absurd h (by decide)
  | cons stretch rest => exact ⟨stretch, List.mem_cons_self⟩

theorem Features.exists_mem_methodsBlock {text : List Char}
    (h : 0 < (ofText text).methodEntries) : ∃ stretch, stretch ∈ methodsBlock.matchesIn text := by
  have hfirst : 0 < entryCountAll ((methodsBlock.matchesIn text).take 1) := by
    rwa [← entryCount_head?]
  obtain ⟨stretch, hstretch⟩ := exists_mem_of_entryCountAll_pos hfirst
  exact ⟨stretch, List.mem_of_mem_take hstretch⟩

/-! ## Assessments and signals -/

/-- An assessment that is made of these features goes with the signals of a trace. -/
structure Assessment.AgreesWith (a : Assessment) (f : Features) (t : Trace) : Prop where
  mixins : a.hasMixins = true ↔ "mixins" ∈ t.options
  filters : a.hasFilters = true ↔ "filters" ∈ t.options
  props : a.hasProps = true ↔ "props_object" ∈ t.options ∨ "props_array" ∈ t.options
  data : "data_method" ∈ t.options ∨ "data_object" ∈ t.options → a.hasData = true
  /-- Blocks of watchers and options of watchers that are switched on. -/
  watch : a.hasWatchers = true ∨ f.watchesImmediately = true ∨ f.watchesDeeply = true →
    "watch" ∈ t.options
  methods : 0 < a.methodEntries → "methods" ∈ t.options
  /-- Where computed entries are counted, a call of the same name is no signal. -/
  computed : 0 < a.computedEntries → "computed" ∈ t.options ∧ "computed_call" ∉ t.composition

/-- The signal that can be vetoed: a call of `computed`. -/
def computedCall : Signal :=
  { name := "computed_call", pattern := call "computed", veto := some computedOption }

theorem computedCall_mem : computedCall ∈ compositionSignals := by
  simp [compositionSignals, computedCall]

theorem not_mem_composition_of_computedOption {text : List Char}
    (h : computedOption.occursIn text = true) :
    "computed_call" ∉ (traceOf text).composition := by
  refine (name_mem_firing_iff nodup_names.1 computedCall_mem).not.2 ?_
  rw [Signal.firesIn, computedCall, Option.any_some, h]
  simp

theorem Component.agrees (c : Component) (scoring : Scoring) :
    (c.assess scoring).AgreesWith (Features.ofText c.content.toList)
      (traceOf c.content.toList) where
  mixins := (mem_options_iff (by simp [optionsSignals, mixinsOption])).symm
  filters := (mem_options_iff (by simp [optionsSignals, filtersOption])).symm
  props := by
    rw [mem_options_iff (p := entry "props" '{') (by simp [optionsSignals]),
      mem_options_iff (p := entry "props" '[') (by simp [optionsSignals])]
    simp only [assess, Features.ofText, propsOptions, List.any_cons, List.any_nil, Bool.or_false,
      Bool.or_eq_true]
  data := by
    rw [mem_options_iff (p := method "data") (by simp [optionsSignals]),
      mem_options_iff (p := entry "data" '{') (by simp [optionsSignals])]
    rintro (h | h)
    · exact List.any_eq_true.2 ⟨method "data", by simp [dataOptions], h⟩
    · exact List.any_eq_true.2 ⟨entry "data" '{', by simp [dataOptions], h⟩
  watch := by
    rw [mem_options_iff (p := entry "watch" '{') (by simp [optionsSignals])]
    rintro (h | h | h)
    · obtain ⟨stretch, hstretch⟩ := List.length_pos_iff_exists_mem.1 (of_decide_eq_true h)
      exact (occursIn_of_mem_block (by decide) hstretch).1
    · exact occursIn_watch_of_watchOption (by decide) h
    · exact occursIn_watch_of_watchOption (by decide) h
  methods := by
    rw [mem_options_iff (p := entry "methods" '{') (by simp [optionsSignals])]
    intro h
    obtain ⟨stretch, hstretch⟩ := Features.exists_mem_methodsBlock (Int.natCast_pos.1 h)
    exact (occursIn_of_mem_block (by decide) hstretch).1
  computed := by
    rw [mem_options_iff (p := entry "computed" '{') (by simp [optionsSignals])]
    intro h
    obtain ⟨stretch, hstretch⟩ := exists_mem_of_entryCountAll_pos (Int.natCast_pos.1 h)
    obtain ⟨hentry, hwritten⟩ := occursIn_of_mem_block (by decide) hstretch
    exact ⟨hentry, not_mem_composition_of_computedOption hwritten⟩

/-- Without an options signal, only hooks count. -/
theorem score_of_options_eq_nil {c : Component} {scoring : Scoring}
    (h : (traceOf c.content.toList).options = []) :
    (c.assess scoring).score = (c.assess scoring).hooks * scoring.lifecycleHook := by
  have hagrees := c.agrees scoring
  have hno : ∀ name, name ∉ (traceOf c.content.toList).options := by
    intro name
    rw [h]
    exact List.not_mem_nil
  have hflag : ∀ {flag : Bool} {name : String},
      (flag = true → name ∈ (traceOf c.content.toList).options) → flag = false := by
    intro flag name hsignal
    exact Bool.eq_false_iff.2 fun hset => hno name (hsignal hset)
  have hcount : ∀ {count : Nat} {name : String},
      (0 < count → name ∈ (traceOf c.content.toList).options) → count = 0 := by
    intro count name hsignal
    exact Nat.eq_zero_of_not_pos fun hpos => hno name (hsignal hpos)
  -- all other features go with some options signal
  let f := Features.ofText c.content.toList
  have hmixins : f.hasMixins = false := hflag hagrees.mixins.1
  have hfilters : f.hasFilters = false := hflag hagrees.filters.1
  have himmediate : f.watchesImmediately = false :=
    hflag fun hset => hagrees.watch (.inr (.inl hset))
  have hdeep : f.watchesDeeply = false := hflag fun hset => hagrees.watch (.inr (.inr hset))
  have hwatch : f.watchBlocks = 0 :=
    hcount fun hpos => hagrees.watch (.inl (decide_eq_true hpos))
  have hmethods : f.methodEntries = 0 :=
    hcount fun hpos => hagrees.methods (Int.natCast_pos.2 hpos)
  have hcomputed : f.computedEntries = 0 :=
    hcount fun hpos => (hagrees.computed (Int.natCast_pos.2 hpos)).1
  have hscore : scoring.score f = f.hooks * scoring.lifecycleHook := by
    rw [Scoring.score, hmixins, hfilters, himmediate, hdeep, hwatch, hmethods, hcomputed]
    simp
  exact congrArg Int.ofNat hscore

/-- **Scoring and signals do not drift apart.**  Whatever is assessed of a component goes with the
signals of its trace, under every scoring; and if the trace has no options signal, the score is that
of the hooks alone. -/
theorem assess_agrees (c : Component) (scoring : Scoring) :
    (c.assess scoring).AgreesWith (Features.ofText c.content.toList)
        (traceOf c.content.toList) ∧
      ((traceOf c.content.toList).options = [] →
        (c.assess scoring).score = (c.assess scoring).hooks * scoring.lifecycleHook) :=
  ⟨c.agrees scoring, score_of_options_eq_nil⟩

end ComponentCensus
