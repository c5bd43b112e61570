import ComponentCensus.Proofs.Component.Agreement

/-!
# Data that is declared by a function

There are three signals for data: a method, an entry with an object, and an entry with a function,
which may stand in a parenthesis.  An assessment looks for the method, for the object and for any
entry that goes on with a parenthesis.  So it sees all that the signals see but one way of writing
data: an entry with a function that stands in no parenthesis.

* `bareDataFunction`, `wrappedDataFunction` — the two ways of writing the entry with a function, and
  `mem_options_dataFunction_iff`: its signal is listed if there is one of them.
* `hasData_iff` — what an assessment looks for, in terms of signals.
* `data_signals_assessed_iff` — when data that has a signal is assessed as well.
* `assess_bareFunction` — a component whose data has a signal and is not assessed.
-/

set_option autoImplicit false

namespace ComponentCensus

/-! ## The two ways of writing the entry -/

/-- What opens a data entry, up to its value. -/
def dataPieces : List Piece := anyCase "data" ++ gap ++ mark ':' ++ gap

/-- A data entry whose value is a function that stands in no parenthesis. -/
def bareDataFunction : Pattern := .of (dataPieces ++ methodPieces (anyCase "function"))

/-- A data entry whose value is a function in a parenthesis. -/
def wrappedDataFunction : Pattern :=
  .of (dataPieces ++ mark '(' ++ methodPieces (anyCase "function"))

section
variable {text : List Char}

theorem mem_options_dataFunction_iff :
    "data_function" ∈ (traceOf text).options ↔
      bareDataFunction.occursIn text = true ∨ wrappedDataFunction.occursIn text = true :=
  (mem_options_iff (p := dataFunction) (by simp [optionsSignals])).trans
    Pattern.occursIn_maybe_iff

/-- A function in a parenthesis begins with the parenthesis. -/
theorem occursIn_entry_of_wrapped (h : wrappedDataFunction.occursIn text = true) :
    (entry "data" '(').occursIn text = true := by
  have hfront : (entry "data" '(').frontOf wrappedDataFunction = true := by decide
  exact Pattern.occursAfter_of_frontOf hfront h

end

/-! ## Signals and assessments -/

/-- An assessment has data exactly if one of two signals is listed or a data entry goes on with a
parenthesis. -/
theorem Component.hasData_iff (c : Component) (scoring : Scoring) :
    (c.assess scoring).hasData = true ↔
      "data_method" ∈ (traceOf c.content.toList).options ∨
        "data_object" ∈ (traceOf c.content.toList).options ∨
        (entry "data" '(').occursIn c.content.toList = true := by
  rw [mem_options_iff (p := method "data") (by simp [optionsSignals]),
    mem_options_iff (p := entry "data" '{') (by simp [optionsSignals])]
  simp only [assess, Features.ofText, dataOptions, List.any_cons, List.any_nil, Bool.or_false,
    Bool.or_eq_true]
  exact or_congr_right or_comm

/-- The names of the signals for data. -/
def dataSignals : List String := ["data_method", "data_function", "data_object"]

theorem exists_mem_dataSignals_iff {names : List String} :
    (∃ name ∈ dataSignals, name ∈ names) ↔
      "data_method" ∈ names ∨ "data_function" ∈ names ∨ "data_object" ∈ names := by
  simp [dataSignals]

/-- **Data that has a signal is assessed, unless it is declared by a bare function alone.**  The
signal for a function is listed if there is one in a parenthesis or one without; the former is
assessed under every scoring, and so is what has one of the other two signals.  So of what has a
signal, nothing is missed exactly if there is no function without a parenthesis, or if one of the
other signals is listed or another entry goes on with a parenthesis. -/
theorem data_signals_assessed_iff (c : Component) (scoring : Scoring) :
    let text := c.content.toList
    let t := traceOf text
    let a := c.assess scoring
    ("data_method" ∈ t.options ∨ "data_object" ∈ t.options ∨
        wrappedDataFunction.occursIn text = true → a.hasData = true) ∧
      ("data_function" ∈ t.options ↔
        bareDataFunction.occursIn text = true ∨ wrappedDataFunction.occursIn text = true) ∧
      (((∃ name ∈ dataSignals, name ∈ t.options) → a.hasData = true) ↔
        (bareDataFunction.occursIn text = true →
          "data_method" ∈ t.options ∨ "data_object" ∈ t.options ∨
            (entry "data" '(').occursIn text = true)) := by
  intro text t a
  have hassessed : a.hasData = true ↔ "data_method" ∈ t.options ∨ "data_object" ∈ t.options ∨
      (entry "data" '(').occursIn text = true := c.hasData_iff scoring
  have hfunction : "data_function" ∈ t.options ↔ bareDataFunction.occursIn text = true ∨
      wrappedDataFunction.occursIn text = true := mem_options_dataFunction_iff
  refine ⟨fun h => ?_, hfunction, ?_⟩
  · exact hassessed.2 (h.imp_right (Or.imp_right occursIn_entry_of_wrapped))
  · rw [exists_mem_dataSignals_iff, hfunction, hassessed]
    constructor
    · intro hall hbare
      exact hall (.inr (.inl (.inl hbare)))
    · rintro hbare (hmethod | (hfound | hwrapped) | hobject)
      · exact .inl hmethod
      · exact hbare hfound
      · exact .inr (.inr (occursIn_entry_of_wrapped hwrapped))
      · exact .inr (.inl hobject)

/-- A component that declares its data by a function. -/
def bareFunctionComponent : Component :=
  { path := "D.vue"
    content := "<script>\nexport default \x7b\n"
      ++ "  data: function () \x7b return \x7b a: 1 \x7d \x7d\n\x7d\n</script>\n" }

theorem assess_bareFunction :
    "data_function" ∈ (traceOf bareFunctionComponent.content.toList).options ∧
      (bareFunctionComponent.assess .usual).hasData = false := by
  decide

end ComponentCensus
