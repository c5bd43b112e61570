import ComponentCensus.Proofs.Settings.Overlay

/-!
# Where settings come from

Four places give values to settings.  They are laid over one another before anything is checked, so
most of what a lower place says does not count once a higher place says something else.  What
counts is said here setting by setting, without any laying over.

* `Sources.value` — the value of a setting, looked up in one place after the other.
  `Sources.lookup_entries` says that laying the places over one another comes to this.
* `ReadsAs`, `ScoringIs` — the scoring that a value stands for; a table is taken whole.
* `Sources.Settle` — each setting has the value that the places give to it, or its usual value.
* `Sources.Acceptable` — what the places say can be used, said without the settings it leads to.
* `Sources.resolve_eq_ok_iff`, `Sources.exists_resolve_eq_ok_iff` — the places add up to settings
  just if what they say can be used, and then to the settings that they settle.
-/

set_option autoImplicit false

namespace ComponentCensus
namespace Settings

/-! ## The value that each place gives to a setting -/

/-- What the four places say. -/
structure Sources where
  /-- The table of the configuration file of the project. -/
  project : Entries
  /-- The table of the configuration file that was asked for. -/
  explicit : Entries
  /-- The variables of the environment. -/
  environment : List (String × String)
  /-- What the caller sets. -/
  overrides : Entries

/-- Whether a value is there. -/
def Value.isGiven : Value → Bool
  | .nothing => false
  | _ => true

/-- Whether a flag is switched on. -/
def flagIsOn (overrides : Entries) (flag : String) : Bool :=
  (overrides.lookup flag).any Value.isTrue

/-- The value that a caller gives to a setting.  The two flags are no settings, but they decide on
the verbosity, and silence wins. -/
def callerValue (overrides : Entries) (key : String) : Option Value :=
  if key = "verbose" ∨ key = "quiet" then none
  else if key = "verbosity" ∧ flagIsOn overrides "quiet" then some (.text "quiet")
  else if key = "verbosity" ∧ flagIsOn overrides "verbose" then some (.text "verbose")
  else (overrides.lookup key).filter Value.isGiven

/-- The value that the environment gives to a setting; none to the scoring. -/
def environmentSetting (environment : List (String × String)) (key : String) : Option Value :=
  match key with
  | "folder" => (environment.lookup "SFC_INSIGHT_FOLDER").map .text
  | "blacklist" => (environment.lookup "SFC_INSIGHT_BLACKLIST").map fun text =>
      .list ((namesIn (some text)).map .text)
  | "complexity" => (environment.lookup "SFC_INSIGHT_COMPLEXITY").map fun text =>
      .bool (trueWords.contains (Text.lowerAscii text))
  | "extension" => (environment.lookup "SFC_INSIGHT_EXTENSION").map .text
  | "verbosity" => (environment.lookup "SFC_INSIGHT_VERBOSITY").map .text
  | _ => none

/-- The value of a setting: that of the caller, or else that of the environment, or else that of the
file that was asked for, or else that of the project. -/
def Sources.value (s : Sources) (key : String) : Option Value :=
  (callerValue s.overrides key).or <| (environmentSetting s.environment key).or <|
    (s.explicit.lookup key).or (s.project.lookup key)

/-! ### The caller -/

section
variable {overrides : Entries}

theorem lookup_resolveFlag (entries : Entries) (flag : String) (v : Verbosity) (k : String) :
    (resolveFlag entries flag v).lookup k =
      if k = flag then none
      else if k = "verbosity" ∧ flagIsOn entries flag then some (.text v.name)
      else entries.lookup k := by
  unfold resolveFlag flagIsOn
  cases hflag : entries.lookup flag with
  | none =>
    by_cases hk : k = flag
    · rw [if_pos hk, hk]
      exact hflag
    · simp [hk]
  | some w =>
    simp only [lookup_dropEntry, Option.any_some]
    by_cases hk : k = flag
    · rw [if_pos hk, if_pos hk]
    · rw [if_neg hk, if_neg hk]
      by_cases hw : w.isTrue = true
      · simp [hw, lookup_setEntry]
      · simp [hw]

theorem NamesOnce.resolveFlag {entries : Entries} (h : NamesOnce entries) (flag : String)
    (v : Verbosity) : NamesOnce (resolveFlag entries flag v) := by
  unfold Settings.resolveFlag
  split
  · exact h
  · refine NamesOnce.filter ?_ _
    split
    · exact h.setEntry ..
    · exact h

theorem NamesOnce.callerEntries (h : NamesOnce overrides) : NamesOnce (callerEntries overrides) :=
  ((h.resolveFlag "verbose" .verbose).resolveFlag "quiet" .quiet).filter _

theorem lookup_callerEntries (h : NamesOnce overrides) (k : String) :
    (callerEntries overrides).lookup k = callerValue overrides k := by
  have hfilter : callerEntries overrides =
      (resolveFlag (resolveFlag overrides "verbose" .verbose) "quiet" .quiet).filter fun e =>
        e.2.isGiven := by
    unfold callerEntries
    refine List.filter_congr fun e _ => ?_
    cases e.2 <;> rfl
  have hquiet : flagIsOn (resolveFlag overrides "verbose" .verbose) "quiet" =
      flagIsOn overrides "quiet" := by
    rw [flagIsOn, lookup_resolveFlag, if_neg (by decide), if_neg (by simp), flagIsOn]
  rw [hfilter, lookup_filter_snd ((h.resolveFlag ..).resolveFlag ..), lookup_resolveFlag,
    lookup_resolveFlag, hquiet, callerValue]
  by_cases hflags : k = "verbose" ∨ k = "quiet"
  · rw [if_pos hflags]
    rcases hflags with rfl | rfl <;> simp
  · rw [if_neg hflags, if_neg (fun hk => hflags (.inr hk))]
    split
    · rfl
    · rw [if_neg (fun hk => hflags (.inl hk))]
      split <;> rfl

end

/-! ### The environment -/

/-- The variable for scoring components, if it is set, holds a word for true or false. -/
def HasBooleanWord (environment : List (String × String)) : Prop :=
  ∀ text, environment.lookup "SFC_INSIGHT_COMPLEXITY" = some text →
    Text.lowerAscii text ∈ trueWords ++ falseWords

section
variable {environment : List (String × String)}

theorem booleanOf_eq_ok_iff {text : String} {b : Bool} :
    booleanOf text = .ok b ↔
      Text.lowerAscii text ∈ trueWords ++ falseWords ∧
        b = trueWords.contains (Text.lowerAscii text) := by
  unfold booleanOf
  simp only [List.mem_append, List.contains_iff_mem]
  split
  · rename_i htrue
    simp [htrue, eq_comm]
  · rename_i htrue
    split
    · rename_i hfalse
      simp [htrue, hfalse, eq_comm]
    · rename_i hfalse
      simp [htrue, hfalse]

theorem map_eq_ok_iff {ε α β : Type} {f : α → β} {x : Except ε α} {b : β} :
    x.map f = .ok b ↔ ∃ a, x = .ok a ∧ f a = b := by
  cases x with
  | error e => simp [Except.map]
  | ok a => simp [Except.map]

/-- What a variable that is set stands for. -/
theorem environmentValue_eq_ok_iff {key text : String} {v : Option Value}
    (hkey : key ∈ ScanSettings.fieldNames)
    (hset : environment.lookup (variableName key) = some text) :
    environmentValue key text = .ok v ↔
      (key = "complexity" → HasBooleanWord environment) ∧
        v = environmentSetting environment key := by
  have hcases : key = "folder" ∨ key = "blacklist" ∨ key = "extension" ∨ key = "verbosity" ∨
      key = "scoring" ∨ key = "complexity" := by
    simp only [ScanSettings.fieldNames, List.mem_cons, List.not_mem_nil, or_false] at hkey
    tauto
  obtain rfl | rfl | rfl | rfl | rfl | rfl := hcases
  case inr.inr.inr.inr.inr =>
    replace hset : environment.lookup "SFC_INSIGHT_COMPLEXITY" = some text := hset
    have hword : HasBooleanWord environment ↔
        Text.lowerAscii text ∈ trueWords ++ falseWords := by simp [HasBooleanWord, hset]
    simp only [environmentValue, environmentSetting, map_eq_ok_iff, booleanOf_eq_ok_iff, hset,
      hword, Option.map_some, true_imp_iff]
    constructor
    · rintro ⟨b, ⟨hw, rfl⟩, rfl⟩
      exact ⟨hw, rfl⟩
    · rintro ⟨hw, rfl⟩
      exact ⟨_, ⟨hw, rfl⟩, rfl⟩
  case inl =>
    replace hset : environment.lookup "SFC_INSIGHT_FOLDER" = some text := hset
    simp [environmentValue, environmentSetting, hset, eq_comm]
  case inr.inl =>
    replace hset : environment.lookup "SFC_INSIGHT_BLACKLIST" = some text := hset
    simp [environmentValue, environmentSetting, hset, eq_comm]
  case inr.inr.inl =>
    replace hset : environment.lookup "SFC_INSIGHT_EXTENSION" = some text := hset
    simp [environmentValue, environmentSetting, hset, eq_comm]
  case inr.inr.inr.inl =>
    replace hset : environment.lookup "SFC_INSIGHT_VERBOSITY" = some text := hset
    simp [environmentValue, environmentSetting, hset, eq_comm]
  case inr.inr.inr.inr.inl => simp [environmentValue, environmentSetting, eq_comm]

/-- A variable that is not set gives no value. -/
theorem environmentSetting_eq_none {key : String} (hkey : key ∈ ScanSettings.fieldNames)
    (hset : environment.lookup (variableName key) = none) :
    environmentSetting environment key = none := by
  simp only [ScanSettings.fieldNames, List.mem_cons, List.not_mem_nil, or_false] at hkey
  obtain rfl | rfl | rfl | rfl | rfl | rfl := hkey
  case inr.inr.inr.inr.inr => rfl
  all_goals exact congrArg (Option.map _) hset

theorem environmentSetting_of_not_mem {key : String} (hkey : key ∉ ScanSettings.fieldNames) :
    environmentSetting environment key = none := by
  unfold environmentSetting
  split
  all_goals first | rfl | exact absurd (by decide) hkey

/-- The entry of each setting that has a value. -/
def entriesOf (value : String → Option Value) (keys : List String) : Entries :=
  keys.filterMap fun key => (value key).map (key, ·)

theorem entriesOf_cons_none {value : String → Option Value} {key : String}
    (h : value key = none) (keys : List String) :
    entriesOf value (key :: keys) = entriesOf value keys :=
  List.filterMap_cons_none (by rw [h, Option.map_none])

theorem entriesOf_cons_some {value : String → Option Value} {key : String} {v : Value}
    (h : value key = some v) (keys : List String) :
    entriesOf value (key :: keys) = (key, v) :: entriesOf value keys :=
  List.filterMap_cons_some (by rw [h, Option.map_some])

theorem lookup_entriesOf (value : String → Option Value) (keys : List String) (k : String) :
    (entriesOf value keys).lookup k = if k ∈ keys then value k else none := by
  induction keys with
  | nil => rfl
  | cons key keys ih =>
    cases hvalue : value key with
    | none =>
      rw [entriesOf_cons_none hvalue, ih]
      by_cases hk : k = key
      · simp [hk, hvalue]
      · simp [hk]
    | some v =>
      rw [entriesOf_cons_some hvalue]
      by_cases hk : k = key
      · rw [hk, List.lookup_cons_self, if_pos List.mem_cons_self, hvalue]
      · rw [lookup_cons_of_ne hk, ih]
        simp [hk]

theorem names_entriesOf (value : String → Option Value) (keys : List String) :
    (entriesOf value keys).map Prod.fst = keys.filter fun key => (value key).isSome := by
  induction keys with
  | nil => rfl
  | cons key keys ih =>
    cases hvalue : value key with
    | none => rw [entriesOf_cons_none hvalue, ih, List.filter_cons_of_neg (by simp [hvalue])]
    | some v =>
      rw [entriesOf_cons_some hvalue, List.map_cons, ih,
        List.filter_cons_of_pos (by simp [hvalue])]

theorem environmentEntriesFor_eq_ok_iff {keys : List String}
    (hkeys : ∀ key ∈ keys, key ∈ ScanSettings.fieldNames) {entries : Entries} :
    environmentEntriesFor environment keys = .ok entries ↔
      ("complexity" ∈ keys → HasBooleanWord environment) ∧
        entries = entriesOf (environmentSetting environment) keys := by
  induction keys generalizing entries with
  | nil => simp [environmentEntriesFor, entriesOf, eq_comm]
  | cons key keys ih =>
    have hkey := hkeys key List.mem_cons_self
    replace ih := @ih fun k hk => hkeys k (List.mem_cons_of_mem _ hk)
    have hhead : (key = "complexity" → HasBooleanWord environment) →
        (("complexity" ∈ key :: keys → HasBooleanWord environment) ↔
          ("complexity" ∈ keys → HasBooleanWord environment)) := by
      rw [List.mem_cons, eq_comm]
      tauto
    cases hset : environment.lookup (variableName key) with
    | none =>
      have hunset : key = "complexity" → HasBooleanWord environment := by
        rintro rfl text htext
        exact absurd (hset.symm.trans htext) nofun
      rw [entriesOf_cons_none (environmentSetting_eq_none hkey hset), hhead hunset, ← ih,
        environmentEntriesFor, hset]
    | some text =>
      cases hvalue : environmentValue key text with
      | error requirement =>
        have hnot : ¬(key = "complexity" → HasBooleanWord environment) := fun hword =>
          nomatch hvalue.symm.trans ((environmentValue_eq_ok_iff hkey hset).2 ⟨hword, rfl⟩)
        simp only [environmentEntriesFor, hset, hvalue, reduceCtorEq, false_iff, not_and]
        intro hword
        exact absurd (fun hk : key = "complexity" => hword (hk ▸ List.mem_cons_self)) hnot
      | ok v =>
        obtain ⟨hword, rfl⟩ := (environmentValue_eq_ok_iff hkey hset).1 hvalue
        rw [hhead hword]
        cases hv : environmentSetting environment key with
        | none =>
          rw [hv] at hvalue
          simp only [environmentEntriesFor, hset, hvalue, entriesOf_cons_none hv, ih]
        | some v =>
          rw [hv] at hvalue
          simp only [environmentEntriesFor, hset, hvalue, entriesOf_cons_some hv, map_eq_ok_iff, ih]
          constructor
          · rintro ⟨rest, ⟨hw, rfl⟩, rfl⟩
            exact ⟨hw, rfl⟩
          · rintro ⟨hw, rfl⟩
            exact ⟨_, ⟨hw, rfl⟩, rfl⟩

theorem environmentEntries_eq_ok_iff {entries : Entries} :
    environmentEntries environment = .ok entries ↔
      HasBooleanWord environment ∧
        entries = entriesOf (environmentSetting environment) ScanSettings.fieldNames := by
  rw [environmentEntries, environmentEntriesFor_eq_ok_iff fun _ hk => hk]
  simp [ScanSettings.fieldNames]

end

/-! ### All together -/

/-- The entries that the four places add up to. -/
def Sources.entries (s : Sources) : Entries :=
  overlay (overlay (overlay s.project s.explicit)
    (entriesOf (environmentSetting s.environment) ScanSettings.fieldNames))
    (callerEntries s.overrides)

theorem Sources.lookup_entries {s : Sources} (hexplicit : NamesOnce s.explicit)
    (hoverrides : NamesOnce s.overrides) (k : String) : s.entries.lookup k = s.value k := by
  have hfields : NamesOnce
      (entriesOf (environmentSetting s.environment) ScanSettings.fieldNames) := by
    rw [NamesOnce, names_entriesOf]
    exact List.Nodup.filter _ (by decide)
  have henvironment : (entriesOf (environmentSetting s.environment)
      ScanSettings.fieldNames).lookup k = environmentSetting s.environment k := by
    rw [lookup_entriesOf]
    split
    · rfl
    · rename_i hk
      exact (environmentSetting_of_not_mem hk).symm
  rw [Sources.entries, lookup_overlay hoverrides.callerEntries, lookup_overlay hfields,
    lookup_overlay hexplicit, lookup_callerEntries hoverrides, henvironment, Sources.value]

/-! ## Scoring -/

/-- What a table says of a weight or boundary, given with what is usual for it. -/
def weightValue (weights : Entries) (usual : String × Nat) : Value :=
  (weights.lookup usual.1).getD (.int usual.2)

/-- A scoring has the weights and boundaries that a table gives, and the usual ones for what the
table leaves out; the table gives no others. -/
def ReadsAs (weights : Entries) (scoring : Scoring) : Prop :=
  (∀ e ∈ weights, e.1 ∈ Scoring.fieldNames) ∧
    List.Forall₂ (fun usual field => weightValue weights usual = .int (field.2 : Nat))
      Scoring.usual.fields scoring.fields

/-- A table gives weights and boundaries only, all of them natural numbers, and the boundaries do
not cross. -/
structure WeightsAcceptable (weights : Entries) : Prop where
  known : ∀ e ∈ weights, e.1 ∈ Scoring.fieldNames
  natural : ∀ usual ∈ Scoring.usual.fields, ∃ n : Nat, weightValue weights usual = .int n
  ordered : ∀ medium high : Nat,
    weightValue weights ("medium_threshold", Scoring.usual.mediumThreshold) = .int medium →
    weightValue weights ("high_threshold", Scoring.usual.highThreshold) = .int high →
    medium ≤ high

section
variable {weights : Entries}

theorem weightIn_eq_ok_iff {key : String} {default n : Nat} :
    weightIn weights key default = .ok n ↔ weightValue weights (key, default) = .int n := by
  unfold weightIn weightOf weightValue
  split
  · rename_i hnone
    simp only [hnone, Option.getD_none, Except.ok.injEq, Value.int.injEq, Int.natCast_inj]
  · rename_i v hsome
    rw [hsome, Option.getD_some]
    cases v with
    | int m =>
      simp only [Value.int.injEq]
      split
      · simp only [Except.ok.injEq]
        omega
      · simp only [reduceCtorEq, false_iff]
        omega
    | _ => simp

theorem scoringOf_eq_ok_iff {scoring : Scoring} :
    scoringOf weights = .ok scoring ↔ ReadsAs weights scoring := by
  simp only [scoringOf, bind_eq_ok_iff, weightIn_eq_ok_iff, ReadsAs]
  constructor
  · rintro ⟨⟨⟩, hnames, n₁, h₁, n₂, h₂, n₃, h₃, n₄, h₄, n₅, h₅, n₆, h₆, n₇, h₇, n₈, h₈, n₉, h₉,
      n₁₀, h₁₀, h⟩
    split at h
    · cases h
      refine ⟨fun e he => checkNames_eq_ok_iff.1 hnames _ (List.mem_map_of_mem he), ?_⟩
      simp only [Scoring.fields, List.forall₂_cons, List.Forall₂.nil, and_true]
      exact ⟨h₁, h₂, h₃, h₄, h₅, h₆, h₇, h₈, h₉, h₁₀⟩
    · cases h
  · rintro ⟨hnames, hfields⟩
    simp only [Scoring.fields, List.forall₂_cons, List.Forall₂.nil, and_true] at hfields
    obtain ⟨h₁, h₂, h₃, h₄, h₅, h₆, h₇, h₈, h₉, h₁₀⟩ := hfields
    refine ⟨(), checkNames_eq_ok_iff.2 ?_, _, h₁, _, h₂, _, h₃, _, h₄, _, h₅, _, h₆, _, h₇, _, h₈,
      _, h₉, _, h₁₀, dif_pos scoring.medium_le_high⟩
    intro name hname
    obtain ⟨e, he, rfl⟩ := List.mem_map.1 hname
    exact hnames e he

/-- A table is acceptable if some scoring has its weights and boundaries. -/
theorem weightsAcceptable_iff : WeightsAcceptable weights ↔ ∃ scoring, ReadsAs weights scoring := by
  constructor
  · rintro ⟨hknown, hnatural, hordered⟩
    simp only [Scoring.fields, List.forall_mem_cons] at hnatural
    obtain ⟨⟨n₁, h₁⟩, ⟨n₂, h₂⟩, ⟨n₃, h₃⟩, ⟨n₄, h₄⟩, ⟨n₅, h₅⟩, ⟨n₆, h₆⟩, ⟨n₇, h₇⟩, ⟨n₈, h₈⟩,
      ⟨n₉, h₉⟩, ⟨n₁₀, h₁₀⟩, -⟩ := hnatural
    refine ⟨⟨n₁, n₂, n₃, n₄, n₅, n₆, n₇, n₈, n₉, n₁₀, hordered _ _ h₁₀ h₉⟩, hknown, ?_⟩
    simp only [Scoring.fields, List.forall₂_cons, List.Forall₂.nil, and_true]
    exact ⟨h₁, h₂, h₃, h₄, h₅, h₆, h₇, h₈, h₉, h₁₀⟩
  · rintro ⟨scoring, hknown, hfields⟩
    refine ⟨hknown, fun usual husual => ?_, fun medium high hmedium hhigh => ?_⟩
    · obtain ⟨i, hi, rfl⟩ := List.getElem_of_mem husual
      exact ⟨_, hfields.get hi (hfields.length_eq ▸ hi)⟩
    · simp only [Scoring.fields, List.forall₂_cons, List.Forall₂.nil, and_true] at hfields
      obtain ⟨-, -, -, -, -, -, -, -, h₉, h₁₀⟩ := hfields
      have h := scoring.medium_le_high
      have hm := Value.int.inj (hmedium.symm.trans h₁₀)
      have hh := Value.int.inj (hhigh.symm.trans h₉)
      omega

end

/-- A value for the scoring: a table of weights and boundaries, or a scoring as a caller has it. -/
def ScoringAcceptable : Option Value → Prop
  | none => True
  | some .nothing => True
  | some (.scoring _) => True
  | some (.table weights) => WeightsAcceptable weights
  | some _ => False

/-- The scoring that a value stands for; what is left out is as usual, and is not looked for in
another place. -/
def ScoringIs (value : Option Value) (scoring : Scoring) : Prop :=
  match value with
  | none => scoring = .usual
  | some .nothing => scoring = .usual
  | some (.scoring given) => scoring = given
  | some (.table weights) => ReadsAs weights scoring
  | some _ => False

theorem scoringAcceptable_iff {value : Option Value} :
    ScoringAcceptable value ↔ ∃ scoring, ScoringIs value scoring := by
  unfold ScoringAcceptable ScoringIs
  split
  case h_4 => exact weightsAcceptable_iff
  all_goals simp

theorem scoringIn_eq_ok_iff {entries : Entries} {scoring : Scoring} :
    scoringIn entries = .ok scoring ↔ ScoringIs (entries.lookup "scoring") scoring := by
  unfold scoringIn ScoringIs
  cases entries.lookup "scoring" with
  | none => simp [eq_comm]
  | some v =>
    cases v with
    | table weights =>
      simp only [← scoringOf_eq_ok_iff]
      cases scoringOf weights with
      | ok s => simp
      | error rejection => simp
    | _ => simp [eq_comm]

/-! ## The settings as a whole -/

/-- What a value lists when directories to skip are asked for: a text lists them between commas. -/
def Value.listed? : Value → Option (List Value)
  | .text s => some ((namesIn (some s)).map .text)
  | v => v.members?

/-- Each setting has the value that the places give to it, or its usual value. -/
structure Sources.Settle (s : Sources) (settings : ScanSettings Scoring) : Prop where
  folder : (s.value "folder").getD (.text ".") = .text settings.folder
  folder_ne_empty : settings.folder ≠ ""
  blacklist : ((s.value "blacklist").getD (.list [])).listed? = some settings.blacklist
  complexity : (s.value "complexity").getD (.bool false) = settings.complexity
  extension : (s.value "extension").getD (.text ".vue") = .text settings.extension
  extension_dot : settings.extension.toList.head? = some '.'
  verbosity : (s.value "verbosity").getD (.text "normal") = .text settings.verbosity.name
  scoring : ScoringIs (s.value "scoring") settings.scoring

/-- The values that the places give can be used.  Only the values that win count, but for the word
in the environment: it counts even where a caller says whether to score components. -/
structure Sources.Acceptable (s : Sources) : Prop where
  word : HasBooleanWord s.environment
  filesKnown : ∀ e ∈ s.project ++ s.explicit, e.1 ∈ ScanSettings.fieldNames
  callerKnown : ∀ e ∈ s.overrides, e.2.isGiven →
    e.1 ∈ "verbose" :: "quiet" :: ScanSettings.fieldNames
  folder : ∃ t, (s.value "folder").getD (.text ".") = .text t ∧ t ≠ ""
  blacklist : ((s.value "blacklist").getD (.list [])).listed?.isSome
  extension : ∃ t, (s.value "extension").getD (.text ".vue") = .text t ∧
    t.toList.head? = some '.'
  verbosity : ∃ v : Verbosity, (s.value "verbosity").getD (.text "normal") = .text v.name
  scoring : ScoringAcceptable (s.value "scoring")

/-- Only settings are given a value. -/
theorem Sources.isSome_value_imp_iff {s : Sources} (hoverrides : NamesOnce s.overrides) :
    (∀ key, (s.value key).isSome → key ∈ ScanSettings.fieldNames) ↔
      (∀ e ∈ s.project ++ s.explicit, e.1 ∈ ScanSettings.fieldNames) ∧
        ∀ e ∈ s.overrides, e.2.isGiven →
          e.1 ∈ "verbose" :: "quiet" :: ScanSettings.fieldNames := by
  have hvalue : ∀ key, (s.value key).isSome ↔ (callerValue s.overrides key).isSome ∨
      (environmentSetting s.environment key).isSome ∨ (s.explicit.lookup key).isSome ∨
        (s.project.lookup key).isSome := by
    simp [Sources.value]
  constructor
  · intro h
    refine ⟨fun e he => h e.1 ?_, fun e he hgiven => ?_⟩
    · rw [hvalue, isSome_lookup_iff, isSome_lookup_iff]
      rcases List.mem_append.1 he with he | he
      · exact .inr (.inr (.inr (List.mem_map_of_mem he)))
      · exact .inr (.inr (.inl (List.mem_map_of_mem he)))
    · by_contra hne
      simp only [List.mem_cons, not_or] at hne
      obtain ⟨hverbose, hquiet, hfield⟩ := hne
      have hverbosity : e.1 ≠ "verbosity" := fun heq => hfield (heq ▸ by decide)
      have hlookup := (mem_iff_lookup_eq_some hoverrides).1 he
      refine hfield (h e.1 ((hvalue e.1).2 (.inl ?_)))
      simp [callerValue, hverbose, hquiet, hverbosity, hlookup, hgiven]
  · rintro ⟨hfiles, hcaller⟩ key hkey
    have hfile : ∀ {entries : Entries}, (∀ e ∈ entries, e ∈ s.project ++ s.explicit) →
        (entries.lookup key).isSome → key ∈ ScanSettings.fieldNames := by
      intro entries hsub hsome
      obtain ⟨e, he, rfl⟩ := List.mem_map.1 (isSome_lookup_iff.1 hsome)
      exact hfiles e (hsub e he)
    rcases (hvalue key).1 hkey with hkey | hkey | hkey | hkey
    · by_contra hfield
      have hverbosity : key ≠ "verbosity" := fun heq => hfield (heq ▸ by decide)
      obtain ⟨v, hv⟩ := Option.isSome_iff_exists.1 hkey
      simp only [callerValue, hverbosity, false_and, if_false] at hv
      split at hv
      · cases hv
      · rename_i hflags
        obtain ⟨hlookup, hgiven⟩ := Option.filter_eq_some_iff.1 hv
        have hmem := hcaller _ ((mem_iff_lookup_eq_some hoverrides).2 hlookup) hgiven
        simp only [List.mem_cons] at hmem
        tauto
    · by_contra hfield
      rw [environmentSetting_of_not_mem hfield] at hkey
      cases hkey
    · exact hfile (fun e he => List.mem_append_right _ he) hkey
    · exact hfile (fun e he => List.mem_append_left _ he) hkey

theorem Sources.acceptable_iff {s : Sources} :
    s.Acceptable ↔ HasBooleanWord s.environment ∧
      ((∀ e ∈ s.project ++ s.explicit, e.1 ∈ ScanSettings.fieldNames) ∧
        ∀ e ∈ s.overrides, e.2.isGiven →
          e.1 ∈ "verbose" :: "quiet" :: ScanSettings.fieldNames) ∧
        ∃ settings, s.Settle settings := by
  constructor
  · intro h
    obtain ⟨folder, hfolder, hne⟩ := h.folder
    obtain ⟨extension, hextension, hdot⟩ := h.extension
    obtain ⟨verbosity, hverbosity⟩ := h.verbosity
    obtain ⟨blacklist, hblacklist⟩ := Option.isSome_iff_exists.1 h.blacklist
    obtain ⟨scoring, hscoring⟩ := scoringAcceptable_iff.1 h.scoring
    exact ⟨h.word, ⟨h.filesKnown, h.callerKnown⟩,
      { folder, blacklist, complexity := _, extension, verbosity, scoring },
      hfolder, hne, hblacklist, rfl, hextension, hdot, hverbosity, hscoring⟩
  · rintro ⟨hword, ⟨hfiles, hcaller⟩, settings, h⟩
    exact ⟨hword, hfiles, hcaller, ⟨_, h.folder, h.folder_ne_empty⟩,
      Option.isSome_iff_exists.2 ⟨_, h.blacklist⟩, ⟨_, h.extension, h.extension_dot⟩,
      ⟨_, h.verbosity⟩, scoringAcceptable_iff.2 ⟨_, h.scoring⟩⟩

theorem textIn_eq_ok_iff {entries : Entries} {key default t : String} :
    ScanSettings.textIn entries key default = .ok t ↔
      (entries.lookup key).getD (.text default) = .text t := by
  unfold ScanSettings.textIn ScanSettings.valueIn
  split
  · rename_i s hs
    rw [hs, Except.ok.injEq, Value.text.injEq]
  · rename_i v hv
    simp only [reduceCtorEq, false_iff]
    exact hv t

theorem blacklistOf_eq_ok_iff {v : Value} {members : List Value} :
    ScanSettings.blacklistOf v = .ok members ↔ v.listed? = some members := by
  cases v with
  | text s => simp [ScanSettings.blacklistOf, Value.listed?]
  | _ => simp [ScanSettings.blacklistOf, Value.listed?, Value.members?]

theorem Verbosity.ofName?_eq_some_iff {name : String} {v : Verbosity} :
    Verbosity.ofName? name = some v ↔ name = v.name := by
  constructor
  · unfold Verbosity.ofName?
    split
    all_goals
      intro h
      cases h
      try rfl
  · rintro rfl
    cases v <;> rfl

theorem ite_throw_eq_ok_iff {ε α β : Type} {c : Prop} [Decidable c] {e : ε}
    {f : α → Except ε β} {x : Except ε β} {b : β} :
    (if c then (throw e : Except ε α) >>= f else x) = .ok b ↔ ¬c ∧ x = .ok b := by
  split
  · rename_i hc
    simp [hc, throw_bind_ne_ok]
  · rename_i hc
    simp [hc]

theorem Sources.ofEntries_eq_ok_iff {s : Sources} {entries : Entries}
    (hentries : ∀ key, entries.lookup key = s.value key) {scoring : Scoring}
    (hscoring : ScoringIs (s.value "scoring") scoring) {settings : ScanSettings Scoring} :
    ScanSettings.ofEntries entries scoring = .ok settings ↔
      (∀ key, (s.value key).isSome → key ∈ ScanSettings.fieldNames) ∧
        settings.scoring = scoring ∧ s.Settle settings := by
  have hknown : (∀ name ∈ entries.map Prod.fst, name ∈ ScanSettings.fieldNames) ↔
      ∀ key, (s.value key).isSome → key ∈ ScanSettings.fieldNames := by
    simp only [← hentries, isSome_lookup_iff]
  rw [← hknown, ← checkNames_eq_ok_iff]
  simp only [ScanSettings.ofEntries, bind_eq_ok_iff, textIn_eq_ok_iff, ite_throw_eq_ok_iff,
    hentries, ScanSettings.valueIn, ne_eq, not_not]
  constructor
  · rintro ⟨⟨⟩, hnames, folder, hfolder, extension, hextension, name, hname, hne, hdot, h⟩
    cases hverbosity : Verbosity.ofName? name with
    | none =>
      rw [hverbosity] at h
      cases h
    | some verbosity =>
      simp only [hverbosity, bind_eq_ok_iff, blacklistOf_eq_ok_iff] at h
      obtain ⟨blacklist, hblacklist, h⟩ := h
      cases h
      rw [Verbosity.ofName?_eq_some_iff.1 hverbosity] at hname
      exact ⟨hnames, rfl, hfolder, hne, hblacklist, rfl, hextension, hdot, hname, hscoring⟩
  · rintro ⟨hnames, rfl, h⟩
    refine ⟨(), hnames, _, h.folder, _, h.extension, _, h.verbosity, h.folder_ne_empty,
      h.extension_dot, ?_⟩
    simp only [Verbosity.ofName?_eq_some_iff.2 rfl, bind_eq_ok_iff, blacklistOf_eq_ok_iff]
    refine ⟨_, h.blacklist, ?_⟩
    rw [h.complexity]
    rfl

/-- The four places add up to settings if what they say can be used, and then to those settings
that have the value of the highest place, each on its own. -/
theorem Sources.resolve_eq_ok_iff {s : Sources} (hexplicit : NamesOnce s.explicit)
    (hoverrides : NamesOnce s.overrides) {settings : ScanSettings Scoring} :
    resolve s.project s.explicit s.environment s.overrides = .ok settings ↔
      s.Acceptable ∧ s.Settle settings := by
  have hentries := s.lookup_entries hexplicit hoverrides
  simp only [resolve, bind_eq_ok_iff, environmentEntries_eq_ok_iff, scoringIn_eq_ok_iff]
  constructor
  · rintro ⟨_, ⟨hword, rfl⟩, scoring, hscoring, h⟩
    replace hscoring : ScoringIs (s.value "scoring") scoring := hentries "scoring" ▸ hscoring
    split at h
    · rename_i hok
      cases h
      obtain ⟨hknown, -, hsettle⟩ := (s.ofEntries_eq_ok_iff hentries hscoring).1 hok
      exact ⟨s.acceptable_iff.2 ⟨hword, (s.isSome_value_imp_iff hoverrides).1 hknown, _, hsettle⟩,
        hsettle⟩
    · cases h
  · rintro ⟨hacceptable, h⟩
    have hknown := (s.isSome_value_imp_iff hoverrides).2
      ⟨hacceptable.filesKnown, hacceptable.callerKnown⟩
    have hok := (s.ofEntries_eq_ok_iff hentries h.scoring).2 ⟨hknown, rfl, h⟩
    refine ⟨_, ⟨hacceptable.word, rfl⟩, settings.scoring, ?_, ?_⟩
    · exact (hentries "scoring").symm ▸ h.scoring
    · unfold Sources.entries at hok
      rw [hok]

/-- The four places add up to settings just if what they say can be used. -/
theorem Sources.exists_resolve_eq_ok_iff {s : Sources} (hexplicit : NamesOnce s.explicit)
    (hoverrides : NamesOnce s.overrides) :
    (∃ settings, resolve s.project s.explicit s.environment s.overrides = .ok settings) ↔
      s.Acceptable := by
  simp only [s.resolve_eq_ok_iff hexplicit hoverrides]
  constructor
  · rintro ⟨_, h, -⟩
    exact h
  · intro h
    obtain ⟨-, -, settings, hsettle⟩ := s.acceptable_iff.1 h
    exact ⟨settings, h, hsettle⟩

end Settings
end ComponentCensus
