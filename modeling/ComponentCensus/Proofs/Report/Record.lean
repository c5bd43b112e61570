import ComponentCensus.Proofs.Json.Rendering
import ComponentCensus.Report.Format

/-!
# The report for machines loses nothing

A summary can be read off its JSON value, and the JSON value off the report.

* `Assessment.json_injective`, `Breakdown.json_injective`, `Summary.json_injective` — a JSON value
  is that of one assessment, breakdown or summary, with modules and assessments in their order.
* `format_json_lossless` — the report is plain ASCII, decodes to the JSON value of the summary, and
  is the report of no other summary.
-/

set_option autoImplicit false

namespace ComponentCensus

theorem Tier.name_injective {t u : Tier} (h : t.name = u.name) : t = u := by
  cases t <;> cases u <;> first | rfl | exact absurd h (by decide)

theorem Assessment.json_injective {a b : Assessment} (h : a.json = b.json) : a = b := by
  simp only [Assessment.json, Json.object.injEq, List.cons.injEq, Prod.mk.injEq, Json.text.injEq,
    Json.int.injEq, Json.bool.injEq, true_and, and_true] at h
  obtain ⟨hfile, hpath, hmodule, hscore, htier, hhooks, hcomputed, hmethods, hwatchers, hmixins,
    hfilters, hprops, hdata⟩ := h
  cases a
  cases b
  rw [Assessment.mk.injEq]
  exact ⟨hfile, hpath, hmodule, hscore, Tier.name_injective htier, hhooks, hcomputed, hmethods,
    hwatchers, hmixins, hfilters, hprops, hdata⟩

theorem Breakdown.json_injective {b b' : Breakdown} (h : b.json = b'.json) : b = b' := by
  have hmodules : ∀ {ms ms' : List (String × Int)},
      ms.map (fun m => (m.1, Json.int m.2)) = ms'.map (fun m => (m.1, Json.int m.2)) →
        ms = ms' := by
    intro ms ms' hms
    refine (List.map_inj_right ?_).1 hms
    rintro ⟨name, n⟩ ⟨name', n'⟩ heq
    cases heq
    rfl
  have hdetails : ∀ {as as' : List Assessment},
      as.map Assessment.json = as'.map Assessment.json → as = as' :=
    (List.map_inj_right fun _ _ => Assessment.json_injective).1
  simp only [Breakdown.json, Tier.all, Breakdown.forTier, List.map_cons, List.map_nil,
    Json.object.injEq, Json.list.injEq, List.cons.injEq, Prod.mk.injEq, true_and, and_true] at h
  obtain ⟨⟨hlow, hmedium, hhigh⟩, hlow', hmedium', hhigh'⟩ := h
  obtain ⟨⟨_, _⟩, ⟨_, _⟩, ⟨_, _⟩⟩ := b
  obtain ⟨⟨_, _⟩, ⟨_, _⟩, ⟨_, _⟩⟩ := b'
  rw [Breakdown.mk.injEq, Section.mk.injEq, Section.mk.injEq, Section.mk.injEq]
  exact ⟨⟨hmodules hlow, hdetails hlow'⟩, ⟨hmodules hmedium, hdetails hmedium'⟩,
    hmodules hhigh, hdetails hhigh'⟩

theorem Summary.json_injective {s s' : Summary} (h : s.json = s'.json) : s = s' := by
  simp only [Summary.json, Json.object.injEq, List.cons.injEq, Prod.mk.injEq, Json.text.injEq,
    Json.int.injEq, true_and, and_true] at h
  obtain ⟨htotal, hoptions, hcomposition, htemplate, hunclassified, hexample, -, hcomplexity⟩ := h
  have hbreakdown : s.complexity = s'.complexity := by
    cases hb : s.complexity with
    | none =>
      cases hb' : s'.complexity with
      | none => rfl
      | some b' =>
        rw [hb, hb'] at hcomplexity
        cases hcomplexity
    | some b =>
      cases hb' : s'.complexity with
      | none =>
        rw [hb, hb'] at hcomplexity
        cases hcomplexity
      | some b' =>
        rw [hb, hb'] at hcomplexity
        rw [Breakdown.json_injective hcomplexity]
  cases s
  cases s'
  rw [Summary.mk.injEq]
  exact ⟨htotal, hoptions, hcomposition, htemplate, hunclassified, hexample, hbreakdown⟩

/-- **The report for machines loses nothing.** -/
theorem format_json_lossless (s : Summary) :
    ∃ text, Format.json.format s = .ok text ∧ (∀ c ∈ text.toList, c.toNat < 128) ∧
      Json.decode? text = some s.json ∧ (∀ v, Json.IsTextOf v text ↔ v = s.json) ∧
        ∀ s', Format.json.format s' = .ok text → s' = s := by
  refine ⟨s.json.render, rfl, Json.ascii_render s.json, Json.decode?_render s.json,
    fun v => ?_, fun s' h => ?_⟩
  · constructor
    · exact fun hv => hv.unique (Json.isTextOf_render s.json)
    · rintro rfl
      exact Json.isTextOf_render s.json
  · exact Summary.json_injective (Json.render_injective (Except.ok.inj h))

end ComponentCensus
