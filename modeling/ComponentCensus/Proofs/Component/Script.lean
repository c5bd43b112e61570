import ComponentCensus.Component.Script
import ComponentCensus.Proofs.Component.Tag
import ComponentCensus.Proofs.Text.Trimming

/-!
# The script, found by three searches

The script of a component is looked for at every place of the text, and at each place with every
length that the opening tag could have.  None of that freedom is used: the first place where the
name of the tag stands settles everything.  If no closing bracket comes behind it, no later tag is
closed either; and if no closing tag comes behind the bracket, none comes behind a later one.

* `scriptBetween?` — three searches, each from where the one before it ended.
* `textBefore?_scriptEnd`, `regionAt?_of_tag` — what the pattern of the closing tag and a single
  place come to.
* `firstRegion?_eq_scriptBetween?` — the script region is what the three searches find.
* `script_by_three_searches` — the script, what it never holds, and what is found in a text that is
  put together from its parts.
-/

set_option autoImplicit false

namespace ComponentCensus

open Text

/-- The text between the first script tag and the closing tag: the first place where the name of the
tag stands, the first closing bracket behind the name, and the first closing tag behind that. -/
def scriptBetween? (text : List Char) : Option (List Char) := do
  let opened ← placeFrom? "<script" 0 text
  let inner ← placeFrom? ">" (opened + 7) text
  let closed ← placeFrom? "</script>" (inner + 1) text
  return (text.take closed).drop (inner + 1)

/-! ## The closing tag -/

theorem fits_scriptEnd {x : Option Char} {t : List Char} :
    scriptEnd.Fits x t ↔ Spells "</script>".toList t := by
  have hless : IsMark '<' := by decide
  have hslash : IsMark '/' := by decide
  have hgreater : IsMark '>' := by decide
  have hword : "</script>".toList = ['<'] ++ ['/'] ++ "script".toList ++ ['>'] := by decide
  simp only [scriptEnd, Pattern.fits_of, hword, spells_append, fits_append, fits_anyCase,
    fits_mark_iff_spells hless, fits_mark_iff_spells hslash, fits_mark_iff_spells hgreater]

theorem isEmpty_restsAt_scriptEnd (x : Option Char) (s : List Char) :
    (scriptEnd.restsAt x s).isEmpty = !standsAt "</script>".toList s 0 := by
  rw [← Bool.not_inj_iff, Bool.not_not, Bool.eq_iff_iff, Bool.not_eq_true',
    Pattern.isEmpty_restsAt_iff, standsAt_iff]
  simp only [fits_scriptEnd, List.drop_zero]

/-- The text in front of the closing tag is what comes before its first place. -/
theorem textBefore?_scriptEnd (x : Option Char) (s : List Char) :
    scriptEnd.textBefore? x s = (placeFrom? "</script>" 0 s).map s.take := by
  have hne : "</script>".toList ≠ [] := by decide
  induction s generalizing x with
  | nil =>
    rw [Pattern.textBefore?, isEmpty_restsAt_scriptEnd]
    rfl
  | cons c s ih =>
    rw [Pattern.textBefore?, isEmpty_restsAt_scriptEnd]
    cases hstands : standsAt "</script>".toList (c :: s) 0 with
    | true =>
      rw [placeFrom?_of_standsAt_zero hne hstands]
      rfl
    | false =>
      rw [placeFrom?_cons_of_not hne hstands, Option.map_map, Bool.not_false, if_pos rfl, ih,
        Option.map_map]
      refine Option.map_congr fun i _ => ?_
      rw [Function.comp_apply, Function.comp_apply, Nat.add_comm, List.take_succ_cons]

/-! ## One place -/

/-- What a place has to hold: an opening tag, and a closing tag somewhere behind it. -/
theorem exists_of_regionAt?_eq_some {s inner : List Char} (h : regionAt? s = some inner) :
    ∃ o b r, s = o ++ (b ++ '>' :: r) ∧ Spells "<script".toList o ∧ '>' ∉ b ∧
      (placeFrom? "</script>" 0 r).map r.take = some inner := by
  obtain ⟨r, hr, hinner⟩ := List.exists_of_findSome?_eq_some h
  obtain ⟨t, rfl, ht⟩ := Pattern.mem_restsAt.1 hr
  obtain ⟨o, b, rfl, ho, hb⟩ := fits_tagPieces.1 (Pattern.fits_of.1 ht)
  exact ⟨o, b, r, by simp, ho, hb, textBefore?_scriptEnd none r ▸ hinner⟩

/-- Behind an opening tag, the tag has no other length. -/
theorem regionAt?_of_tag {o b : List Char} (ho : Spells "<script".toList o) (hb : '>' ∉ b)
    (r : List Char) :
    regionAt? (o ++ (b ++ '>' :: r)) = (placeFrom? "</script>" 0 r).map r.take := by
  have htag : scriptTag.Fits none (o ++ (b ++ ['>'])) :=
    Pattern.fits_of.2 (fits_tagPieces.2 ⟨o, b, rfl, ho, hb⟩)
  have htext : o ++ (b ++ '>' :: r) = o ++ (b ++ ['>']) ++ r := by simp
  rw [regionAt?, htext]
  have hmem : r ∈ scriptTag.restsAt none (o ++ (b ++ ['>']) ++ r) :=
    Pattern.mem_restsAt.2 ⟨_, rfl, htag⟩
  have hall : ∀ y ∈ scriptTag.restsAt none (o ++ (b ++ ['>']) ++ r), y = r := by
    intro y hy
    obtain ⟨t, heq, ht⟩ := Pattern.mem_restsAt.1 hy
    obtain rfl := Pattern.eq_of_definite (by decide) htag ht heq
    exact (List.append_cancel_left heq).symm
  rw [List.eq_replicate_of_mem hall, List.findSome?_replicate,
    if_neg (Nat.ne_of_gt (List.length_pos_of_mem hmem)), textBefore?_scriptEnd]

/-! ## All places -/

theorem firstRegion?_append {a z : List Char}
    (h : ∀ j < a.length, regionAt? ((a ++ z).drop j) = none) :
    firstRegion? (a ++ z) = firstRegion? z := by
  induction a with
  | nil => rfl
  | cons c a ih =>
    have hfront : regionAt? (c :: (a ++ z)) = none := h 0 (Nat.succ_pos _)
    rw [List.cons_append, firstRegion?, hfront, Option.none_or]
    exact ih fun j hj => h (j + 1) (Nat.succ_lt_succ hj)

theorem firstRegion?_eq_none {s : List Char} (h : ∀ j, regionAt? (s.drop j) = none) :
    firstRegion? s = none := by
  have hall := firstRegion?_append (a := s) (z := []) fun j _ => by rw [List.append_nil]; exact h j
  rwa [List.append_nil] at hall

/-- A region that is found begins behind an opening tag and ends in front of a closing tag. -/
theorem exists_of_firstRegion?_eq_some {s inner : List Char} (h : firstRegion? s = some inner) :
    ∃ a o r, s = a ++ (o ++ r) ∧ Spells "<script".toList o ∧ '>' ∈ r ∧
      ∃ y i, placeFrom? "</script>" 0 y = some i ∧ inner = y.take i := by
  induction s with
  | nil => cases h
  | cons c s ih =>
    rw [firstRegion?] at h
    cases hregion : regionAt? (c :: s) with
    | some found =>
      rw [hregion, Option.some_or, Option.some_inj] at h
      subst h
      obtain ⟨o, b, y, heq, ho, -, hinner⟩ := exists_of_regionAt?_eq_some hregion
      obtain ⟨i, hi, rfl⟩ := Option.map_eq_some_iff.1 hinner
      exact ⟨[], o, b ++ '>' :: y, heq, ho, by simp, y, i, hi, rfl⟩
    | none =>
      rw [hregion, Option.none_or] at h
      obtain ⟨a, o, r, rfl, hrest⟩ := ih h
      exact ⟨c :: a, o, r, rfl, hrest⟩

/-- What comes behind a mark of a text comes behind its first mark. -/
theorem exists_append_of_append_mark {c : Char} {u b z r : List Char} (hb : c ∉ b)
    (h : u ++ c :: z = b ++ c :: r) : ∃ y, r = y ++ z := by
  rcases List.append_eq_append_iff.1 h with ⟨m, rfl, hm⟩ | ⟨m, rfl, hm⟩
  · cases m with
    | nil => exact ⟨[], (List.cons.inj hm).2.symm⟩
    | cons d m =>
      obtain ⟨rfl, -⟩ := List.cons.inj hm
      exact absurd (List.mem_append_right u List.mem_cons_self) hb
  · cases m with
    | nil => exact ⟨[], (List.cons.inj hm).2⟩
    | cons d m => exact ⟨m ++ [c], by rw [(List.cons.inj hm).2, List.append_assoc]; rfl⟩

/-- The name of the tag does not have the closing bracket. -/
theorem bracket_not_mem_of_spells {o : List Char} (ho : Spells "<script".toList o) : '>' ∉ o :=
  ho.not_mem (by decide) (by decide)

/-- Where the name of the tag does not stand, no region begins. -/
theorem regionAt?_drop_eq_none {s : List Char} {j : Nat}
    (h : standsAt "<script".toList s j = false) : regionAt? (s.drop j) = none := by
  refine Option.eq_none_iff_forall_ne_some.2 fun inner hinner => ?_
  obtain ⟨o, b, r, heq, ho, -⟩ := exists_of_regionAt?_eq_some hinner
  rw [standsAt_iff.2 ⟨o, _, heq, ho⟩] at h
  exact absurd h (by decide)

/-- Without a closing bracket behind the name, there is no region. -/
theorem firstRegion?_of_no_bracket {o z : List Char} (ho : Spells "<script".toList o)
    (hz : '>' ∉ z) : firstRegion? (o ++ z) = none := by
  refine firstRegion?_eq_none fun j => Option.eq_none_iff_forall_ne_some.2 fun inner h => ?_
  obtain ⟨o', b, r, heq, -⟩ := exists_of_regionAt?_eq_some h
  have hmem : '>' ∈ o ++ z := List.mem_of_mem_drop (i := j) (by rw [heq]; simp)
  exact (List.mem_append.1 hmem).elim (bracket_not_mem_of_spells ho) hz

/-- From the front of a tag on, the region is what its own bracket and the next closing tag
enclose. -/
theorem firstRegion?_of_tag {o b : List Char} (ho : Spells "<script".toList o) (hb : '>' ∉ b)
    (r : List Char) :
    firstRegion? (o ++ (b ++ '>' :: r)) = (placeFrom? "</script>" 0 r).map r.take := by
  have hregion := regionAt?_of_tag ho hb r
  cases hclosed : placeFrom? "</script>" 0 r with
  | some i =>
    obtain ⟨c, o, rfl⟩ := List.exists_cons_of_ne_nil
      (List.ne_nil_of_length_pos (by rw [ho.length_eq]; decide) : o ≠ [])
    rw [hclosed] at hregion
    rw [List.cons_append] at hregion ⊢
    rw [firstRegion?, hregion]
    rfl
  | none =>
    -- a later tag would be closed behind the bracket of this one as well
    refine firstRegion?_eq_none fun j => Option.eq_none_iff_forall_ne_some.2 fun inner h => ?_
    obtain ⟨o', b', r', heq, -, -, hinner⟩ := exists_of_regionAt?_eq_some h
    obtain ⟨i, hi, -⟩ := Option.map_eq_some_iff.1 hinner
    have htext : ((o ++ (b ++ '>' :: r)).take j ++ (o' ++ b')) ++ '>' :: r' =
        (o ++ b) ++ '>' :: r := by
      rw [List.append_assoc, List.append_assoc o' b', ← heq, List.take_append_drop,
        List.append_assoc]
    have hnot : '>' ∉ o ++ b := by
      rw [List.mem_append]
      exact not_or.2 ⟨bracket_not_mem_of_spells ho, hb⟩
    obtain ⟨y, rfl⟩ := exists_append_of_append_mark hnot htext
    have hnone := placeFrom?_infix_eq_none (s := r') (z := []) (by decide)
      (by rwa [List.append_nil] : placeFrom? "</script>" 0 (y ++ (r' ++ [])) = none)
    exact absurd (hnone.symm.trans hi) (by simp)

/-! ## The three searches -/

/-- The first mark behind a text without it. -/
theorem placeFrom?_bracket {b : List Char} (hb : '>' ∉ b) (r : List Char) :
    placeFrom? ">" 0 (b ++ '>' :: r) = some b.length := by
  have hgreater : IsMark '>' := by decide
  have hnone : placeFrom? ">" 0 b = none := (placeFrom?_mark_eq_none_iff rfl hgreater).2 hb
  exact placeFrom?_append_spelled rfl hgreater List.not_mem_nil hnone (Spells.refl ['>']) r

/-- The second search is a search in what comes behind the name of the tag. -/
theorem placeFrom?_bracket_behind {o : List Char} (ho : Spells "<script".toList o)
    (a z : List Char) :
    placeFrom? ">" (a.length + 7) (a ++ (o ++ z)) =
      (placeFrom? ">" 0 z).map (a.length + 7 + ·) := by
  have hne : ">".toList ≠ [] := by decide
  have hlength : (a ++ o).length = a.length + 7 := by
    rw [List.length_append, ho.length_eq]
    rfl
  have hbehind := placeFrom?_append hne (a ++ o) z 0
  rwa [hlength, List.append_assoc] at hbehind

/-- What the three searches find where the tag that comes first has a closing bracket. -/
theorem scriptBetween?_of_tag {a o b r : List Char}
    (hfirst : placeFrom? "<script" 0 (a ++ (o ++ (b ++ '>' :: r))) = some a.length)
    (ho : Spells "<script".toList o) (hb : '>' ∉ b) :
    scriptBetween? (a ++ (o ++ (b ++ '>' :: r))) = (placeFrom? "</script>" 0 r).map r.take := by
  have hbracket : placeFrom? ">" (a.length + 7) (a ++ (o ++ (b ++ '>' :: r))) =
      some (a.length + 7 + b.length) := by
    rw [placeFrom?_bracket_behind ho, placeFrom?_bracket hb, Option.map_some]
  -- everything up to the bracket
  let front := a ++ (o ++ (b ++ ['>']))
  have htext : a ++ (o ++ (b ++ '>' :: r)) = front ++ r := by simp [front]
  have hfront : front.length = a.length + 7 + b.length + 1 := by
    have hlength : o.length = 7 := ho.length_eq
    simp only [front, List.length_append, hlength, List.length_singleton]
    omega
  have hne : "</script>".toList ≠ [] := by decide
  have hclosed := placeFrom?_append hne front r 0
  rw [Nat.add_zero, hfront] at hclosed
  rw [scriptBetween?, hfirst]
  simp only [Option.bind_eq_bind, Option.bind_some, hbracket]
  rw [htext, hclosed, ← hfront]
  cases placeFrom? "</script>" 0 r with
  | none => rfl
  | some i =>
    simp only [Option.map_some, Option.bind_some, List.take_length_add_append, List.drop_left]
    rfl

/-- Without a closing bracket behind the tag that comes first, the searches find nothing. -/
theorem scriptBetween?_of_no_bracket {a o z : List Char}
    (hfirst : placeFrom? "<script" 0 (a ++ (o ++ z)) = some a.length)
    (ho : Spells "<script".toList o) (hz : '>' ∉ z) : scriptBetween? (a ++ (o ++ z)) = none := by
  have hgreater : IsMark '>' := by decide
  have hnone : placeFrom? ">" 0 z = none := (placeFrom?_mark_eq_none_iff rfl hgreater).2 hz
  have hbehind := placeFrom?_bracket_behind ho a z
  rw [hnone, Option.map_none] at hbehind
  rw [scriptBetween?, hfirst]
  simp only [Option.bind_eq_bind, Option.bind_some, hbehind, Option.bind_none]

/-- The region that is found is what the three searches find. -/
theorem firstRegion?_eq_scriptBetween? (s : List Char) : firstRegion? s = scriptBetween? s := by
  have hne : "<script".toList ≠ [] := by decide
  cases hopened : placeFrom? "<script" 0 s with
  | none =>
    have hnone : firstRegion? s = none := firstRegion?_eq_none fun j =>
      regionAt?_drop_eq_none ((placeFrom?_eq_none_iff hne).1 hopened j (Nat.zero_le j))
    rw [hnone, scriptBetween?, hopened]
    rfl
  | some i =>
    obtain ⟨a, o, z, rfl, rfl, ho, hfirst⟩ := exists_append_of_placeFrom?_zero hne hopened
    rw [firstRegion?_append fun j hj => regionAt?_drop_eq_none (hfirst j hj)]
    by_cases hz : '>' ∈ z
    · obtain ⟨b, r, rfl, hb⟩ := List.eq_append_cons_of_mem hz
      rw [firstRegion?_of_tag ho hb, scriptBetween?_of_tag hopened ho hb]
    · rw [firstRegion?_of_no_bracket ho hz, scriptBetween?_of_no_bracket hopened ho hz]

/-! ## The script -/

/-- The script is a part of the region. -/
theorem exists_append_trim (s : List Char) : ∃ u v, s = u ++ (trim s ++ v) := by
  obtain ⟨-, u, v, hs, -⟩ := trimsTo_trim s
  exact ⟨u, v, hs⟩

theorem scriptText_eq_nil_or {s : List Char} :
    scriptText s = [] ∨ ∃ inner, firstRegion? s = some inner ∧ scriptText s = trim inner := by
  rw [scriptText]
  cases firstRegion? s with
  | none => exact .inl rfl
  | some inner => exact .inr ⟨inner, rfl, rfl⟩

/-- Neither of the two tags can begin in what stands in front of it and end in the tag itself. -/
theorem scriptText_of_parts {front attributes body : List Char}
    (hfront : placeFrom? "<script" 0 front = none) (hattributes : '>' ∉ attributes)
    (hbody : placeFrom? "</script>" 0 body = none) (rest : List Char) :
    scriptText (front ++ ("<script".toList ++ (attributes ++ '>' :: (body ++
      ("</script>".toList ++ rest))))) = trim body := by
  have hless : IsMark '<' := by decide
  have hopened := placeFrom?_append_spelled (w := "script".toList) (by decide) hless (by decide)
    hfront (Spells.refl _) (attributes ++ '>' :: (body ++ ("</script>".toList ++ rest)))
  have hclosed := placeFrom?_append_spelled (w := "/script>".toList) (by decide) hless (by decide)
    hbody (Spells.refl _) rest
  rw [scriptText, firstRegion?_eq_scriptBetween?,
    scriptBetween?_of_tag hopened (Spells.refl _) hattributes, hclosed, Option.map_some,
    List.take_left]
  rfl

/-- **The script is found by three searches.**  It is the text between the first script tag and the
first closing tag behind it, without the blanks around it, and empty if one of the searches fails.
So it never holds a closing tag, it is empty if no script region is opened, and in a text that is
put together around a script, that script is found. -/
theorem script_by_three_searches (text : List Char) :
    scriptText text = ((scriptBetween? text).map trim).getD [] ∧
      placeFrom? "</script>" 0 (scriptText text) = none ∧
      (scriptText text ≠ [] → hasScript text = true) ∧
      ∀ front attributes body rest : List Char, placeFrom? "<script" 0 front = none →
        '>' ∉ attributes → placeFrom? "</script>" 0 body = none →
          scriptText (front ++ "<script".toList ++ attributes ++ ['>'] ++ body ++
            "</script>".toList ++ rest) = trim body := by
  have hne : "</script>".toList ≠ [] := by decide
  refine ⟨?_, ?_, fun hscript => ?_, fun front attributes body rest hfront hattributes hbody => ?_⟩
  · rw [scriptText, firstRegion?_eq_scriptBetween?]
  · rcases scriptText_eq_nil_or (s := text) with hnil | ⟨inner, hinner, htrim⟩
    · rw [hnil]
      rfl
    · obtain ⟨-, -, -, -, -, -, y, i, hi, rfl⟩ := exists_of_firstRegion?_eq_some hinner
      obtain ⟨u, v, huv⟩ := exists_append_trim (y.take i)
      rw [htrim]
      exact placeFrom?_infix_eq_none hne (huv ▸ placeFrom?_take_eq_none hne hi)
  · rcases scriptText_eq_nil_or (s := text) with hnil | ⟨inner, hinner, -⟩
    · exact absurd hnil hscript
    · obtain ⟨a, o, r, rfl, ho, hr, -⟩ := exists_of_firstRegion?_eq_some hinner
      exact occursIn_tag.2 ⟨a, o, r, rfl, ho, hr⟩
  · simpa only [List.append_assoc, List.cons_append, List.nil_append] using
      scriptText_of_parts hfront hattributes hbody rest

/-- A tag within a tag opens nothing, and a letter of Unicode counts as an `s`. -/
example : scriptText "<\u017fcript a=<script b> x <p> </SCRIPT> y </script>".toList =
    "x <p>".toList := by
  decide +kernel

end ComponentCensus
