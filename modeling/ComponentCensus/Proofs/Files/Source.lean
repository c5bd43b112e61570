import ComponentCensus.Component.Style
import ComponentCensus.Files.Snapshot
import ComponentCensus.Files.Source
import ComponentCensus.Proofs.Path
import ComponentCensus.Proofs.Text.LineEnds

/-!
# Component files

Whatever bytes a file holds, they make a component.

* `Holds` — a file that can be read holds some bytes.
* `textOfBytes_encode`, `textOfBytes_eq_of_sameLines` — the text of a component file is found again
  when it is stored, and does not depend on how line ends are written.
* `component_of_file` — what is read from a file.
-/

set_option autoImplicit false

namespace ComponentCensus

open Text Text.Utf8

/-- The file that a text denotes can be read and holds some bytes. -/
def Holds (fs : FileSystem) (file : String) (bs : Bytes) : Prop :=
  ∃ s, fs.visit (Path.ofString file) = some s ∧ s.bytes = .ok bs

variable {fs : FileSystem} {file : String} {bs bs' : Bytes}

theorem Holds.readComponent (h : Holds fs file bs) :
    readComponent fs (Path.ofString file) = .ok (componentOf (Path.ofString file) bs) := by
  obtain ⟨s, hvisit, hbytes⟩ := h
  rw [ComponentCensus.readComponent, hvisit]
  dsimp only
  rw [hbytes]

theorem toList_textOfBytes (bs : Bytes) :
    (textOfBytes bs).toList = unifyLineEnds (decodeLossy bs) := String.toList_ofList

/-- The text of a component file is the one that is read, with its line ends unified. -/
theorem lineEnds_textOfBytes {text : List Char} (h : Reads bs text) :
    LineEnds '\r' '\n' text (textOfBytes bs).toList := by
  rw [toList_textOfBytes, (reads_decodeLossy bs).unique h]
  exact lineEnds_unifyLineEnds text

theorem carriage_not_mem_textOfBytes (bs : Bytes) : '\r' ∉ (textOfBytes bs).toList :=
  (lineEnds_textOfBytes (reads_decodeLossy bs)).not_mem (by decide)

/-- The text of a component file, stored, is read again. -/
theorem textOfBytes_encode {text : List Char} (h : '\r' ∉ text) :
    textOfBytes (encode text) = String.ofList text := by
  rw [textOfBytes, decodeLossy_encode, unifyLineEnds_of_not_mem h]

theorem textOfBytes_eq_of_sameLines (h : SameLines 13 10 bs bs') :
    textOfBytes bs' = textOfBytes bs := by
  obtain ⟨u, hu, hu'⟩ := h
  rw [textOfBytes, textOfBytes, unifyLineEnds_decodeLossy hu, unifyLineEnds_decodeLossy hu']

/-- **Every file that can be read is a component.**  It has the path of the file, in its shortest
spelling, and the one text that is read from the bytes, with all line ends written as line feeds; if
the bytes encode a text, it is this text.  Storing the text and reading it again changes nothing.
Files that differ only in how their line ends are written have the same text, so they have the same
style, for the same reasons, and the same score. -/
theorem component_of_file (h : Holds fs file bs) :
    ∃ c, readComponent fs (Path.ofString file) = .ok c ∧
      (c.path = (Path.ofString file).text ∧ Path.ofString c.path = Path.ofString file) ∧
      '\r' ∉ c.content.toList ∧
      (∃ text, (∀ other, Reads bs other ↔ other = text) ∧
        LineEnds '\r' '\n' text c.content.toList) ∧
      (∀ text, bs = encode text → LineEnds '\r' '\n' text c.content.toList) ∧
      (∀ fs' file', Holds fs' file' (encode c.content.toList) →
        ∃ c', readComponent fs' (Path.ofString file') = .ok c' ∧ c'.content = c.content) ∧
      ∀ fs' file' bs', Holds fs' file' bs' → SameLines 13 10 bs bs' →
        ∃ c', readComponent fs' (Path.ofString file') = .ok c' ∧ c'.content = c.content ∧
          traceOf c'.content.toList = traceOf c.content.toList ∧
          ∀ scoring, (c'.assess scoring).score = (c.assess scoring).score ∧
            (c'.assess scoring).tier = (c.assess scoring).tier := by
  have hreads := reads_decodeLossy bs
  refine ⟨_, h.readComponent, ⟨rfl, Path.ofString_text (Path.named_ofString file)⟩,
    carriage_not_mem_textOfBytes bs, ⟨decodeLossy bs, fun other => ⟨fun hother => ?_, ?_⟩,
      lineEnds_textOfBytes hreads⟩, ?_, fun fs' file' h' => ?_, fun fs' file' bs' h' hsame => ?_⟩
  · exact hother.unique hreads
  · rintro rfl
    exact hreads
  · rintro text rfl
    exact lineEnds_textOfBytes (reads_encode text)
  · refine ⟨_, h'.readComponent, ?_⟩
    exact (textOfBytes_encode (carriage_not_mem_textOfBytes bs)).trans String.ofList_toList
  · have hcontent : (componentOf (Path.ofString file') bs').content =
        (componentOf (Path.ofString file) bs).content := textOfBytes_eq_of_sameLines hsame
    refine ⟨_, h'.readComponent, hcontent, congrArg (fun s => traceOf s.toList) hcontent,
      fun scoring => ?_⟩
    simp only [Component.assess, hcontent, and_self]

/-- The bytes of two lines, of which the first breaks off within a character. -/
def brokenBytes (lineEnd : Bytes) : Bytes := [0x61, 0xE2, 0x82] ++ (lineEnd ++ [0x62])

/-- A directory with one component file. -/
def singleFile (bs : Bytes) : Snapshot :=
  { workingDirectory := { anchor := .root, components := ["p"] }
    looks := [({ anchor := .relative, components := ["A.vue"] }, .file (.ok bs))] }

theorem holds_singleFile (bs : Bytes) : Holds (singleFile bs).fileSystem "./A.vue" bs :=
  ⟨.file (.ok bs), rfl, rfl⟩

/-- The path of the file is shortened, and its two lines end alike however that is written. -/
theorem component_of_file_brokenBytes :
    Holds (singleFile (brokenBytes [13])).fileSystem "./A.vue" (brokenBytes [13]) ∧
      SameLines 13 10 (brokenBytes [13]) (brokenBytes [13, 10]) ∧
      ∃ c, readComponent (singleFile (brokenBytes [13])).fileSystem (Path.ofString "./A.vue") =
          .ok c ∧ c.path = "A.vue" ∧ c.content = "a\uFFFD\nb" ∧
        ∃ c', readComponent (singleFile (brokenBytes [13, 10])).fileSystem
          (Path.ofString "./A.vue") = .ok c' ∧ c'.content = c.content := by
  have hheld := holds_singleFile (brokenBytes [13])
  have hend : LineEnds 13 10 [0x62] ([0x62] : Bytes) := .other (by decide) .nil
  have hsame : SameLines 13 10 (brokenBytes [13]) (brokenBytes [13, 10]) :=
    ⟨brokenBytes [10], .other (by decide) (.other (by decide) (.other (by decide)
      (.lone (by decide) hend))), .other (by decide) (.other (by decide) (.other (by decide)
        (.pair hend)))⟩
  obtain ⟨c, hread, ⟨hpath, -⟩, -, -, -, -, hothers⟩ := component_of_file hheld
  obtain ⟨c', hread', hcontent, -⟩ := hothers _ _ _ (holds_singleFile (brokenBytes [13, 10])) hsame
  refine ⟨hheld, hsame, c, hread, hpath.trans rfl, ?_, c', hread', hcontent⟩
  cases hheld.readComponent.symm.trans hread
  decide +kernel

end ComponentCensus
