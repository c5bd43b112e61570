import ComponentCensus.Census.Tally
import ComponentCensus.Files.Source
import ComponentCensus.Files.Walk

/-!
# Scanning a directory tree

A scan walks a tree and counts every component file that it can read.  Files that cannot be read
are reported and left out.

* `Progress`, `Progress.step` — what a scan knows so far, and what an event of the walk adds.
* `scan` — the summary of a tree and the records of the scan.
-/

set_option autoImplicit false

namespace ComponentCensus

/-- What a scan knows so far. -/
structure Progress where
  /-- The running totals. -/
  tally : Tally
  /-- The number of files that could not be read. -/
  errors : Nat := 0
  /-- The records so far, the last one first. -/
  records : List Log.Record := []

namespace Progress

/-- The record of a file that cannot be read. -/
def errorRecord (path : Path) (reason : Reason) : Log.Record :=
  { channel := .tally
    level := .error
    text := "Error reading file " ++ path.text ++ ": " ++ reason.text }

/-- What an event of the walk adds. -/
def step {δ : Type} (p : Progress) : Event δ → Progress
  | .found path _ _ (.ok bytes) =>
    let c := componentOf path bytes
    { p with
      tally := p.tally.add c
      records := (c.logRecords p.tally.scoring).reverse ++ p.records }
  | .found path _ _ (.error reason) =>
    { p with errors := p.errors + 1, records := errorRecord path reason :: p.records }
  | e => { p with records := e.logRecord?.toList ++ p.records }

/-- The record of a scan that is complete. -/
def finalRecord (p : Progress) : Log.Record :=
  { channel := .tally
    level := .info
    text := "Scan complete: " ++ toString p.tally.total ++ " analyzed, " ++ toString p.errors ++
      " errors" }

end Progress

/-- The outcome of a scan. -/
structure Scan where
  /-- The records of the scan, in order. -/
  records : List Log.Record
  /-- The summary, or why there is none. -/
  result : Except WalkFailure Summary

/-- The scan of the tree below a root.  Components are scored if a scoring is given. -/
def scan (fs : FileSystem) (root : Path) (skip : List String) (extension : String)
    (scoring : Option Scoring) : Scan :=
  let w := walk fs root skip extension
  let p := w.events.foldl Progress.step { tally := Tally.new scoring }
  match w.failure with
  | some failure => { records := p.records.reverse, result := .error failure }
  | none => { records := (p.finalRecord :: p.records).reverse, result := .ok p.tally.summary }

end ComponentCensus
