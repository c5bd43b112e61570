import ComponentCensus.Console.Layout
import ComponentCensus.Report.Overview
import ComponentCensus.Report.Record

/-!
# Formats of the report

* `Format` — a report is text for people or JSON for machines; `Format.ofName?` — the format of a
  name.
* `Format.format` — the report as a text; lines for people are broken at 200 columns.
* `Format.output` — what is written to the standard output, where lines are not broken.

Only the report for people depends on the emoji of the console.
-/

set_option autoImplicit false

namespace ComponentCensus

/-- A format of the report. -/
inductive Format where
  | text
  | json
deriving Repr, DecidableEq, Inhabited

/-- Why there is no report. -/
inductive ReportFault where
  /-- There is no format of that name. -/
  | unknownFormat (name : String)
  /-- A share is too large to be written. -/
  | shareTooLarge
  /-- A line is not well-formed markup. -/
  | markup (fault : Console.MarkupFault)
deriving Repr, DecidableEq, Inhabited

/-- Why there is no report, in words. -/
def ReportFault.message : ReportFault → String
  | unknownFormat name => "Unknown formatter: " ++ Text.quoted name ++ ". Choose from: json, text"
  | shareTooLarge => "integer division result too large for a float"
  | markup fault => fault.message

namespace Console

/-- What is printed for a marked-up line. -/
def printedMarkup (emoji : EmojiTable) (width : Option Nat) (line : String) :
    Except MarkupFault (List Char) :=
  (render emoji line.toList).map (printed width)

/-- What is printed for some marked-up lines, one after the other. -/
def printedAll (emoji : EmojiTable) (width : Option Nat) :
    List String → Except MarkupFault (List Char)
  | [] => .ok []
  | line :: lines => do
    let first ← printedMarkup emoji width line
    let rest ← printedAll emoji width lines
    return first ++ rest

/-- What is printed for a text that is no markup. -/
def printedVerbatim (emoji : EmojiTable) (width : Option Nat) (text : List Char) : List Char :=
  printed width (emoji.replace text)

end Console

namespace Format

/-- The format of a name. -/
def ofName? : String → Except ReportFault Format
  | "text" => .ok text
  | "json" => .ok json
  | name => .error (.unknownFormat name)

/-- The columns of a formatted text. -/
def textWidth : Nat := 200

/-- The report for people, its lines broken if there is a width. -/
def people (emoji : Console.EmojiTable) (width : Option Nat) (s : Summary) :
    Except ReportFault String :=
  match s.overview with
  | none => .error .shareTooLarge
  | some lines =>
    match Console.printedAll emoji width lines with
    | .ok cs => .ok (String.ofList cs)
    | .error fault => .error (.markup fault)

/-- The report as a text. -/
def format (f : Format) (s : Summary) (emoji : Console.EmojiTable := .empty) :
    Except ReportFault String :=
  match f with
  | text => people emoji (some textWidth) s
  | json => .ok s.json.render

/-- What is written to the standard output. -/
def output (f : Format) (s : Summary) (emoji : Console.EmojiTable := .empty) :
    Except ReportFault String :=
  match f with
  | text => people emoji none s
  | json => .ok (s.json.render ++ "\n")

end Format
end ComponentCensus
