import ComponentCensus.Proofs.Census.Totals
import ComponentCensus.Report.Format

/-!
# Using running totals

Whoever keeps running totals may add components, ask for a summary and have summaries formatted, in
any order.  Nothing but adding components has an effect on later summaries.

* `Session` — running totals and the summaries asked for so far; `Session.serve` answers a request.
* `Session.tally_after` — the totals after some requests are those of the components added.
* `answers_result_describes` — hence what a request for a summary is answered, whatever comes
  before it and after it.
-/

set_option autoImplicit false

namespace ComponentCensus

/-- What can be asked of running totals. -/
inductive Request where
  /-- Count a component. -/
  | add (c : Component)
  /-- Give a summary. -/
  | result
  /-- Format one of the summaries given so far, as a text or as it is written to the output. -/
  | report (index : Nat) (f : Format) (written : Bool)

/-- How a request is answered. -/
inductive Answer where
  /-- The style of the component and the records it leaves. -/
  | added (style : Option Style) (records : List Log.Record)
  /-- A summary. -/
  | summary (s : Summary)
  /-- A report, or why there is none. -/
  | report (outcome : Except ReportFault String)
  /-- There is no such summary. -/
  | noSummary

/-- Running totals in use. -/
structure Session where
  /-- The totals. -/
  tally : Tally
  /-- The summaries given so far, in order. -/
  summaries : List Summary := []

/-- The components added by some requests. -/
def addedBy (rs : List Request) : List Component :=
  rs.filterMap fun
    | .add c => some c
    | _ => none

namespace Session

/-- The session before the first request. -/
def start (scoring : Option Scoring) : Session := { tally := Tally.new scoring }

/-- The report of a summary given earlier. -/
def reportOf (s : Session) (index : Nat) (f : Format) (written : Bool) : Answer :=
  match s.summaries[index]? with
  | none => .noSummary
  | some summary => .report (if written then f.output summary else f.format summary)

/-- The session after a request, and the answer. -/
def serve (s : Session) : Request → Session × Answer
  | .add c =>
    ({ s with tally := s.tally.add c }, .added c.style? (c.logRecords s.tally.scoring))
  | .result =>
    ({ s with summaries := s.summaries ++ [s.tally.summary] }, .summary s.tally.summary)
  | .report index f written => (s, s.reportOf index f written)

/-- The session after some requests. -/
def after (s : Session) (rs : List Request) : Session :=
  rs.foldl (fun s r => (s.serve r).1) s

/-- The answers to some requests, in order. -/
def answers (s : Session) : List Request → List Answer
  | [] => []
  | r :: rs => (s.serve r).2 :: (s.serve r).1.answers rs

/-- Only adding a component changes the totals. -/
theorem tally_serve (s : Session) (r : Request) :
    (s.serve r).1.tally = (addedBy [r]).foldl Tally.add s.tally := by
  cases r <;> rfl

theorem tally_after (s : Session) (rs : List Request) :
    (s.after rs).tally = (addedBy rs).foldl Tally.add s.tally := by
  induction rs generalizing s with
  | nil => rfl
  | cons r rs ih =>
    have hsplit : addedBy (r :: rs) = addedBy [r] ++ addedBy rs :=
      List.filterMap_append (l := [r])
    rw [after, List.foldl_cons, ← after, ih, tally_serve, hsplit, List.foldl_append]

/-- A request is answered by the session that the requests before it leave. -/
theorem getElem?_answers (s : Session) (before : List Request) (r : Request)
    (later : List Request) :
    (s.answers (before ++ r :: later))[before.length]? = some ((s.after before).serve r).2 := by
  induction before generalizing s with
  | nil => rfl
  | cons q before ih =>
    rw [List.cons_append, answers, List.length_cons, List.getElem?_cons_succ, ih]
    rfl

end Session

/-- Whatever is asked before and after, a request for a summary is answered with the census of the
components added until then, and this summary is true of them. -/
theorem answers_result_describes (scoring : Option Scoring) (before later : List Request) :
    ∃ s : Summary,
      ((Session.start scoring).answers (before ++ .result :: later))[before.length]? =
        some (.summary s) ∧
      s = census scoring (addedBy before) ∧ s.Describes scoring (addedBy before) := by
  refine ⟨census scoring (addedBy before), ?_, rfl, census_describes scoring (addedBy before)⟩
  rw [Session.getElem?_answers, Session.serve, Session.tally_after]
  rfl

end ComponentCensus
