import Assay.Report.Summary
import Assay.Run.Reporter

/-! # The reporters

On the console there is a heading, one line for each case as it ends, and the
summary with a footer that holds the counts and the time.  With `verbose`, times
of cases are shown and cases that were not selected are mentioned.

As a document nothing is written while a run goes on; in the end the whole report
is written as one JSON value.
-/

namespace Assay

namespace Console

open Text (line)

/-- The last line of a run. -/
def footer (r : RunReport) (opts : RenderOptions) : String :=
  line (Paint.paint opts.color (if 0 < r.failed then "1;31" else "1;32")
    (banner ++ " " ++ r.counts ++ " in " ++ r.duration.secondsText ++ "s " ++ banner))

/-- What is written for an event, piece by piece. -/
def pieces (opts : RenderOptions) : Event → List String
  | .runStart cases =>
    [line (Paint.paint opts.color "1" (banner ++ " conformance run starts " ++ banner)),
      line ("collected " ++ toString cases ++ " case(s)"), line ""]
  | .caseComplete case =>
    let status := case.label ++ " " ++ case.status.render opts.color
    [line (if opts.verbose then status ++ " (" ++ toString case.duration.millis ++ "ms)"
      else status)]
  | .caseDeselected case =>
    if opts.verbose then [line (case.label ++ " " ++ Paint.paint opts.color "33" "DESELECTED")]
    else []
  | .runComplete report => [line "", report.renderSummary opts, footer report opts]

/-- The reporter that writes to the console. -/
def reporter (opts : RenderOptions) : Reporter Sink := .writing (pieces opts)

end Console

namespace Document

/-- What is written for an event, piece by piece. -/
def pieces : Event → List String
  | .runComplete report => [report.toJson.pretty, Text.line ""]
  | _ => []

/-- The reporter that writes a JSON document. -/
def reporter : Reporter Sink := .writing pieces

end Document

end Assay
