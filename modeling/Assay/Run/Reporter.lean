import Assay.Run.Report
import Assay.Text.Utf8

/-! # Events, reporters and sinks

A run tells a reporter what happens, one `Event` after the other.  A `Reporter`
is a step machine: it takes an event in some state and gives the next state,
together with an error if it could not deal with the event.

The reporters of this library write text to a `Sink`.  A sink may have room for
a limited number of bytes; it takes what fits and refuses the rest.
-/

namespace Assay

open Text (Bytes)

/-- What a run tells its reporter. -/
inductive Event where
  /-- The run begins, with so many cases. -/
  | runStart (cases : Nat)
  /-- A selected case has ended. -/
  | caseComplete (case : CaseReport)
  /-- A case has ended that the policy does not select. -/
  | caseDeselected (case : CaseReport)
  /-- The run has ended. -/
  | runComplete (report : RunReport)
  deriving Repr, DecidableEq

/-- A listener to the events of a run, with state `ρ`. -/
structure Reporter (ρ : Type) where
  tell : Event → ρ → Except IoError Unit × ρ

/-- Where text is written: all that has been taken so far, and how many bytes can
be taken altogether, if that is limited. -/
structure Sink where
  limit : Option Nat := none
  written : Bytes := []
  deriving Repr, DecidableEq

namespace Sink

/-- The error of a sink without room. -/
def full : IoError := .other "no room left"

/-- Write bytes.  When they do not all fit, those that fit are taken and the
write fails. -/
def write (s : Sink) (data : Bytes) : Except IoError Unit × Sink :=
  match s.limit with
  | none => (.ok (), { s with written := s.written ++ data })
  | some limit =>
    let room := limit - s.written.length
    if data.length ≤ room then (.ok (), { s with written := s.written ++ data })
    else (.error full, { s with written := s.written ++ data.take room })

/-- Write pieces one after the other, up to the first that does not fit. -/
def writeAll : List Bytes → Sink → Except IoError Unit × Sink
  | [], s => (.ok (), s)
  | piece :: rest, s =>
    match s.write piece with
    | (.error e, after) => (.error e, after)
    | (.ok (), after) => writeAll rest after

end Sink

namespace Reporter

/-- The reporter that writes the texts `pieces e` for every event `e`. -/
def writing (pieces : Event → List String) : Reporter Sink where
  tell e s := Sink.writeAll ((pieces e).map Text.utf8) s

/-- The reporter that lets every event pass. -/
def silent {ρ : Type} : Reporter ρ where
  tell _ s := (.ok (), s)

end Reporter

end Assay
