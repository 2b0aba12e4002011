import Assay.Number.Decimal

/-! # Durations

A duration is a whole number of nanoseconds.  Its length in seconds is the
double that adding the double of the whole seconds to the double of the
remaining fraction gives.
-/

namespace Assay

/-- A length of time in nanoseconds. -/
structure Duration where
  nanos : Nat
  deriving Repr, DecidableEq

namespace Duration

def zero : Duration := ⟨0⟩

/-- Whole seconds and the nanoseconds after them. -/
def ofParts (seconds nanos : Nat) : Duration := ⟨seconds * 1000000000 + nanos⟩

/-- The time from `start` to `stop`, zero if the clock went back. -/
def between (start stop : Nat) : Duration := ⟨stop - start⟩

/-- Whole milliseconds; the rest is dropped. -/
def millis (d : Duration) : Nat := d.nanos / 1000000

/-- The length in seconds as a double. -/
def seconds (d : Duration) : Number.Binary64 :=
  .addMagnitudes (.ofRatio false (d.nanos / 1000000000) 1)
    (.ofRatio false (d.nanos % 1000000000) 1000000000)

/-- The seconds with two decimal places. -/
def secondsText (d : Duration) : String :=
  match d.seconds with
  | .finite _ m => m.fixed 2
  | x => x.write Number.Binary64.shownStyle

end Duration

end Assay
