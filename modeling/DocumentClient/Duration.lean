/-
  Durations — seconds, as doubles.

  Durations are set in whole milliseconds and kept in seconds: the double nearest to
  the quotient.  `milliseconds` is the way back; it yields the number that was set as
  long as doubles can tell the whole numbers of that size apart.
-/
import DocumentClient.Failure

namespace DocumentClient

/-- A duration in seconds. -/
structure Duration where
  seconds : Double
  deriving DecidableEq

namespace Duration

/-- The milliseconds of a second. -/
def perSecond : Nat := 1000

/-- The bound of some milliseconds: the exact quotient is rounded. -/
def ofBound (milliseconds : Int) : Outcome Duration :=
  let seconds := Double.ofRatio (milliseconds < 0) milliseconds.natAbs perSecond
  if seconds.isFinite then .ok ⟨seconds⟩ else .error (.overflow .quotient)

/-- The interval of some milliseconds: their number is rounded, and then the quotient. -/
def ofInterval (milliseconds : Nat) : Outcome Duration :=
  let rounded := Double.ofInt milliseconds
  if rounded.isFinite then .ok ⟨rounded.mulRatio 1 perSecond⟩ else .error (.overflow .whole)

/-- The nearest number of milliseconds. -/
def milliseconds (d : Duration) : Int := (d.seconds.mulRatio perSecond 1).round

end Duration

end DocumentClient
