import OfflineSync.Calendar.Date

/-!
# Moments in time

An `Instant` is a second of the Unix epoch and the nanoseconds since its start. A leap second is
the second before it with a further billion nanoseconds, so that instants are ordered by their
seconds first. Stored watermarks keep whole microseconds: `Instant.toMicros` rounds down to them,
and `Instant.ofMicros?` reads them back where the date is representable.
-/

namespace OfflineSync

/-- A moment: seconds since the start of 1970, and nanoseconds within the second,
up to two billion of them where a leap second follows. -/
structure Instant where
  seconds : Int
  nanoseconds : Nat
  deriving DecidableEq, Repr, Inhabited

namespace Instant

/-- The order of instants: seconds first, nanoseconds within a second after. -/
def le (earlier later : Instant) : Bool :=
  earlier.seconds < later.seconds ||
    (earlier.seconds == later.seconds && earlier.nanoseconds ≤ later.nanoseconds)

instance : LE Instant := ⟨fun earlier later => le earlier later = true⟩

/-- The number of seconds of a day. -/
def secondsPerDay : Int := 86400

/-- The whole microseconds since the start of 1970, rounded down. -/
def toMicros (instant : Instant) : Int :=
  instant.seconds * 1000000 + instant.nanoseconds / 1000

/-- The instant a number of microseconds after the start of 1970, if its date is
representable. -/
def ofMicros? (micros : Int) : Option Instant :=
  let seconds := micros / 1000000
  let day := seconds / secondsPerDay
  if Date.leastDay ≤ day ∧ day ≤ Date.greatestDay then
    some ⟨seconds, (micros % 1000000).toNat * 1000⟩
  else none

end Instant

end OfflineSync
