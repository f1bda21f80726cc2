import Recurrence.DateTime.Timeline
import Recurrence.Duration.Signed
/-!
Periods: a start with an end, with a duration, or alone. Their constructors refuse ends before
the start, negative durations, and a start and an end that cannot be compared.
-/
namespace Recurrence

/-- How far a period reaches past its start. -/
inductive Span where
  | instant
  | upTo (stop : DateTime)
  | lasting (duration : Duration)
deriving DecidableEq, Inhabited

structure Period where
  start : DateTime
  span : Span
deriving DecidableEq, Inhabited

namespace Period

/-- A start alone. -/
def instant (start : DateTime) : Period := ⟨start, .instant⟩

/-- A start and an end, alike in kind and form and in order on the wall clock they share. -/
def withEnd (start stop : DateTime) : Except InvalidValue Period :=
  if start.hasTime ≠ stop.hasTime then .error (.periodMixesKinds start stop)
  else if start.form ≠ stop.form then .error (.periodMixesForms start stop)
  else if stop.wall < start.wall then .error (.periodEndsFirst start stop)
  else .ok ⟨start, .upTo stop⟩

/-- Why a period from a start may not last a duration: it must not be negative, nor have a time part
after a DATE. -/
def durationError? (start : DateTime) (duration : Duration) : Option InvalidValue :=
  if duration.isNegative then some (.periodNegative duration)
  else if !start.hasTime && duration.hasTime then some (.periodOfDate start duration)
  else none

/-- A start and a duration that it may last. -/
def withDuration (start : DateTime) (duration : Duration) : Except InvalidValue Period :=
  match durationError? start duration with
  | some error => .error error
  | none => .ok ⟨start, .lasting duration⟩

/-- The period of a start that lasts a duration checked before; none at all for a zero. -/
def lasting (start : DateTime) (duration : Duration) : Period :=
  ⟨start, if duration.isZero then .instant else .lasting duration⟩

def isInstant (period : Period) : Bool := period.span = .instant

/-- The end, which follows from the duration where only that is given. -/
def effectiveEnd (clocks : Clocks) (period : Period) : Except Failure DateTime :=
  match period.span with
  | .instant => .ok period.start
  | .upTo stop => .ok stop
  | .lasting duration => period.start.add clocks duration

/-- The duration, which follows from the end where only that is given: in whole days between
dates, and as the elapsed time between instants otherwise. -/
def effectiveDuration (clocks : Clocks) (period : Period) : Except Failure Duration :=
  match period.span with
  | .instant => .ok .zero
  | .lasting duration => .ok duration
  | .upTo stop =>
    match period.start with
    | .date day => orInvalid (Duration.ofParts 0 (stop.day - day) 0 0 0)
    | .time _ _ => do
      let last ← orZone (stop.toUtc clocks)
      let first ← orZone (period.start.toUtc clocks)
      orInvalid (Duration.ofElapsed (last - first))

def text (period : Period) : String :=
  match period.span with
  | .instant => period.start.text
  | .upTo stop => s!"{period.start.text}/{stop.text}"
  | .lasting duration => s!"{period.start.text}/{duration.text}"

end Period
end Recurrence
