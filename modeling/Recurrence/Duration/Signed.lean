import Recurrence.Error
/-!
Durations from signed numbers: from components that share one sign, and from an elapsed time,
which is split into days, hours, minutes and seconds.
-/
namespace Recurrence.Duration

/-- The magnitude of a signed component, if it fits 32 bits. -/
def magnitude (part : Int) : Except InvalidValue UInt32 :=
  if part.natAbs < 4294967296 then .ok (UInt32.ofNat part.natAbs)
  else .error (.componentTooLarge part)

/-- The duration of signed components, which must not differ in sign. -/
def ofParts (weeks days hours minutes seconds : Int) : Except InvalidValue Duration :=
  let parts := [weeks, days, hours, minutes, seconds]
  let negative := parts.any (· < 0)
  if negative && parts.any (0 < ·) then .error (.mixedSigns parts)
  else do
    let weeks ← magnitude weeks
    let days ← magnitude days
    let hours ← magnitude hours
    let minutes ← magnitude minutes
    let seconds ← magnitude seconds
    return ⟨negative, weeks, days, hours, minutes, seconds⟩

/-- The duration of an elapsed time, with as many whole days as it has. -/
def ofElapsed (elapsed : Int) : Except InvalidValue Duration :=
  let total := elapsed.natAbs
  let rest := total % 86400
  if total / 86400 < 4294967296 then
    .ok ⟨elapsed < 0, 0, .ofNat (total / 86400), .ofNat (rest / 3600), .ofNat (rest % 3600 / 60),
      .ofNat (rest % 60)⟩
  else .error (.elapsedTooLarge elapsed)

end Recurrence.Duration
