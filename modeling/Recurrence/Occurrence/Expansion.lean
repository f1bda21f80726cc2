import Recurrence.Occurrence.Stream
/-!
Starting the stream of a set in a window. Rules are looked at from before the window, since an
occurrence that starts earlier may reach into it, and up to its end.
-/
namespace Recurrence.RecurrenceSet
open Calendar

/-- The instant from which rules are looked at: the length of an occurrence and a day before the
window. -/
def resumeAt? (set : RecurrenceSet) (window : Window) : Option Int :=
  window.start.bind fun start => move? start (-(set.duration.totalSeconds + secondsPerDay))

/-- The run of one of the rules of a set in a window. -/
def runIn (clocks : Clocks) (set : RecurrenceSet) (window : Window) (pattern : Pattern) :
    Except Failure Run := do
  let run ← Run.start clocks pattern set.start
  let run := match set.resumeAt? window with
    | some instant => run.resumingFrom instant
    | none => run
  return match window.stop with
    | some instant => run.withHorizon instant
    | none => run

/-- A single occurrence on the timeline. A start alone lasts as long as a generated occurrence. -/
def place (clocks : Clocks) (set : RecurrenceSet) (period : Period) : Except Failure Added := do
  let period := if period.isInstant then .lasting period.start set.duration else period
  let start ← orZone (period.start.key clocks)
  let last ← period.effectiveEnd clocks
  return ⟨period, start, ← orZone (last.key clocks)⟩

/-- Single occurrences in ascending order, of those with one start the first. -/
def firstAtEach : List Added → List Added
  | a :: b :: rest =>
    if b.start = a.start then firstAtEach (a :: rest) else a :: firstAtEach (b :: rest)
  | short => short
termination_by added => added.length

/-- The stream of the occurrences of the set at a position in a window. -/
def occurrencesAt (clocks : Clocks) (set : RecurrenceSet) (window : Window) (ordinal : Nat) :
    Except Failure Occurrences := do
  let clock ← orZone (set.start.clock? clocks)
  let startKey ← orZone (set.start.keyBy clock)
  let rules ← set.rules.mapM (set.runIn clocks window)
  let exclusionRules ← set.exclusionRules.mapM (set.runIn clocks window)
  let added ← set.added.mapM (set.place clocks)
  let excluded ← set.excluded.mapM fun value => orZone (value.key clocks)
  return {
    set, ordinal, clock, window, startKey, excluded
    generated := .single ⟨set.start, startKey⟩ :: rules.map .ofSource
    added := firstAtEach (added.mergeSort fun a b => a.start ≤ b.start)
    exclusionRules := exclusionRules.map .ofSource
    replaced := []
    cutoff := none
    deferred := [] }

/-- The stream of the occurrences of a set alone in a window. -/
def occurrences (clocks : Clocks) (set : RecurrenceSet) (window : Window) :
    Except Failure Occurrences :=
  set.occurrencesAt clocks window 0

end Recurrence.RecurrenceSet
