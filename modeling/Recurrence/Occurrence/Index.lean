import Recurrence.Occurrence.Expansion
import Recurrence.Occurrence.Merged
/-!
Sets that share a UID are one event: a series and its overrides. An override of one instance
takes that instance away from the series; an override of an instance and all later ones takes
those away, up to the next such override.
-/
namespace Recurrence

/-- Sets at their positions. -/
structure RecurrenceIndex where
  sets : List RecurrenceSet

namespace RecurrenceIndex

/-- The UIDs in order of their first appearance. -/
def uids (index : RecurrenceIndex) : List String := (index.sets.map (·.uid)).eraseDups

/-- The sets of an event with their positions. -/
def event (index : RecurrenceIndex) (uid : String) : List (RecurrenceSet × Nat) :=
  index.sets.zipIdx.filter fun (set, _) => set.uid = uid

/-- The place of the instance that a set replaces, and how far it replaces. -/
def replacedBy (clocks : Clocks) (set : RecurrenceSet) :
    Except Failure (Option (TimelineKey × RecurrenceRange)) :=
  match set.replaces with
  | none => .ok none
  | some id => orZone ((id.value.key clocks).map fun key => some (key, id.range))

/-- The streams of an event, each without what overrides take from it. -/
def streams (clocks : Clocks) (window : Window) (event : List (RecurrenceSet × Nat)) :
    Except Failure (List Occurrences) := do
  let replaced ← event.mapM fun (set, _) => replacedBy clocks set
  let keysOf := fun (range : RecurrenceRange) =>
    replaced.filterMap fun entry =>
      entry.bind fun (key, reach) => if reach = range then some key else none
  let single := keysOf .thisInstance
  let future := keysOf .thisAndFuture
  event.mapM fun (set, ordinal) => do
    let stream ← set.occurrencesAt clocks window ordinal
    match ← replacedBy clocks set with
    | none => return { stream with replaced := single, cutoff := TimelineKey.least? future }
    | some (own, .thisAndFuture) =>
      let later := future.filter (own < ·)
      return { stream with replaced := single, cutoff := TimelineKey.least? later }
    | some (_, .thisInstance) => return stream

/-- The occurrences of one event in a window; an unknown UID has none. -/
def occurrencesOf (clocks : Clocks) (index : RecurrenceIndex) (uid : String) (window : Window) :
    Except Failure MergedOccurrences :=
  (streams clocks window (index.event uid)).map .ofStreams

/-- The occurrences of all events in a window. -/
def occurrences (clocks : Clocks) (index : RecurrenceIndex) (window : Window) :
    Except Failure MergedOccurrences := do
  let events ← index.uids.mapM fun uid => streams clocks window (index.event uid)
  return .ofStreams events.flatten

end RecurrenceIndex
end Recurrence
