import Recurrence.Rule.Run
import Recurrence.Zone.Conversion
/-!
Zones described by observances, as a VTIMEZONE component gives them. Each observance puts an
offset into effect at its onsets: its first one, those listed, and those of its rule. The offset
at an instant is that of the observance with the latest onset.
-/
namespace Recurrence.Zone
open Calendar

inductive ObservanceKind where
  | standard
  | daylight
deriving DecidableEq, Inhabited

def ObservanceKind.text : ObservanceKind → String
  | standard => "STANDARD"
  | daylight => "DAYLIGHT"

structure Observance where
  kind : ObservanceKind
  /-- The first onset on the wall clock, which like all onsets is read under `offsetFrom`. -/
  start : Int
  offsetFrom : Offset
  offsetTo : Offset
  rule : Option Pattern
  /-- Further onsets on the wall clock. -/
  extra : List Int
  name : Option String

/-- An ascending list without repetitions. -/
def distinctSorted : List Int → List Int
  | a :: b :: rest => if a = b then distinctSorted (b :: rest) else a :: distinctSorted (b :: rest)
  | short => short

namespace Observance

/-- The instant of an onset. -/
def onsetAt? (o : Observance) (wall : Int) : Option Int := move? wall (-o.offsetFrom.seconds)

/-- The pattern as it runs on the wall clock before the onset: a last moment in UTC becomes the
reading at that moment. -/
def localPattern (o : Observance) (pattern : Pattern) : Pattern :=
  match pattern.until? with
  | some (.dateTime (.time wall .utc)) =>
    match move? wall o.offsetFrom.seconds with
    | some wall => pattern.withEnding (.upTo (.dateTime (.time wall .floating)))
    | none => pattern
  | _ => pattern

/-- A moment on the wall clock before the onset, or itself where that leaves the calendar. -/
def localBound (o : Observance) (moment : Moment) : Moment :=
  (moment.move? o.offsetFrom.seconds).getD moment

/-- The onsets of a rule, up to a moment and perhaps from one. A rule that cannot be evaluated
has none, and one that fails has those before the failure. -/
def ruleOnsets (clocks : Clocks) (o : Observance) (pattern : Pattern) (first : Option Moment)
    (last : Moment) : List Int :=
  match Run.start clocks (o.localPattern pattern) (.time o.start .floating) with
  | .error _ => []
  | .ok run =>
    let run := run.withHorizonMoment (o.localBound last)
    let run := match first with
      | some first => run.resumingFromMoment (o.localBound first)
      | none => run
    run.instances.filterMap fun found => o.onsetAt? found.value.wall

/-- The onsets up to a moment and perhaps from one, ascending. -/
def onsets (clocks : Clocks) (o : Observance) (first : Option Moment) (last : Moment) : List Int :=
  let listed := (o.start :: o.extra).filterMap o.onsetAt?
  let ruled := match o.rule with
    | some pattern => o.ruleOnsets clocks pattern first last
    | none => []
  let inRange := fun (instant : Int) =>
    first.all (· ≤ (instant : Moment)) && decide ((instant : Moment) ≤ last)
  distinctSorted ((listed ++ ruled).filter inRange).mergeSort

/-- How far back the latest onset is looked for before all onsets are: two years, which hold one
of any yearly rule. -/
def recentSeconds : Int := 732 * secondsPerDay

/-- The latest onset not after a moment. -/
def latestOnset? (clocks : Clocks) (o : Observance) (moment : Moment) : Option Int :=
  (o.onsets clocks (moment.move? (-recentSeconds)) moment).getLast? <|>
    (o.onsets clocks none moment).getLast?

end Observance

structure VTimezone where
  tzid : String
  observances : List Observance

namespace VTimezone

/-- The later of two onsets with their observances, the second where they agree. -/
def later (best : Option (Int × Observance)) (next : Int × Observance) :
    Option (Int × Observance) :=
  match best with
  | some best => if best.1 ≤ next.1 then some next else some best
  | none => some next

/-- The observance with the latest onset not after a moment, of equal ones the last. -/
def observanceAt? (clocks : Clocks) (zone : VTimezone) (moment : Moment) : Option Observance :=
  let onsets := zone.observances.filterMap fun o =>
    (o.latestOnset? clocks moment).map (·, o)
  (onsets.foldl later none).map (·.2)

/-- The observance that starts first, of equal ones the first. -/
def earliest? : List Observance → Option Observance
  | [] => none
  | o :: rest =>
    match earliest? rest with
    | some other => if o.start ≤ other.start then some o else some other
    | none => some o

/-- The offset at a moment. Before all onsets the offset before the earliest observance holds,
and without observances UTC does. -/
def offsetAtMoment (clocks : Clocks) (zone : VTimezone) (moment : Moment) : Offset :=
  match zone.observanceAt? clocks moment with
  | some o => o.offsetTo
  | none =>
    match earliest? zone.observances with
    | some o => o.offsetFrom
    | none => .utc

/-- The offset at an instant. -/
def offsetAt (clocks : Clocks) (zone : VTimezone) (instant : Int) : Offset :=
  zone.offsetAtMoment clocks instant

/-- All offsets of the observances, each once. -/
def offsets (zone : VTimezone) : List Offset :=
  (zone.observances.flatMap fun o => [o.offsetFrom, o.offsetTo]).eraseDups

/-- The instant of a reading. -/
def toUtc (clocks : Clocks) (zone : VTimezone) (wall : Int) : Except ZoneError Int :=
  utcOf (zone.offsetAt clocks) zone.offsets wall

/-- The reading of an instant. -/
def toLocal (clocks : Clocks) (zone : VTimezone) (instant : Int) : Int :=
  localOf (zone.offsetAt clocks) instant

/-- The transitions that onsets in order of time bring about under an offset. An onset of the
offset in effect brings about none. -/
def transitionsOf (offset : Offset) : List (Int × Observance) → List Transition
  | [] => []
  | (instant, o) :: rest =>
    if o.offsetTo = offset then transitionsOf offset rest
    else ⟨instant, offset, o.offsetTo, o.name⟩ :: transitionsOf o.offsetTo rest

/-- The transitions from `start` up to `stop`. -/
def transitions (clocks : Clocks) (zone : VTimezone) (start stop : Moment) : List Transition :=
  match stop.move? (-1) with
  | none => []
  | some last =>
    let onsets := zone.observances.flatMap fun o =>
      (o.onsets clocks (some start) last).map (·, o)
    let before := (start.move? (-1)).getD start
    transitionsOf (zone.offsetAtMoment clocks before) (onsets.mergeSort fun a b => a.1 ≤ b.1)

end VTimezone
end Recurrence.Zone
