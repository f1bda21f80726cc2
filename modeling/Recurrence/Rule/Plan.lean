import Recurrence.DateTime.Timeline
import Recurrence.Rule.DayFilter
import Recurrence.Settings
/-!
The steps of a rule. A plan joins a pattern with its anchor; step `k` is the unit that lies `k`
intervals after the anchor's, and `evaluate` gives its candidates as wall clock readings. Steps of
an hour or less that miss are followed by a jump to the next boundary that can matter.
-/
namespace Recurrence
open Calendar

/-- The last moment of a rule on the timeline: a local day, or an instant. -/
inductive Bound where
  | day (last : Int)
  | instant (last : Int)
deriving DecidableEq

structure Plan where
  pattern : Pattern
  anchor : DateTime
  /-- The clock of a zoned anchor. -/
  clock : Option Clock
  bound : Option Bound
  filter : DayFilter
  hours : List Nat
  minutes : List Nat
  seconds : List Nat
  /-- The times of day of a step of days, ascending. -/
  times : List Nat
  emptyLimit : UInt32
  /-- The instant before which instances stay hidden. -/
  resume : Option Int
  /-- The instant after which instances end the run. -/
  horizon : Option Int

/-- What a step comes to. -/
inductive Step where
  /-- The readings it yields, ascending. -/
  | candidates (walls : List Int)
  /-- It misses by its time, and evaluation goes on at a later step. -/
  | skip (next : Nat)
  /-- It misses by its day, and evaluation goes on at a later step. -/
  | skipDay (next : Nat)
  /-- No step from here on yields anything. -/
  | exhausted
deriving DecidableEq

namespace Plan

/-- The steps tolerated without a candidate unless said otherwise. -/
def defaultEmptyLimit : UInt32 := defaultMaxEmptySteps

/-- The values of a list in ascending order without repetitions. -/
def ascending (values : List Nat) : List Nat := values.eraseDups.mergeSort

/-- A list, or one value where it is empty. -/
def orElse (values : List Nat) (value : Nat) : List Nat :=
  if values.isEmpty then [value] else values

/-- Every time of day made of an hour, a minute and a second from three ascending lists. -/
def timeGrid (hours minutes seconds : List Nat) : List Nat :=
  hours.flatMap fun h => minutes.flatMap fun m => seconds.map fun s => timeOfDay h m s

/-- The last moment of a pattern on the timeline. A floating moment is read on the anchor's clock;
one with a time does not go with a DATE. -/
def boundOf (clocks : Clocks) (clock : Option Clock) (anchor : DateTime) :
    Option Until → Except Failure (Option Bound)
  | none => .ok none
  | some (.date last) => .ok (some (.day last))
  | some (.dateTime last) =>
    if !anchor.hasTime then .error (.evaluation (.timedUntilOnDate last))
    else orZone do
      let key ←
        if last.isFloating then (DateTime.time last.wall anchor.form).keyBy clock
        else last.key clocks
      return some (.instant key.instant)

/-- The plan of a pattern and its anchor, whose zone is looked up once. -/
def of (clocks : Clocks) (pattern : Pattern) (anchor : DateTime) : Except Failure Plan := do
  if pattern.frequency.isSubDaily && !anchor.hasTime then
    throw (.evaluation (.subDailyFromDate pattern.frequency))
  let clock ← orZone (anchor.clock? clocks)
  let bound ← boundOf clocks clock anchor pattern.until?
  let hours := ascending pattern.lists.hours
  let minutes := ascending pattern.lists.minutes
  let seconds := ascending pattern.lists.seconds
  let wall := anchor.wall
  return {
    pattern, anchor, clock, bound, hours, minutes, seconds
    filter := .ofPattern pattern anchor.day
    times :=
      if anchor.hasTime then
        timeGrid (orElse hours (hourOf wall)) (orElse minutes (minuteOf wall))
          (orElse seconds (secondOf wall))
      else [0]
    emptyLimit := defaultEmptyLimit
    resume := none
    horizon := none }

def frequency (plan : Plan) : Frequency := plan.pattern.frequency

def interval (plan : Plan) : Nat := plan.pattern.interval.toNat

/-- The first day of the anchor's week, or the anchor's day where the calendar starts later. -/
def firstWeek (plan : Plan) : Int :=
  let start := weekStart plan.pattern.weekStart plan.anchor.day
  if InCalendar start then start else plan.anchor.day

/-- The months from year 0 to a date. -/
def monthIndex (date : Date) : Int := date.year * 12 + date.month - 1

/-- The first day and the length of a step of days, while it begins in the calendar. -/
def span? (plan : Plan) (step : Nat) : Option (Int × Nat) :=
  let units : Int := step * plan.interval
  let date := dateOf plan.anchor.day
  match plan.frequency with
  | .yearly =>
    let year := date.year + units
    if firstYear ≤ year ∧ year ≤ lastYear then some (yearStart year, (yearLength year).toNat)
    else none
  | .monthly =>
    let index := monthIndex date + units
    let year := index / 12
    let month := (index % 12).toNat + 1
    if firstYear ≤ year ∧ year ≤ lastYear then
      some (yearStart year + daysBefore year month, monthLength year month)
    else none
  | .weekly =>
    let start := plan.firstWeek + units * 7
    if InCalendar start then some (start, 7) else none
  | .daily =>
    let start := plan.anchor.day + units
    if InCalendar start then some (start, 1) else none
  | .hourly | .minutely | .secondly => none

/-- The days of a span, of which the last day of the calendar is never one. -/
def daysOf (start : Int) (length : Nat) : List Int :=
  ((List.range length).map fun (i : Nat) => start + (i : Int)).filter (· < lastDay)

/-- The anchor cut down to its hour, minute or second. -/
def base (plan : Plan) (unit : Nat) : Int := plan.anchor.wall - plan.anchor.wall % unit

/-- The seconds from one step of a unit to the next. -/
def stepSeconds (plan : Plan) (unit : Nat) : Nat := plan.interval * unit

/-- The reading at which a step of a unit shorter than a day begins. -/
def unitAt? (plan : Plan) (unit step : Nat) : Option Int :=
  move? (plan.base unit) (step * plan.stepSeconds unit)

/-- The reading at which a step begins. -/
def stepStart? (plan : Plan) (step : Nat) : Option Int :=
  match plan.frequency.unitSeconds? with
  | some unit => plan.unitAt? unit step
  | none => (plan.span? step).map fun (start, _) => midnight start

/-- The reading after which no step can yield an instance. Wall clock and timeline differ by less
than a day, and a last day ends at midnight. -/
def stopAfter? (plan : Plan) : Option Int :=
  let last := plan.bound.bind fun bound =>
    match bound with
    | .day day => (moveDay? day 2).map midnight
    | .instant instant => move? instant secondsPerDay
  let horizon := plan.horizon.bind fun instant => move? instant secondsPerDay
  match last, horizon with
  | some last, some horizon => some (min last horizon)
  | some last, none => some last
  | none, horizon => horizon

def isPastStop (plan : Plan) (start : Int) : Bool :=
  match plan.stopAfter? with
  | some stop => stop < start
  | none => false

/-- The candidates at the listed positions, counted from the first or from the last. -/
def select (positions : List Int) (candidates : List Int) : List Int :=
  if positions.isEmpty then candidates
  else
    let length : Int := candidates.length
    (candidates.zipIdx.filter fun (_, i) =>
      positions.contains (i + 1 : Int) || positions.contains (i - length : Int)).map (·.1)

/-- The step of days: every time on every day of its span that passes the filter. -/
def evaluateDays (plan : Plan) (step : Nat) : Step :=
  match plan.span? step with
  | none => .exhausted
  | some (start, length) =>
    if plan.isPastStop (midnight start) then .exhausted
    else
      let days := (daysOf start length).filter plan.filter.accepts
      .candidates <| select plan.pattern.lists.positions <|
        days.flatMap fun day => plan.times.map fun (time : Nat) => midnight day + (time : Int)

/-- The first step that does not begin before a reading, and after the step at hand. -/
def stepAt (plan : Plan) (unit step : Nat) (target : Int) : Nat :=
  let length : Int := plan.stepSeconds unit
  max ((target - plan.base unit + length - 1) / length).toNat (step + 1)

/-- A jump to a reading, or the end where that leaves the calendar. -/
def jump (plan : Plan) (unit step : Nat) (target : Int) (kind : Nat → Step) : Step :=
  if Representable target then kind (plan.stepAt unit step target) else .exhausted

/-- The times of a step of a unit shorter than a day that begins at some time of day: lists of
finer fields multiply it. -/
def unitTimes (plan : Plan) (wall : Int) : List Nat :=
  let seconds := orElse plan.seconds (secondOf plan.anchor.wall)
  match plan.frequency with
  | .hourly =>
    timeGrid [hourOf wall] (orElse plan.minutes (minuteOf plan.anchor.wall)) seconds
  | .minutely => timeGrid [hourOf wall] [minuteOf wall] seconds
  | _ => [secondOfDay wall]

/-- The step of a unit shorter than a day: one reading, which has to pass the filter and the lists
of its own and coarser fields. -/
def evaluateUnit (plan : Plan) (unit step : Nat) : Step :=
  match plan.unitAt? unit step with
  | none => .exhausted
  | some wall =>
    if plan.isPastStop wall then .exhausted
    else
      let hourStart := wall - wall % 3600
      if !plan.filter.accepts (dayOf wall) then
        plan.jump unit step (midnight (dayOf wall + 1)) .skipDay
      else if !plan.hours.isEmpty && !plan.hours.contains (hourOf wall) then
        plan.jump unit step (hourStart + 3600) .skip
      else if plan.frequency ≠ .hourly && !plan.minutes.isEmpty &&
          !plan.minutes.contains (minuteOf wall) then
        plan.jump unit step (hourStart + (minuteOf wall + 1) * 60) .skip
      else if plan.frequency = .secondly && !plan.seconds.isEmpty &&
          !plan.seconds.contains (secondOf wall) then
        .candidates []
      else
        .candidates <| select plan.pattern.lists.positions <|
          (plan.unitTimes wall).map fun (time : Nat) => midnight (dayOf wall) + (time : Int)

def evaluate (plan : Plan) (step : Nat) : Step :=
  match plan.frequency.unitSeconds? with
  | some unit => plan.evaluateUnit unit step
  | none => plan.evaluateDays step

/-- The step whose unit holds a reading, or the first one for a reading before the anchor. -/
def stepContaining (plan : Plan) (target : Int) : Nat :=
  let anchor := dateOf plan.anchor.day
  let date := dateOf (dayOf target)
  let units : Int :=
    match plan.frequency with
    | .yearly => date.year - anchor.year
    | .monthly => monthIndex date - monthIndex anchor
    | .weekly => (dayOf target - plan.firstWeek) / 7
    | .daily => dayOf target - plan.anchor.day
    | .hourly => (target - plan.base 3600) / 3600
    | .minutely => (target - plan.base 60) / 60
    | .secondly => target - plan.base 1
  (units / plan.interval).toNat

theorem lt_stepAt (plan : Plan) (unit step : Nat) (target : Int) :
    step < plan.stepAt unit step target :=
  Nat.le_max_right _ _

theorem lt_of_jump {plan : Plan} {unit step next : Nat} {target : Int} {kind : Nat → Step}
    (hkind : ∀ n, (kind n = .skip next ∨ kind n = .skipDay next) → n = next)
    (h : plan.jump unit step target kind = .skip next ∨
      plan.jump unit step target kind = .skipDay next) : step < next := by
  unfold jump at h
  split at h
  · exact hkind _ h ▸ plan.lt_stepAt unit step target
  · simp at h

theorem lt_of_evaluate {plan : Plan} {step next : Nat}
    (h : plan.evaluate step = .skip next ∨ plan.evaluate step = .skipDay next) : step < next := by
  unfold evaluate at h
  split at h
  · unfold evaluateUnit at h
    split at h
    · simp at h
    · dsimp only at h
      split at h
      · simp at h
      · split at h
        · exact lt_of_jump (by simp) h
        · split at h
          · exact lt_of_jump (by simp) h
          · split at h
            · exact lt_of_jump (by simp) h
            · split at h <;> simp at h
  · unfold evaluateDays at h
    split at h
    · simp at h
    · split at h <;> simp at h

end Plan
end Recurrence
