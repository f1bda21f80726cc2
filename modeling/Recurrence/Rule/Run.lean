import Recurrence.Source
import Recurrence.Calendar.Moment
import Recurrence.Rule.Plan
/-!
The instances of a rule, one at a time. A run walks the steps of a plan and judges each candidate
in turn. `next?` gives the next instance or the one failure a run can end with, and the run that
follows; `toList` is the whole run.
-/
namespace Recurrence
open Calendar

/-- A value that a rule produces, with its place on the timeline. -/
structure Instance where
  value : DateTime
  key : TimelineKey
deriving DecidableEq, Inhabited

/-- What becomes of a candidate. -/
inductive Verdict where
  /-- It is no instance. -/
  | pass
  /-- It is an instance, though perhaps a hidden one, and perhaps the last. -/
  | found (instant : Instance) (shown last : Bool)
  /-- It lies past the end. -/
  | stop
  | fail (error : Failure)

namespace Plan

/-- The value of a candidate in the form of the anchor. A reading that a zone's clock skips moves
to the instant that the clock makes of it. -/
def instanceAt (plan : Plan) (wall : Int) : Except ZoneError Instance :=
  match plan.anchor, plan.clock with
  | .date _, _ => .ok ⟨.date (dayOf wall), ⟨midnight (dayOf wall), false⟩⟩
  | .time _ form, some clock => do
    let instant ← clock.toUtc wall
    return ⟨.time (clock.toLocal instant) form, ⟨instant, true⟩⟩
  | .time _ form, none => .ok ⟨.time wall form, ⟨wall, true⟩⟩

/-- Whether an instance lies past the last moment of the rule. -/
def isPastBound (plan : Plan) (found : Instance) : Bool :=
  match plan.bound with
  | none => false
  | some (.day last) => last < found.value.day
  | some (.instant last) => last < found.key.instant

/-- Whether an instance lies past the horizon. -/
def isPastHorizon (plan : Plan) (found : Instance) : Bool :=
  match plan.horizon with
  | none => false
  | some horizon => horizon < found.key.instant

/-- Whether an instance is not hidden. -/
def shows (plan : Plan) (found : Instance) : Bool :=
  match plan.resume with
  | none => true
  | some resume => resume ≤ found.key.instant

/-- Judges a candidate after `emitted` instances, of which the latest has key `latest`. Two
readings can fall on one instant, and only the first of them counts. -/
def judge (plan : Plan) (emitted : Nat) (latest : Option TimelineKey) (wall : Int) : Verdict :=
  if wall < plan.anchor.wall then .pass
  else
    match plan.instanceAt wall with
    | .error error => .fail (.zone error)
    | .ok found =>
      if plan.isPastBound found then .stop
      else if latest.any (found.key ≤ ·) then .pass
      else
        match plan.pattern.count? with
        | none =>
          if plan.isPastHorizon found then .stop else .found found (plan.shows found) false
        | some count =>
          if count.toNat ≤ emitted then .stop
          else if plan.isPastHorizon found then .stop
          else .found found (plan.shows found) (emitted + 1 == count.toNat)

end Plan

/-- More steps than any rule has in the calendar, whose seconds they are at the least apart. -/
def stepLimit : Nat := (lastSecond - firstSecond).toNat + 1

/-- How far a run has come. -/
structure Cursor where
  /-- The next step to evaluate. -/
  step : Nat
  /-- The candidates of the last step that have not been judged. -/
  walls : List Int
  /-- The number of instances so far. -/
  emitted : Nat
  /-- The number of steps since the last candidate that missed by their time. -/
  emptySteps : Nat
  /-- The start of the first step since the last candidate. -/
  emptySince : Option Int
  /-- The key of the latest instance. -/
  latest : Option TimelineKey

/-- What is left to do from a cursor: steps first, then candidates. -/
def Cursor.remaining (cursor : Cursor) : Nat × Nat :=
  (stepLimit - cursor.step, cursor.walls.length)

/-- Whether less is left to do from a cursor than from another. -/
def Cursor.Less (left right : Cursor) : Prop :=
  Prod.Lex (· < ·) (· < ·) left.remaining right.remaining

theorem Cursor.less_iff {left right : Cursor} :
    left.Less right ↔ stepLimit - left.step < stepLimit - right.step ∨
      stepLimit - left.step = stepLimit - right.step ∧ left.walls.length < right.walls.length := by
  simp [Less, remaining, Prod.lex_def]

theorem Cursor.Less.trans {a b c : Cursor} (hab : a.Less b) (hbc : b.Less c) : a.Less c := by
  rw [less_iff] at *
  omega

theorem Cursor.less_of_step {left right : Cursor} (hl : right.step < stepLimit)
    (h : right.step < left.step) : left.Less right := by
  rw [less_iff]
  omega

theorem Cursor.less_of_walls {left right : Cursor} {wall : Int} (hs : left.step = right.step)
    (hw : right.walls = wall :: left.walls) : left.Less right := by
  rw [less_iff, hs, hw]
  simp

structure Run where
  plan : Plan
  cursor : Cursor

/-- An instance, or why there are no more. -/
abbrev Run.Item := Except Failure Instance

/-- The days after which the calendar repeats. -/
def gregorianCycle : Nat := 146097

namespace Plan

/-- Whether the steps since the last candidate cover enough days to prove that none follows. -/
def hasSpanned (plan : Plan) (cursor : Cursor) : Bool :=
  let cycles := if plan.frequency.isSubDaily then 1 else plan.interval
  match cursor.emptySince, plan.stepStart? cursor.step with
  | some since, some now => gregorianCycle * cycles ≤ (now - since) / secondsPerDay
  | _, _ => false

/-- Whether a run gives up. A rule of days has to exceed the limit of empty steps and to cover a
cycle of the calendar per interval; for a finer rule either is enough. -/
def givesUp (plan : Plan) (cursor : Cursor) : Bool :=
  let counted := plan.emptyLimit.toNat ≤ cursor.emptySteps
  if plan.frequency.isSubDaily then counted || plan.hasSpanned cursor
  else counted && plan.hasSpanned cursor

/-- The cursor past an empty step. A step that misses by its day does not count against the
limit. -/
def missed (plan : Plan) (cursor : Cursor) (counted : Bool) (next : Nat) : Cursor :=
  { cursor with
    step := next
    emptySince := cursor.emptySince <|> plan.stepStart? cursor.step
    emptySteps := if counted then cursor.emptySteps + 1 else cursor.emptySteps }

/-- The next item from a cursor, and the cursor behind it unless that was the last. -/
def next? (plan : Plan) (cursor : Cursor) : Option (Run.Item × Option Cursor) :=
  match _ : cursor.walls with
  | wall :: walls =>
    match plan.judge cursor.emitted cursor.latest wall with
    | .pass => plan.next? { cursor with walls }
    | .stop => none
    | .fail error => some (.error error, none)
    | .found found shown last =>
      let rest : Cursor :=
        { cursor with walls, emitted := cursor.emitted + 1, latest := some found.key }
      if shown then some (.ok found, if last then none else some rest)
      else if last then none
      else plan.next? rest
  | [] =>
    if plan.givesUp cursor then some (.error (.evaluation (.emptySteps plan.emptyLimit)), none)
    else if _ : stepLimit ≤ cursor.step then none
    else
      match _ : plan.evaluate cursor.step with
      | .exhausted => none
      | .skip next => plan.next? (plan.missed cursor true next)
      | .skipDay next => plan.next? (plan.missed cursor false next)
      | .candidates [] => plan.next? (plan.missed cursor true (cursor.step + 1))
      | .candidates walls =>
        plan.next?
          { cursor with step := cursor.step + 1, walls, emptySteps := 0, emptySince := none }
termination_by cursor.remaining
decreasing_by
  · exact Cursor.less_of_walls rfl ‹_›
  · exact Cursor.less_of_walls rfl ‹_›
  · exact Cursor.less_of_step (Nat.lt_of_not_le ‹_›) (lt_of_evaluate (.inl ‹_›))
  · exact Cursor.less_of_step (Nat.lt_of_not_le ‹_›) (lt_of_evaluate (.inr ‹_›))
  · exact Cursor.less_of_step (Nat.lt_of_not_le ‹_›) (Nat.lt_succ_self _)
  · exact Cursor.less_of_step (Nat.lt_of_not_le ‹_›) (Nat.lt_succ_self _)

theorem less_of_next? {plan : Plan} {cursor rest : Cursor} {item : Run.Item}
    (h : plan.next? cursor = some (item, some rest)) : rest.Less cursor := by
  fun_induction plan.next? cursor with
  | case1 _ _ _ hw _ ih => exact (ih h).trans (Cursor.less_of_walls rfl hw)
  | case2 => simp at h
  | case3 => simp at h
  | case4 _ _ _ hw found last next _ =>
    cases last <;> simp at h
    exact h.2 ▸ Cursor.less_of_walls rfl hw
  | case5 => simp at h
  | case6 _ _ _ hw _ _ _ _ _ _ _ ih => exact (ih h).trans (Cursor.less_of_walls rfl hw)
  | case7 => simp at h
  | case8 => simp at h
  | case9 => simp at h
  | case10 _ _ _ hs _ he ih =>
    exact (ih h).trans (Cursor.less_of_step (Nat.lt_of_not_le hs) (lt_of_evaluate (.inl he)))
  | case11 _ _ _ hs _ he ih =>
    exact (ih h).trans (Cursor.less_of_step (Nat.lt_of_not_le hs) (lt_of_evaluate (.inr he)))
  | case12 _ _ _ hs _ ih =>
    exact (ih h).trans (Cursor.less_of_step (Nat.lt_of_not_le hs) (Nat.lt_succ_self _))
  | case13 _ _ _ hs _ _ _ ih =>
    exact (ih h).trans (Cursor.less_of_step (Nat.lt_of_not_le hs) (Nat.lt_succ_self _))

/-- The items from a cursor to the end. -/
def items (plan : Plan) (cursor : Cursor) : List Run.Item :=
  match _ : plan.next? cursor with
  | none => []
  | some (item, none) => [item]
  | some (item, some rest) => item :: plan.items rest
termination_by cursor.remaining
decreasing_by exact less_of_next? ‹_›

/-- Folds the instances from a cursor, up to the end or the failure of the run. -/
def fold (plan : Plan) (f : β → Instance → β) (acc : β) (cursor : Cursor) : β :=
  match _ : plan.next? cursor with
  | some (.ok found, some rest) => plan.fold f (f acc found) rest
  | some (.ok found, none) => f acc found
  | some (.error _, _) => acc
  | none => acc
termination_by cursor.remaining
decreasing_by exact less_of_next? ‹_›

end Plan

namespace Run

/-- The run of a pattern from its anchor. -/
def start (clocks : Clocks) (pattern : Pattern) (anchor : DateTime) : Except Failure Run := do
  return ⟨← Plan.of clocks pattern anchor, ⟨0, [], 0, 0, none, none⟩⟩

/-- The run with another limit of empty steps. -/
def withEmptyLimit (run : Run) (limit : UInt32) : Run :=
  { run with plan := { run.plan with emptyLimit := limit } }

/-- The run that hides instances before an instant. Without a count it begins at the step of that
instant, one day early since wall clocks and the timeline differ by less than a day; a count has
to see every step. -/
def resumingFrom (run : Run) (instant : Int) : Run :=
  let plan := { run.plan with resume := some instant }
  if plan.pattern.count?.isSome then { run with plan }
  else
    match move? instant (-secondsPerDay) with
    | none => { run with plan }
    | some target =>
      { plan, cursor := { run.cursor with
          step := max run.cursor.step (plan.stepContaining target) } }

/-- The run that ends at the first instance after an instant. -/
def withHorizon (run : Run) (instant : Int) : Run :=
  { run with plan := { run.plan with horizon := some instant } }

/-- The run that hides instances before a moment. It begins at the step of the second in which the
moment lies, and shows instances from the next whole second on. -/
def resumingFromMoment (run : Run) (moment : Moment) : Run :=
  { run.resumingFrom moment.second with
    plan := { run.plan with resume := some moment.ceiling } }

/-- The run that ends at the first instance after a moment. -/
def withHorizonMoment (run : Run) (moment : Moment) : Run := run.withHorizon moment.second

/-- The next item of a run, and the run behind it unless that was the last. -/
def next? (run : Run) : Option (Item × Option Run) :=
  (run.plan.next? run.cursor).map fun (item, rest) => (item, rest.map fun c => ⟨run.plan, c⟩)

/-- All items of a run. -/
def toList (run : Run) : List Item := run.plan.items run.cursor

/-- The instances of a run before a failure. -/
def instances (run : Run) : List Instance :=
  (run.plan.fold (fun found one => one :: found) [] run.cursor).reverse

instance : Source Run Instance where
  next? := next?
  toList := toList
  toList_eq run := by
    unfold toList
    rw [Plan.items]
    unfold next?
    split <;> simp_all

end Run
end Recurrence
