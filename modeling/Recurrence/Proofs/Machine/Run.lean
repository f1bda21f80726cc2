import Mathlib
import Recurrence.Proofs.Machine.Steps
import Recurrence.Proofs.Rule.Loop
import Recurrence.Zone.Atlas
import Recurrence.Zone.Resolver

/-! Runs on machine numbers. Whatever a run has come through, its step is at most the limit
of steps, the first step missed lies in the calendar and before it, and no more instances
are counted than the pattern says. Such a state is safe: no operation of a step or of a
resumption fails there, and what it comes to is safe again. -/
namespace Recurrence
open Calendar

namespace Machine

section Functions

variable (plan : Plan)

/-- Whether the steps since the last candidate cover enough days to prove that none
follows. -/
def hasSpanned (cursor : Cursor) : Except Fault Bool := do
  let cycles := if plan.frequency.isSubDaily then 1 else plan.interval
  match cursor.emptySince, ← start plan cursor.step with
  | some since, some now =>
    let seconds ← elapsed since now
    return min (gregorianCycle * cycles) 9223372036854775807 ≤ wholeDays seconds
  | _, _ => return false

def givesUp (cursor : Cursor) : Except Fault Bool := do
  let counted := decide (plan.emptyLimit.toNat ≤ cursor.emptySteps)
  let spanned ← hasSpanned plan cursor
  return if plan.frequency.isSubDaily then counted || spanned else counted && spanned

/-- The cursor past an empty step. -/
def missed (cursor : Cursor) (counted : Bool) (next : Nat) : Except Fault Cursor := do
  let here ← match cursor.emptySince with
    | some since => pure (some since)
    | none => start plan cursor.step
  return { cursor with
    step := next
    emptySince := here
    emptySteps := if counted then min (cursor.emptySteps + 1) highestCount
      else cursor.emptySteps }

/-- The number of instances after one more. Only a rule with a COUNT counts them, by a
plain operation, and none beyond it. -/
def emittedAfter (emitted : Nat) : Except Fault Nat :=
  match plan.pattern.count? with
  | none => .ok emitted
  | some count =>
    if count.toNat ≤ emitted then .ok emitted
    else if emitted + 1 ≤ highestCount then .ok (emitted + 1)
    else .error .overflow

/-- Judges the candidates of a step in turn, up to one that ends the loop. -/
def accept (loop : Run.Loop) : List Int → Except Fault Run.Loop
  | [] => .ok loop
  | wall :: walls =>
    match plan.judge loop.cursor.emitted loop.cursor.latest wall with
    | .pass => accept loop walls
    | .stop => do
      -- An instance past the horizon is counted before it ends the loop.
      let _ ← emittedAfter plan loop.cursor.emitted
      return Plan.finish loop none
    | .fail error => .ok (Plan.finish loop (some error))
    | .found found shown last => do
      let emitted ← emittedAfter plan loop.cursor.emitted
      let cursor := { loop.cursor with emitted, latest := some found.key }
      let next := { loop with
        cursor, ready := if shown then loop.ready ++ [found] else loop.ready }
      if last then return Plan.finish next none else accept next walls

/-- Takes a step, or gives up. -/
def advance (loop : Run.Loop) : Except Fault Run.Loop := do
  if ← givesUp plan loop.cursor then
    return Plan.finish loop (some (.evaluation (.emptySteps plan.emptyLimit)))
  else
    match ← evaluate plan loop.cursor.step with
    | .exhausted => return Plan.finish loop none
    | .skip next => return { loop with cursor := ← missed plan loop.cursor true next }
    | .skipDay next => return { loop with cursor := ← missed plan loop.cursor false next }
    | .candidates [] =>
      return { loop with
        cursor := ← missed plan loop.cursor true (stepAfter loop.cursor.step) }
    | .candidates walls =>
      accept plan { loop with cursor := { loop.cursor with
        step := stepAfter loop.cursor.step, emptySteps := 0, emptySince := none } } walls

/-- The cursor of a run that hides instances before an instant. -/
def resumed (cursor : Cursor) (instant : Int) : Except Fault Cursor :=
  if plan.pattern.count?.isSome then .ok cursor
  else
    match move? instant (-secondsPerDay) with
    | none => .ok cursor
    | some target => do
      return { cursor with step := max cursor.step (← stepContaining plan target) }

/-- The number of instances that is kept, which is none without a COUNT. -/
def counted (emitted : Nat) : Nat := if plan.pattern.count?.isSome then emitted else 0

/-- The cursor as machine numbers keep it, with empty steps up to the highest number. -/
def kept (cursor : Cursor) : Cursor :=
  { cursor with
    emitted := counted plan cursor.emitted
    emptySteps := min cursor.emptySteps highestCount }

def keptLoop (loop : Run.Loop) : Run.Loop := { loop with cursor := kept plan loop.cursor }

end Functions

/-- Whether no operation fails at a cursor. -/
structure IsSafe (plan : Plan) (cursor : Cursor) : Prop where
  step_le : cursor.step ≤ stepLimit
  since_mem : ∀ since ∈ cursor.emptySince, Representable since
  behind : plan.Behind cursor
  emitted_le : ∀ count ∈ plan.pattern.count?, cursor.emitted ≤ count.toNat

variable {plan : Plan} {cursor : Cursor} {loop : Run.Loop}

section Counts

variable {emitted : Nat} {latest : Option TimelineKey} {wall : Int}

theorem counted_le (h : ∀ count ∈ plan.pattern.count?, emitted ≤ count.toNat) :
    counted plan emitted ≤ highestCount := by
  unfold counted
  cases hc : plan.pattern.count? with
  | none => exact Nat.zero_le _
  | some count => exact (h count hc).trans (Nat.lt_succ_iff.1 count.toNat_lt)

/-- The count never fails, since it stops at a number that fits. -/
theorem exists_emittedAfter (plan : Plan) (emitted : Nat) :
    ∃ next, emittedAfter plan emitted = .ok next := by
  unfold emittedAfter
  cases plan.pattern.count? with
  | none => exact ⟨_, rfl⟩
  | some count =>
    have hcount := count.toNat_lt
    dsimp only
    split
    · exact ⟨_, rfl⟩
    · rw [if_pos (by unfold highestCount; omega)]
      exact ⟨_, rfl⟩

theorem emittedAfter_eq (h : ∀ count ∈ plan.pattern.count?, emitted < count.toNat) :
    emittedAfter plan (counted plan emitted) = .ok (counted plan (emitted + 1)) := by
  unfold emittedAfter counted
  cases hc : plan.pattern.count? with
  | none => rfl
  | some count =>
    have hlt := h count hc
    have hcount := count.toNat_lt
    simp only [Option.isSome_some, if_true]
    rw [if_neg (not_le.2 hlt), if_pos (by unfold highestCount; omega)]

/-- Only a rule with a COUNT looks at the number of its instances. -/
theorem judge_counted :
    plan.judge (counted plan emitted) latest wall = plan.judge emitted latest wall := by
  unfold counted
  cases hc : plan.pattern.count? with
  | none =>
    unfold Plan.judge
    simp only [hc]
  | some count => rfl

end Counts

theorem accept_eq (loop : Run.Loop) (walls : List Int) :
    accept plan (keptLoop plan loop) walls = .ok (keptLoop plan (plan.accept loop walls)) := by
  induction walls generalizing loop with
  | nil => rfl
  | cons wall walls ih =>
    unfold accept Plan.accept
    -- A rule without a count looks at no number of instances, so that none is kept.
    have hjudge : plan.judge (keptLoop plan loop).cursor.emitted (keptLoop plan loop).cursor.latest
        wall = plan.judge loop.cursor.emitted loop.cursor.latest wall := judge_counted
    rw [hjudge]
    cases hj : plan.judge loop.cursor.emitted loop.cursor.latest wall with
    | pass => exact ih loop
    | stop =>
      obtain ⟨next, hnext⟩ := exists_emittedAfter plan (keptLoop plan loop).cursor.emitted
      dsimp only
      rw [hnext]
      rfl
    | fail error => rfl
    | found found shown last =>
      have hafter : emittedAfter plan (keptLoop plan loop).cursor.emitted =
          .ok (counted plan (loop.cursor.emitted + 1)) := emittedAfter_eq (Plan.count_of_judge_found hj).1
      dsimp only
      rw [hafter, ok_bind]
      cases last with
      | true => rfl
      | false => exact ih { loop with
          cursor := { loop.cursor with
            emitted := loop.cursor.emitted + 1, latest := some found.key }
          ready := if shown then loop.ready ++ [found] else loop.ready }

section Canonical

variable (hC : plan.Canonical)
include hC

theorem hasSpanned_eq (h : IsSafe plan cursor) :
    hasSpanned plan (kept plan cursor) = .ok (plan.hasSpanned cursor) := by
  have hlt := interval_lt plan
  unfold hasSpanned Plan.hasSpanned
  simp only [kept, start_eq hC, ok_bind]
  cases hs : cursor.emptySince with
  | none => rfl
  | some since =>
    cases hn : plan.stepStart? cursor.step with
    | none => rfl
    | some now =>
      rw [Plan.stepStart?_eq, Option.ite_none_right_eq_some] at hn
      obtain ⟨hnow, heq⟩ := hn
      obtain rfl := Option.some.inj heq
      have hbehind := h.behind since hs
      -- A cycle for each of the highest interval still fits 64 bits.
      have hcycles : gregorianCycle * (if plan.frequency.isSubDaily then 1 else plan.interval) ≤
          9223372036854775807 := by
        unfold gregorianCycle
        split <;> omega
      dsimp only
      rw [elapsed_eq (h.since_mem since hs) hnow, ok_bind, wholeDays_eq (sub_nonneg.2 hbehind),
        min_eq_left hcycles, Nat.cast_mul]
      rfl

theorem givesUp_eq (h : IsSafe plan cursor) :
    givesUp plan (kept plan cursor) = .ok (plan.givesUp cursor) := by
  -- The limit fits 32 bits, so it does not matter that empty steps beyond are not counted.
  have hcounted : plan.emptyLimit.toNat ≤ (kept plan cursor).emptySteps ↔
      plan.emptyLimit.toNat ≤ cursor.emptySteps := by
    have hlimit := plan.emptyLimit.toNat_lt
    simp only [kept, highestCount]
    omega
  unfold givesUp Plan.givesUp
  rw [hasSpanned_eq hC h, ok_bind]
  simp only [hcounted]
  split <;> rfl

theorem missed_eq (cursor : Cursor) (counted : Bool) (next : Nat) :
    missed plan (kept plan cursor) counted next =
      .ok (kept plan (plan.missed cursor counted next)) := by
  have hcount : (if counted then min (min cursor.emptySteps highestCount + 1) highestCount
      else min cursor.emptySteps highestCount) =
        min (if counted then cursor.emptySteps + 1 else cursor.emptySteps) highestCount := by
    cases counted with
    | true => simp only [if_true]; omega
    | false => simp only [Bool.false_eq_true, if_false]
  unfold missed
  simp only [kept, start_eq hC, Plan.missed, hcount]
  cases cursor.emptySince <;> rfl

theorem advance_eq (h : IsSafe plan loop.cursor) :
    advance plan (keptLoop plan loop) = .ok (keptLoop plan (plan.advance loop)) := by
  unfold advance Plan.advance
  rw [show (keptLoop plan loop).cursor = kept plan loop.cursor from rfl, givesUp_eq hC h, ok_bind]
  split
  · rfl
  · rw [show (kept plan loop.cursor).step = loop.cursor.step from rfl, evaluate_eq hC h.step_le,
      ok_bind]
    cases plan.evaluate loop.cursor.step with
    | exhausted => rfl
    | skip next =>
      dsimp only
      rw [missed_eq hC]
      rfl
    | skipDay next =>
      dsimp only
      rw [missed_eq hC]
      rfl
    | candidates walls =>
      cases walls with
      | nil =>
        dsimp only
        rw [stepAfter_eq h.step_le, missed_eq hC]
        rfl
      | cons wall walls =>
        dsimp only
        rw [stepAfter_eq h.step_le]
        exact accept_eq { loop with cursor := { loop.cursor with
          step := loop.cursor.step + 1, emptySteps := 0, emptySince := none } } (wall :: walls)

theorem resumed_eq (cursor : Cursor) (instant : Int) :
    resumed plan (kept plan cursor) instant =
      .ok (kept plan (Run.resumingFrom ⟨plan, cursor⟩ instant).cursor) := by
  unfold resumed Run.resumingFrom
  dsimp only
  split
  · rfl
  · cases htarget : move? instant (-secondsPerDay) with
    | none => rfl
    | some target =>
      dsimp only
      rw [stepContaining_eq hC (move?_eq_some_iff.1 htarget).2]
      rfl

omit hC in
theorem isSafe_before_zero (plan : Plan) : IsSafe plan (.before 0) :=
  ⟨Nat.zero_le _, fun _ h => (nomatch h), plan.behind_before 0, fun _ _ => Nat.zero_le _⟩

omit hC in
theorem IsSafe.withLimits (h : IsSafe plan cursor) (emptyLimit : UInt32)
    (resume horizon : Option Int) : IsSafe { plan with emptyLimit, resume, horizon } cursor :=
  ⟨h.step_le, h.since_mem, h.behind, h.emitted_le⟩

theorem IsSafe.missed (h : IsSafe plan cursor) {counted : Bool} {next : Nat}
    (hm : plan.missesTo? cursor.step = some (counted, next)) :
    IsSafe plan (plan.missed cursor counted next) where
  step_le := hC.next_le hm
  since_mem since hs := by
    rcases Plan.mem_emptySince_missed.1 hs with hs | ⟨-, hr, rfl⟩
    · exact h.since_mem since hs
    · exact hr
  behind := h.behind.missed (Plan.lt_of_missesTo? hm)
  emitted_le := h.emitted_le

omit hC in
theorem IsSafe.accept (h : IsSafe plan loop.cursor) (walls : List Int) :
    IsSafe plan (plan.accept loop walls).cursor := by
  induction walls generalizing loop with
  | nil => exact h
  | cons wall walls ih =>
    unfold Plan.accept
    cases hj : plan.judge loop.cursor.emitted loop.cursor.latest wall with
    | pass => exact ih h
    | stop => exact h
    | fail error => exact h
    | found found shown last =>
      have hfound : IsSafe plan { loop.cursor with
          emitted := loop.cursor.emitted + 1, latest := some found.key } :=
        ⟨h.step_le, h.since_mem, h.behind, (Plan.count_of_judge_found hj).1⟩
      cases last with
      | true => exact hfound
      | false => exact ih hfound

theorem IsSafe.advance (h : IsSafe plan loop.cursor) :
    IsSafe plan (plan.advance loop).cursor := by
  rw [Plan.advance_eq]
  split
  · exact h
  · cases hm : plan.missesTo? loop.cursor.step with
    | some miss => exact h.missed hC hm
    | none =>
      dsimp only
      split
      · exact h
      · next he =>
        have hyielded : IsSafe plan { loop.cursor with
            step := loop.cursor.step + 1, emptySteps := 0, emptySince := none } :=
          ⟨hC.lt_stepLimit he, fun _ h => (nomatch h), fun _ h => (nomatch h), h.emitted_le⟩
        exact IsSafe.accept hyielded _

theorem IsSafe.resumingFrom (h : IsSafe plan cursor) (instant : Int) :
    IsSafe plan (Run.resumingFrom ⟨plan, cursor⟩ instant).cursor := by
  unfold Run.resumingFrom
  dsimp only
  split
  · exact h
  · cases htarget : move? instant (-secondsPerDay) with
    | none => exact h
    | some target =>
      have hle := hC.stepContaining_le (move?_eq_some_iff.1 htarget).2
      refine ⟨max_le h.step_le hle, h.since_mem, fun since hs => ?_, h.emitted_le⟩
      exact (h.behind since hs).trans (Plan.stepStart_le_iff.2 (le_max_left _ _))

end Canonical

end Machine

namespace Run.Loop

section Reached

variable (clocks : Clocks) (pattern : Pattern) (anchor : DateTime)

/-- The states that a run of a pattern comes to. Calls take steps until there is something
to answer with, and at any time the limits may be set anew. -/
inductive Reached : Plan → Loop → Prop
  | start {run : Run} (hstart : Run.start clocks pattern anchor = .ok run) :
      Reached run.plan run.loop
  | withEmptyLimit {plan : Plan} {loop : Loop} (h : Reached plan loop) (limit : UInt32) :
      Reached (Run.withEmptyLimit ⟨plan, loop.cursor⟩ limit).plan loop
  | resumingFrom {plan : Plan} {loop : Loop} (h : Reached plan loop) (instant : Int) :
      Reached (Run.resumingFrom ⟨plan, loop.cursor⟩ instant).plan
        { loop with cursor := (Run.resumingFrom ⟨plan, loop.cursor⟩ instant).cursor }
  | withHorizon {plan : Plan} {loop : Loop} (h : Reached plan loop) (instant : Int) :
      Reached (Run.withHorizon ⟨plan, loop.cursor⟩ instant).plan loop
  | advanced {plan : Plan} {loop : Loop} (h : Reached plan loop) (hready : loop.ready = [])
      (hfailure : loop.failure = none) (hfinished : loop.finished = false) :
      Reached plan (plan.advance loop)
  | answered {plan : Plan} {loop : Loop} {found : Instance} {rest : List Instance}
      (h : Reached plan loop) (hready : loop.ready = found :: rest) :
      Reached plan { loop with ready := rest }
  | failed {plan : Plan} {loop : Loop} {error : Failure} (h : Reached plan loop)
      (hready : loop.ready = []) (hfailure : loop.failure = some error) :
      Reached plan { loop with failure := none }

end Reached

variable {clocks : Clocks} {pattern : Pattern} {anchor : DateTime} {plan : Plan} {loop : Loop}

theorem Reached.answers {next : Loop} {steps : Nat} {answer : Option Item}
    (hanswers : plan.Answers loop steps answer next) (h : Reached clocks pattern anchor plan loop) :
    Reached clocks pattern anchor plan next := by
  induction hanswers with
  | ready hr => exact h.answered hr
  | failed hr hf => exact h.failed hr hf
  | ended hr hf he => exact h
  | advanced hr hf he rest ih => exact ih (h.advanced hr hf he)

theorem Reached.calls {last : Loop} {answers : List (Option Item)}
    (hcalls : plan.Calls loop answers last) (h : Reached clocks pattern anchor plan loop) :
    Reached clocks pattern anchor plan last := by
  induction hcalls with
  | none => exact h
  | call first rest ih => exact ih (h.answers first)

theorem Reached.isSafe (h : Reached clocks pattern anchor plan loop) (hA : anchor.InCalendar) :
    plan.Canonical ∧ Machine.IsSafe plan loop.cursor := by
  -- Limits do not matter to safety, and each move keeps it.
  induction h with
  | start hstart =>
    obtain ⟨hcursor, hopens⟩ := Run.opens hstart
    refine ⟨hopens.canonical hA, ?_⟩
    rw [Run.loop, hcursor]
    exact Machine.isSafe_before_zero _
  | @withEmptyLimit plan loop h limit ih =>
    exact ⟨ih.1.withLimits limit plan.resume plan.horizon,
      ih.2.withLimits limit plan.resume plan.horizon⟩
  | @resumingFrom plan loop h instant ih =>
    rw [plan_resumingFrom]
    exact ⟨ih.1.withLimits plan.emptyLimit (some instant) plan.horizon,
      (ih.2.resumingFrom ih.1 instant).withLimits plan.emptyLimit (some instant) plan.horizon⟩
  | @withHorizon plan loop h instant ih =>
    exact ⟨ih.1.withLimits plan.emptyLimit plan.resume (some instant),
      ih.2.withLimits plan.emptyLimit plan.resume (some instant)⟩
  | advanced h hready hfailure hfinished ih => exact ⟨ih.1, ih.2.advance ih.1⟩
  | answered h hready ih => exact ih
  | failed h hready hfailure ih => exact ih

end Run.Loop

namespace Machine
open Run (Loop)

/-- Whether machine numbers follow a run on from a state. -/
structure Follows (plan : Plan) (loop : Loop) : Prop where
  /-- No operation of a step fails, and the step comes to what it comes to without bounds. -/
  advance_eq : advance plan (keptLoop plan loop) = .ok (keptLoop plan (plan.advance loop))
  /-- So it is for a resumption. -/
  resumed_eq : ∀ instant, resumed plan (kept plan loop.cursor) instant =
    .ok (kept plan (Run.resumingFrom ⟨plan, loop.cursor⟩ instant).cursor)
  /-- The highest step is not reached, so that another follows. -/
  step_lt : loop.cursor.step < highestStep
  stepAfter_eq : stepAfter loop.cursor.step = loop.cursor.step + 1
  emitted_le : (kept plan loop.cursor).emitted ≤ highestCount

/-- Machine numbers follow a run through all the states it comes to, from any anchor in the
calendar: no plain operation of 64 bits overflows or divides by zero, the count of
instances fits 32 bits, and steps go on. -/
theorem follows_reached {clocks : Clocks} {pattern : Pattern} {anchor : DateTime} {plan : Plan}
    {loop : Loop} (hA : anchor.InCalendar) (h : Loop.Reached clocks pattern anchor plan loop) :
    Follows plan loop := by
  obtain ⟨hC, hsafe⟩ := h.isSafe hA
  exact ⟨advance_eq hC hsafe, resumed_eq hC loop.cursor, hsafe.step_le.trans_lt stepLimit_lt,
    stepAfter_eq hsafe.step_le, counted_le hsafe.emitted_le⟩

/-- The noons among hours that are the highest interval apart. -/
def rareNoons : Pattern :=
  { Pattern.ofFrequency .hourly with
    interval := 4294967295
    lists := { ByLists.empty with hours := [12] }
    interval_pos := by decide
    inRange := by constructor <;> simp [ByLists.empty]
    fits := by constructor <;> simp [ByLists.empty] }

/-- From the first second of the calendar this rule has two steps, and a resumption in the
last one goes to the second. -/
theorem follows_reached_rareNoons : ∃ plan loop,
    Loop.Reached (Resolver.empty Zone.Atlas.database).clocks rareNoons (.time firstSecond .utc)
      plan loop ∧
    plan.stepSeconds 3600 = 15461882262000 ∧ loop.cursor.step = 1 ∧ Follows plan loop := by
  have hreached := (Loop.Reached.start
    (show Run.start (Resolver.empty Zone.Atlas.database).clocks rareNoons
      (.time firstSecond .utc) = .ok _ from rfl)).resumingFrom lastSecond
  exact ⟨_, _, hreached, by decide, by decide, follows_reached (by decide) hreached⟩

end Machine
end Recurrence
