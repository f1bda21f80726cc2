import Mathlib
import Recurrence.Zone.Atlas
import Recurrence.Proofs.Rule.Between
import Recurrence.Proofs.Rule.Order

/-! A run as a loop. A call answers with an instance at hand, with a failure, or
with nothing at the end, and before that takes steps as long as it has none of
these; all candidates of a step are judged at once. No bound on steps is built in.
Calls come to answers nevertheless, and to the items of the run. -/
namespace Recurrence
open Calendar

/-- A run between two calls, or two steps of one. -/
structure Run.Loop where
  /-- How far the steps have come, without candidates left. -/
  cursor : Cursor
  /-- The instances that no call has answered with. -/
  ready : List Instance
  failure : Option Failure
  /-- Whether no step follows. -/
  finished : Bool

/-- A loop before its first call. -/
def Run.loop (run : Run) : Loop := ⟨run.cursor, [], none, false⟩

namespace Plan
open Run (Loop Item)

/-- The loop that has ended. -/
def finish (loop : Loop) (failure : Option Failure) : Loop :=
  { loop with failure, finished := true }

/-- Judges the candidates of a step in turn, up to one that ends the loop. -/
def accept (plan : Plan) (loop : Loop) : List Int → Loop
  | [] => loop
  | wall :: walls =>
    match plan.judge loop.cursor.emitted loop.cursor.latest wall with
    | .pass => plan.accept loop walls
    | .stop => finish loop none
    | .fail error => finish loop (some error)
    | .found found shown last =>
      let cursor := { loop.cursor with
        emitted := loop.cursor.emitted + 1, latest := some found.key }
      let loop := { loop with
        cursor, ready := if shown then loop.ready ++ [found] else loop.ready }
      if last then finish loop none else plan.accept loop walls

/-- Takes a step, or gives up. -/
def advance (plan : Plan) (loop : Loop) : Loop :=
  if plan.givesUp loop.cursor then
    finish loop (some (.evaluation (.emptySteps plan.emptyLimit)))
  else
    match plan.evaluate loop.cursor.step with
    | .exhausted => finish loop none
    | .skip next => { loop with cursor := plan.missed loop.cursor true next }
    | .skipDay next => { loop with cursor := plan.missed loop.cursor false next }
    | .candidates [] =>
      { loop with cursor := plan.missed loop.cursor true (loop.cursor.step + 1) }
    | .candidates walls =>
      plan.accept { loop with cursor := { loop.cursor with
        step := loop.cursor.step + 1, emptySteps := 0, emptySince := none } } walls

/-- Whether a call comes to an answer after some steps, and with which loop. -/
inductive Answers (plan : Plan) : Loop → Nat → Option Item → Loop → Prop
  | ready {loop : Loop} {found : Instance} {rest : List Instance}
      (hr : loop.ready = found :: rest) :
      Answers plan loop 0 (some (.ok found)) { loop with ready := rest }
  | failed {loop : Loop} {error : Failure} (hr : loop.ready = []) (hf : loop.failure = some error) :
      Answers plan loop 0 (some (.error error)) { loop with failure := none }
  | ended {loop : Loop} (hr : loop.ready = []) (hf : loop.failure = none)
      (he : loop.finished = true) : Answers plan loop 0 none loop
  | advanced {loop next : Loop} {steps : Nat} {answer : Option Item} (hr : loop.ready = [])
      (hf : loop.failure = none) (he : loop.finished = false)
      (rest : Answers plan (plan.advance loop) steps answer next) :
      Answers plan loop (steps + 1) answer next

/-- The answers to calls in a row, and the loop behind them. -/
inductive Calls (plan : Plan) : Loop → List (Option Item) → Loop → Prop
  | none {loop : Loop} : Calls plan loop [] loop
  | call {loop next last : Loop} {steps : Nat} {answer : Option Item}
      {answers : List (Option Item)} (first : Answers plan loop steps answer next)
      (rest : Calls plan next answers last) : Calls plan loop (answer :: answers) last

end Plan

namespace Run.Loop
open Plan

/-- Whether a failure has ended the loop, and no candidates are left over. -/
structure IsSound (loop : Loop) : Prop where
  walls_eq : loop.cursor.walls = []
  finished_of_failure : ∀ error ∈ loop.failure, loop.finished = true

/-- The items that a loop still has to answer with. -/
def items (plan : Plan) (loop : Loop) : List Item :=
  loop.ready.map .ok ++
    match loop.failure with
    | some error => [.error error]
    | none => if loop.finished then [] else plan.items loop.cursor

/-- The steps that the calendar has left for a loop. -/
def left (loop : Loop) : Nat :=
  if loop.finished then 0 else stepLimit - loop.cursor.step + 1

end Run.Loop

namespace Plan
open Run (Loop Item)

variable {plan : Plan} {loop next : Loop} {steps : Nat} {answer : Option Item}

theorem isSound_finish (hs : loop.IsSound) (failure : Option Failure) :
    (finish loop failure).IsSound :=
  ⟨hs.walls_eq, fun _ _ => rfl⟩

theorem items_finish (loop : Loop) (failure : Option Failure) :
    (finish loop failure).items plan = loop.ready.map .ok ++ (failure.map Except.error).toList := by
  cases failure <;> rfl

/-- Judging candidates at once keeps what they and later steps come to. -/
theorem accept_spec (walls : List Int) (hs : loop.IsSound) (he : loop.finished = false) :
    (plan.accept loop walls).IsSound ∧
      (plan.accept loop walls).cursor.step = loop.cursor.step ∧
      (plan.accept loop walls).items plan =
        loop.ready.map .ok ++ plan.items { loop.cursor with walls } := by
  have hf : loop.failure = none := by
    cases hfailure : loop.failure with
    | none => rfl
    | some error => simp [hs.finished_of_failure error hfailure] at he
  induction walls generalizing loop with
  | nil =>
    refine ⟨hs, rfl, ?_⟩
    obtain ⟨⟨step, walls, emitted, emptySteps, emptySince, latest⟩, ready, failure, finished⟩ := loop
    obtain rfl : walls = [] := hs.walls_eq
    obtain rfl : failure = none := hf
    obtain rfl : finished = false := he
    rfl
  | cons wall walls ih =>
    rw [accept, items_of_walls rfl]
    cases plan.judge loop.cursor.emitted loop.cursor.latest wall with
    | pass => exact ih hs he hf
    | stop => exact ⟨isSound_finish hs _, rfl, items_finish _ _⟩
    | fail error => exact ⟨isSound_finish hs _, rfl, items_finish _ _⟩
    | found found shown last =>
      have hs' : Loop.IsSound { loop with
          cursor := { loop.cursor with
            emitted := loop.cursor.emitted + 1, latest := some found.key }
          ready := if shown then loop.ready ++ [found] else loop.ready } :=
        ⟨hs.walls_eq, hs.finished_of_failure⟩
      cases last with
      | true =>
        refine ⟨isSound_finish hs' _, rfl, (items_finish _ _).trans ?_⟩
        cases shown <;> simp
      | false =>
        obtain ⟨hsound, hstep, hitems⟩ := ih hs' he hf
        refine ⟨hsound, hstep, hitems.trans ?_⟩
        cases shown <;> simp

theorem advance_eq (plan : Plan) (loop : Loop) : plan.advance loop =
    if plan.givesUp loop.cursor then
      finish loop (some (.evaluation (.emptySteps plan.emptyLimit)))
    else
      match plan.missesTo? loop.cursor.step with
      | some (counted, next) => { loop with cursor := plan.missed loop.cursor counted next }
      | none =>
        if plan.evaluate loop.cursor.step = .exhausted then finish loop none
        else plan.accept { loop with cursor := { loop.cursor with
          step := loop.cursor.step + 1, emptySteps := 0, emptySince := none } }
            (plan.yields loop.cursor.step) := by
  unfold advance missesTo? yields
  cases plan.evaluate loop.cursor.step with
  | exhausted => simp
  | skip next => rfl
  | skipDay next => rfl
  | candidates walls => cases walls <;> simp

theorem left_pos (he : loop.finished = false) : 0 < loop.left := by
  simp [Loop.left, he]

theorem left_lt {later : Loop} (he : loop.finished = false) (hstep : loop.cursor.step < stepLimit)
    (hlt : loop.cursor.step < later.cursor.step) : later.left < loop.left := by
  unfold Loop.left
  rw [if_neg (ne_true_of_eq_false he)]
  split <;> omega

/-- A step keeps what a loop still has to answer with, and uses up the calendar. -/
theorem Canonical.advance_spec (hC : plan.Canonical) (hs : loop.IsSound) (hr : loop.ready = [])
    (hf : loop.failure = none) (he : loop.finished = false) :
    (plan.advance loop).IsSound ∧ (plan.advance loop).items plan = loop.items plan ∧
      (plan.advance loop).left < loop.left := by
  have hloop : loop.items plan = plan.items loop.cursor := by
    simp [Loop.items, hr, hf, he]
  rw [hloop, advance_eq, items_of_no_walls hs.walls_eq]
  by_cases hg : plan.givesUp loop.cursor = true
  · rw [if_pos hg, if_pos hg]
    exact ⟨isSound_finish hs _, by simp [items_finish, hr], left_pos he⟩
  rw [if_neg hg, if_neg hg]
  -- Behind the last step nothing is left; other steps leave less of the calendar.
  by_cases hexhausted : plan.evaluate loop.cursor.step = .exhausted
  · simp only [missesTo?_of_exhausted hexhausted, hexhausted, if_true, ite_self]
    exact ⟨isSound_finish hs _, by simp [items_finish, hr], left_pos he⟩
  have hstep := hC.lt_stepLimit hexhausted
  rw [if_neg (not_le.2 hstep)]
  rcases plan.evaluate_outcome loop.cursor.step with h | ⟨counted, next, hm⟩ | hy
  · exact absurd h hexhausted
  · simp only [hm]
    exact ⟨⟨hs.walls_eq, hs.finished_of_failure⟩, by simp [Loop.items, hr, hf, he],
      left_lt he hstep (lt_of_missesTo? hm)⟩
  · simp only [missesTo?_of_yields hy, if_neg hexhausted]
    have hbehind : Loop.IsSound { loop with cursor := { loop.cursor with
        step := loop.cursor.step + 1, emptySteps := 0, emptySince := none } } :=
      ⟨hs.walls_eq, hs.finished_of_failure⟩
    obtain ⟨hsound, hnext, hitems⟩ := @accept_spec plan _ (plan.yields loop.cursor.step) hbehind he
    refine ⟨hsound, by simpa [hr] using hitems, left_lt he hstep ?_⟩
    rw [hnext]
    exact Nat.lt_succ_self _

theorem Canonical.exists_answers (hC : plan.Canonical) (hs : loop.IsSound) :
    ∃ steps ≤ loop.left, ∃ answer next, plan.Answers loop steps answer next := by
  induction h : loop.left using Nat.strong_induction_on generalizing loop with
  | _ left ih =>
    subst h
    cases hr : loop.ready with
    | cons found rest => exact ⟨0, Nat.zero_le _, _, _, .ready hr⟩
    | nil =>
      cases hf : loop.failure with
      | some error => exact ⟨0, Nat.zero_le _, _, _, .failed hr hf⟩
      | none =>
        cases he : loop.finished with
        | true => exact ⟨0, Nat.zero_le _, _, _, .ended hr hf he⟩
        | false =>
          obtain ⟨hsound, -, hlt⟩ := hC.advance_spec hs hr hf he
          obtain ⟨steps, hle, answer, next, hanswers⟩ := ih _ hlt hsound rfl
          exact ⟨steps + 1, by omega, answer, next, .advanced hr hf he hanswers⟩

theorem Answers.spec (h : plan.Answers loop steps answer next) (hC : plan.Canonical)
    (hs : loop.IsSound) : next.IsSound ∧ answer = (loop.items plan).head? ∧
      next.items plan = (loop.items plan).tail := by
  induction h with
  | @ready loop found rest hr =>
    exact ⟨⟨hs.walls_eq, hs.finished_of_failure⟩, by simp [Loop.items, hr],
      by simp [Loop.items, hr]⟩
  | @failed loop error hr hf =>
    have he := hs.finished_of_failure error hf
    exact ⟨⟨hs.walls_eq, fun _ _ => he⟩, by simp [Loop.items, hr, hf],
      by simp [Loop.items, hr, hf, he]⟩
  | @ended loop hr hf he =>
    exact ⟨hs, by simp [Loop.items, hr, hf, he], by simp [Loop.items, hr, hf, he]⟩
  | @advanced loop next steps answer hr hf he rest ih =>
    obtain ⟨hsound, hitems, -⟩ := hC.advance_spec hs hr hf he
    rw [← hitems]
    exact ih hsound

theorem Calls.spec {answers : List (Option Item)} (h : plan.Calls loop answers next)
    (hC : plan.Canonical) (hs : loop.IsSound) : next.IsSound ∧
      answers = (List.range answers.length).map ((loop.items plan)[·]?) := by
  induction h with
  | none => exact ⟨hs, rfl⟩
  | @call loop next last steps answer answers first rest ih =>
    obtain ⟨hnext, hanswer, hitems⟩ := first.spec hC hs
    obtain ⟨hlast, hanswers⟩ := ih hnext
    refine ⟨hlast, ?_⟩
    rw [List.length_cons, List.range_succ_eq_map, List.map_cons, List.map_map]
    congr 1
    · rw [hanswer, List.head?_eq_getElem?]
    · rw [hanswers, List.length_map, List.length_range, hitems]
      simp [Function.comp_def]

theorem hasTime_key_of_instanceAt {plan : Plan} {wall : Int} {found : Instance}
    (h : plan.instanceAt wall = .ok found) : found.key.hasTime = plan.anchor.hasTime := by
  unfold instanceAt at h
  split at h
  · next ha =>
    cases h
    rw [ha]
    rfl
  · next ha _ =>
    obtain ⟨_, -, rfl⟩ := map_eq_ok_iff.1 h
    rw [ha]
    rfl
  · next ha _ =>
    cases h
    rw [ha]
    rfl

theorem instants_ascend (plan : Plan) (cursor : Cursor) :
    (successes (plan.items cursor)).Pairwise (·.key.instant < ·.key.instant) := by
  refine (items_ascend plan cursor).1.imp_of_mem fun {one other} hone hother hlt => ?_
  obtain ⟨_, h⟩ := exists_wall_of_mem_items (mem_successes.1 hone)
  obtain ⟨_, h'⟩ := exists_wall_of_mem_items (mem_successes.1 hother)
  have hsame := (hasTime_key_of_instanceAt h).trans (hasTime_key_of_instanceAt h').symm
  rcases (TimelineKey.lt_iff _ _).1 hlt with hinstant | ⟨-, hfalse, htrue⟩
  · exact hinstant
  · simp [hsame, htrue] at hfalse

theorem fused_of_append {items : List Item} {found : List Instance} {failures : List Failure}
    (hitems : items = found.map .ok ++ failures.map .error) (hone : failures.length ≤ 1)
    (calls : Nat) : ((List.range calls).map (items[·]?)).Pairwise fun earlier later =>
      (earlier = none ∨ ∃ error, earlier = some (.error error)) → later = none := by
  rw [List.pairwise_map]
  refine List.pairwise_lt_range.imp fun {i j} hlt hover => ?_
  rw [List.getElem?_eq_none_iff]
  rcases hover with hnone | ⟨error, herror⟩
  · rw [List.getElem?_eq_none_iff] at hnone
    omega
  · have hbehind : found.length ≤ i := by
      by_contra hle
      rw [hitems, List.getElem?_append_left (by simpa using hle)] at herror
      simp at herror
    rw [hitems, List.length_append, List.length_map, List.length_map]
    omega

end Plan

namespace Run
open Plan

/-- Whether a run is finite, ordered and fused. -/
structure IsOrderly (run : Run) : Prop where
  /-- Every call comes to an answer, whatever calls came before. -/
  answers : ∀ {before loop}, run.plan.Calls run.loop before loop →
    ∃ steps ≤ stepLimit + 1, ∃ answer next, run.plan.Answers loop steps answer next
  /-- The answers are the items of a finite list in turn, and then nothing. -/
  items : ∀ {before loop}, run.plan.Calls run.loop before loop →
    before = (List.range before.length).map (run.toList[·]?)
  ascends : (successes run.toList).Pairwise (·.key.instant < ·.key.instant)
  /-- There is one failure at most, and it is the last item. -/
  failure : ∃ failures : List Failure,
    run.toList = (successes run.toList).map .ok ++ failures.map .error ∧ failures.length ≤ 1
  /-- An answer of nothing, or of a failure, is followed by nothing. -/
  fused : ∀ {before loop}, run.plan.Calls run.loop before loop →
    before.Pairwise fun earlier later =>
      (earlier = none ∨ ∃ error, earlier = some (.error error)) → later = none

theorem Loop.left_le (loop : Loop) : loop.left ≤ stepLimit + 1 := by
  unfold left
  split <;> omega

theorem isOrderly_of_canonical {run : Run} (hC : run.plan.Canonical)
    (hwalls : run.cursor.walls = []) : run.IsOrderly := by
  have hs : run.loop.IsSound := ⟨hwalls, by simp [loop]⟩
  have hcalls : ∀ {before loop}, run.plan.Calls run.loop before loop → loop.IsSound ∧
      before = (List.range before.length).map (run.toList[·]?) :=
    fun hcalls => hcalls.spec hC hs
  have hfailure := items_eq_append run.plan run.cursor
  refine ⟨fun hbefore => ?_, fun hbefore => (hcalls hbefore).2, instants_ascend _ _, hfailure,
    fun hbefore => ?_⟩
  · obtain ⟨steps, hle, hanswers⟩ := hC.exists_answers (hcalls hbefore).1
    exact ⟨steps, hle.trans (Loop.left_le _), hanswers⟩
  · obtain ⟨failures, hitems, hone⟩ := hfailure
    rw [(hcalls hbefore).2]
    exact fused_of_append hitems hone _

/-- Runs between any two instants are finite, ordered and fused, whatever the limit
of empty steps. -/
theorem isOrderly_between {resolver : Resolver} {pattern : Pattern} {anchor : DateTime} {run : Run}
    (hstart : Run.start resolver.clocks pattern anchor = .ok run) (hA : anchor.InCalendar)
    (limit : UInt32) (first last : Option Int) :
    ((run.withEmptyLimit limit).between first last).IsOrderly := by
  obtain ⟨hcursor, hopens⟩ := opens_withEmptyLimit hstart limit
  obtain ⟨step, hbetween, -⟩ :=
    between_eq hcursor hopens.resume_eq hopens.horizon_eq first last
  rw [hbetween]
  exact isOrderly_of_canonical ((hopens.canonical hA).limited first last) rfl

theorem isOrderly_between_daily : ∃ run,
    Run.start (Resolver.empty Zone.Atlas.database).clocks (.ofFrequency .daily)
      (.time 0 .floating) = .ok run ∧
    ((run.withEmptyLimit 0).between (some 86400) (some 864000)).IsOrderly := by
  obtain ⟨run, hstart⟩ : ∃ run, Run.start (Resolver.empty Zone.Atlas.database).clocks
      (.ofFrequency .daily) (.time 0 .floating) = .ok run := ⟨_, rfl⟩
  exact ⟨run, hstart, isOrderly_between hstart (show Representable 0 by decide) 0 _ _⟩

end Run
end Recurrence
