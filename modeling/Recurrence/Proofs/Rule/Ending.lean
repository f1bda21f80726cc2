import Mathlib
import Recurrence.Proofs.Rule.Order
import Recurrence.Proofs.Rule.Slice

/-! A rule with an end is a prefix of the rule without. A count changes no step,
and a last moment cuts the walk off where its steps begin past that moment; what
is judged before that is judged alike. -/
namespace Recurrence
open Calendar

/-- A plan with another end. -/
def Plan.ended (plan : Plan) (ending : Ending) (bound : Option Bound) : Plan :=
  { plan with pattern := plan.pattern.withEnding ending, bound }

/-- A value as an anchor reads it: a floating one on the anchor's own clock. -/
def DateTime.readBy (anchor last : DateTime) : DateTime :=
  if last.isFloating then .time last.wall anchor.form else last

/-- Whether items are the instances among others that pass a test, and fail only
as these do, and only where all of them pass. -/
structure Run.Keeps (test : Instance → Bool) (whole part : List Run.Item) : Prop where
  instances : successes part = (successes whole).filter test
  failure : ∀ error, .error error ∈ part →
    .error error ∈ whole ∧ ∀ found, .ok found ∈ whole → test found

theorem DateTime.key_readBy {clocks : Clocks} {anchor last : DateTime} {clock : Option Clock}
    (hclock : anchor.clock? clocks = .ok clock) :
    (anchor.readBy last).key clocks =
      if last.isFloating then (DateTime.time last.wall anchor.form).keyBy clock
      else last.key clocks := by
  unfold readBy
  split
  · have hform : (DateTime.time last.wall anchor.form).clock? clocks = .ok clock := hclock
    simp [key, hform, bind, Except.bind]
  · rfl

theorem Plan.boundOf_dateTime {clocks : Clocks} {anchor last : DateTime} {clock : Option Clock}
    {key : TimelineKey} (ht : anchor.hasTime = true) (hclock : anchor.clock? clocks = .ok clock)
    (hkey : (anchor.readBy last).key clocks = .ok key) :
    boundOf clocks clock anchor (some (.dateTime last)) = .ok (some (.instant key.instant)) := by
  rw [DateTime.key_readBy hclock] at hkey
  unfold boundOf
  simp only [ht, Bool.not_true, Bool.false_eq_true, if_false, orZone_eq_ok_iff]
  split at hkey
  · next hf => simp [hf, hkey, bind, Except.bind, pure, Except.pure]
  · next hf => simp [hf, hkey, bind, Except.bind, pure, Except.pure]

namespace Run

theorem start_withEnding {clocks : Clocks} {pattern : Pattern} {anchor : DateTime} {run : Run}
    (h : Run.start clocks pattern anchor = .ok run) {ending : Ending} {bound : Option Bound}
    (hbound : Plan.boundOf clocks run.plan.clock anchor (pattern.withEnding ending).until? =
      .ok bound) :
    Run.start clocks (pattern.withEnding ending) anchor =
      .ok ⟨run.plan.ended ending bound, run.cursor⟩ := by
  unfold Run.start Plan.of at h ⊢
  by_cases htimed : (pattern.frequency.isSubDaily && !anchor.hasTime) = true
  · simp [htimed] at h
  · rw [if_neg htimed] at h
    rw [if_neg (by exact htimed)]
    simp only [bind_eq_ok_iff, pure_eq_ok_iff, orZone_eq_ok_iff] at h
    obtain ⟨_, ⟨clock, hclock, last, hlast, rfl⟩, rfl⟩ := h
    simp only [bind_eq_ok_iff, pure_eq_ok_iff, orZone_eq_ok_iff]
    exact ⟨_, ⟨clock, hclock, bound, hbound, rfl⟩, rfl⟩

end Run

namespace Run.Keeps

variable {test : Instance → Bool} {whole part : List Run.Item}

theorem of_late (h : ∀ found, .ok found ∈ whole → test found = false) : Keeps test whole [] := by
  constructor
  · symm
    apply List.filter_eq_nil_iff.2
    intro found hmem
    simp [h found (mem_successes.1 hmem)]
  · simp

theorem error (error : Failure) : Keeps test [.error error] [.error error] :=
  ⟨rfl, by simp⟩

theorem cons {found : Instance} (hfound : test found = true) (h : Keeps test whole part) :
    Keeps test (.ok found :: whole) (.ok found :: part) := by
  constructor
  · rw [successes_ok_cons, successes_ok_cons, List.filter_cons_of_pos hfound, h.instances]
  · intro error hmem
    obtain ⟨hwhole, hall⟩ := h.failure error (by simpa using hmem)
    refine ⟨List.mem_cons_of_mem _ hwhole, fun one hone => ?_⟩
    rcases List.mem_cons.1 hone with heq | hone
    · exact Except.ok.inj heq ▸ hfound
    · exact hall one hone

theorem congr {test' : Instance → Bool} (h : Keeps test whole part)
    (htest : ∀ found, .ok found ∈ whole → test' found = test found) : Keeps test' whole part := by
  constructor
  · rw [h.instances]
    apply List.filter_congr
    intro found hmem
    exact (htest found (mem_successes.1 hmem)).symm
  · intro error hmem
    obtain ⟨hwhole, hall⟩ := h.failure error hmem
    exact ⟨hwhole, fun found hf => (htest found hf).trans (hall found hf)⟩

end Run.Keeps

namespace Plan

/-- Whether a plan has no limit but that of empty steps. -/
structure IsEndless (plan : Plan) : Prop where
  count : plan.pattern.count? = none
  bound : plan.bound = none
  resume : plan.resume = none
  horizon : plan.horizon = none

variable {plan : Plan}

theorem Opens.isEndless {clocks : Clocks} {pattern : Pattern} {anchor : DateTime}
    (h : plan.Opens clocks pattern anchor) (hnever : pattern.ending = .never) :
    plan.IsEndless := by
  refine ⟨?_, h.bound_eq_none ?_, h.resume_eq, h.horizon_eq⟩
  · rw [h.pattern_eq, Pattern.count?, hnever]
  · rw [Pattern.until?, hnever]

theorem IsEndless.judge_eq (h : plan.IsEndless) (emitted : Nat) (latest : Option TimelineKey)
    (wall : Int) : plan.judge emitted latest wall =
      if wall < plan.anchor.wall then .pass
      else
        match plan.instanceAt wall with
        | .error error => .fail (.zone error)
        | .ok found =>
          if latest.any (found.key ≤ ·) then .pass else .found found true false := by
  rw [judge_of_endless h.resume h.horizon h.count]
  split
  · rfl
  · cases plan.instanceAt wall with
    | error error => rfl
    | ok found => simp [isPastBound, h.bound]

theorem IsEndless.of_judge_found (h : plan.IsEndless) {emitted : Nat}
    {latest : Option TimelineKey} {wall : Int} {found : Instance} {shown final : Bool}
    (hj : plan.judge emitted latest wall = .found found shown final) :
    shown = true ∧ final = false := by
  obtain ⟨-, -, -, -, -, rfl⟩ := Plan.of_judge_found hj
  obtain ⟨-, rfl⟩ := count_of_judge_found hj
  simp [shows, h.resume, h.count]

theorem Canonical.ended (h : plan.Canonical) (ending : Ending) (bound : Option Bound) :
    (plan.ended ending bound).Canonical :=
  ⟨h.anchor_mem, h.filter_eq, h.hours_eq, h.minutes_eq, h.seconds_eq, h.times_eq, h.timed⟩

/-! A count changes no step. -/

theorem walks_count {count : UInt32} {cursor : Cursor} {walls : List Int} {gaveUp : Bool}
    (h : plan.Walks cursor walls gaveUp) :
    (plan.ended (.count count) plan.bound).Walks cursor walls gaveUp := by
  induction h with
  | gaveUp hg => exact .gaveUp hg
  | exhausted hg he => exact .exhausted hg he
  | missed hg hm rest ih => exact .missed hg hm ih
  | yielded hg hy rest ih => exact .yielded hg hy ih

/-- Up to its last instance a count does nothing but to end the run there. -/
theorem IsEndless.judge_count (h : plan.IsEndless) {count : UInt32} {emitted : Nat}
    (hlt : emitted < count.toNat) (latest : Option TimelineKey) (wall : Int) :
    (plan.ended (.count count) plan.bound).judge emitted latest wall =
      match plan.judge emitted latest wall with
      | .found found shown _ => .found found shown (emitted + 1 == count.toNat)
      | verdict => verdict := by
  have hcount : (plan.ended (.count count) plan.bound).pattern.count? = some count := rfl
  have hanchor : (plan.ended (.count count) plan.bound).anchor = plan.anchor := rfl
  have hinstance : (plan.ended (.count count) plan.bound).instanceAt = plan.instanceAt := rfl
  have hbound : ∀ found, (plan.ended (.count count) plan.bound).isPastBound found = false := by
    intro found
    simp [isPastBound, ended, h.bound]
  have hhorizon : ∀ found, (plan.ended (.count count) plan.bound).isPastHorizon found = false := by
    intro found
    simp [isPastHorizon, ended, h.horizon]
  have hshows : ∀ found, (plan.ended (.count count) plan.bound).shows found = true := by
    intro found
    simp [shows, ended, h.resume]
  rw [h.judge_eq]
  unfold judge
  rw [hcount, hanchor, hinstance]
  simp only [hbound, hhorizon, hshows, not_le.2 hlt, if_false, Bool.false_eq_true]
  by_cases hw : wall < plan.anchor.wall
  · simp [hw]
  · rw [if_neg hw, if_neg hw]
    cases plan.instanceAt wall with
    | error error => rfl
    | ok found => by_cases hl : latest.any (found.key ≤ ·) = true <;> simp [hl]

/-- A count takes its number of items, of which a failure may be the last. -/
theorem IsEndless.judged_count (h : plan.IsEndless) {count : UInt32} {behind : List Run.Item}
    (hbehind : behind.length ≤ 1) (walls : List Int) {emitted : Nat}
    (hlt : emitted < count.toNat) (latest : Option TimelineKey) :
    (plan.ended (.count count) plan.bound).judged behind emitted latest walls =
      (plan.judged behind emitted latest walls).take (count.toNat - emitted) := by
  induction walls generalizing emitted latest with
  | nil =>
    rw [judged, judged, List.take_of_length_le]
    omega
  | cons wall walls ih =>
    rw [judged, judged, h.judge_count hlt]
    cases hj : plan.judge emitted latest wall with
    | pass => exact ih hlt latest
    | stop => exact List.take_nil.symm
    | fail error =>
      rw [List.take_of_length_le]
      simp only [List.length_singleton]
      omega
    | found found shown final =>
      obtain ⟨rfl, rfl⟩ := h.of_judge_found hj
      obtain ⟨left, hleft⟩ : ∃ left, count.toNat - emitted = left + 1 :=
        ⟨count.toNat - emitted - 1, by omega⟩
      simp only [if_true, List.singleton_append, hleft, List.take_succ_cons, Bool.false_eq_true,
        if_false, List.cons.injEq, true_and]
      by_cases hlast : emitted + 1 = count.toNat
      · obtain rfl : left = 0 := by omega
        simp [hlast]
      · rw [if_neg (by simpa using hlast), ih (by omega)]
        congr 1
        omega

/-! A last moment changes no step that begins less than a day past it. -/

theorem lt_of_isPastStop (hh : plan.horizon = none) {wall : Int}
    (h : plan.isPastStop wall = true) : ∃ bound ∈ plan.bound, bound.moment + 86400 < wall := by
  unfold isPastStop stopAfter? at h
  rw [hh] at h
  cases hb : plan.bound with
  | none => simp [hb] at h
  | some bound =>
    refine ⟨bound, rfl, ?_⟩
    cases bound with
    | day last =>
      by_cases hc : InCalendar (last + 2)
      · have hlt : midnight (last + 2) < wall := by simpa [hb, moveDay?, hc] using h
        simp only [midnight] at hlt
        simp only [Bound.moment, midnight]
        omega
      · simp [hb, moveDay?, hc] at h
    | instant last =>
      by_cases hr : Representable (last + 86400)
      · have hlt : last + 86400 < wall := by simpa [hb, move?, secondsPerDay, hr] using h
        exact hlt
      · simp [hb, move?, secondsPerDay, hr] at h

theorem IsEndless.cutBy_ended (h : plan.IsEndless) (last : Until) (bound : Option Bound) :
    CutBy (plan.ended (.upTo last) bound).isPastStop plan (plan.ended (.upTo last) bound) := by
  have hopen : ∀ wall, plan.isPastStop wall = false := by
    intro wall
    simp [isPastStop, stopAfter?, h.horizon, h.bound]
  refine ⟨isPastStop_mono, rfl, rfl, fun step => ?_⟩
  have hstart : (plan.ended (.upTo last) bound).stepStart step = plan.stepStart step := rfl
  rw [evaluate_eq, evaluate_eq, hopen, hstart]
  cases (plan.ended (.upTo last) bound).isPastStop (plan.stepStart step) with
  | true => simp
  | false =>
    simp only [Bool.false_eq_true, if_false]
    rfl

theorem IsEndless.judge_upTo (h : plan.IsEndless) {last : Until} {bound : Bound}
    (hm : (plan.ended (.upTo last) (some bound)).EndsAtMoment) (emitted : Nat)
    {latest : Option TimelineKey} (hlatest : ∀ key ∈ latest, key.instant ≤ bound.moment)
    (wall : Int) : (plan.ended (.upTo last) (some bound)).judge emitted latest wall =
      match plan.judge emitted latest wall with
      | .found found shown final =>
        if bound.moment < found.key.instant then .stop else .found found shown final
      | verdict => verdict := by
  have hanchor : (plan.ended (.upTo last) (some bound)).anchor = plan.anchor := rfl
  have hinstance : (plan.ended (.upTo last) (some bound)).instanceAt = plan.instanceAt := rfl
  have hresume : (plan.ended (.upTo last) (some bound)).resume = none := h.resume
  have hhorizon : (plan.ended (.upTo last) (some bound)).horizon = none := h.horizon
  rw [h.judge_eq, judge_of_endless hresume hhorizon rfl, hanchor, hinstance]
  by_cases hw : wall < plan.anchor.wall
  · simp [hw]
  · rw [if_neg hw, if_neg hw]
    cases hf : plan.instanceAt wall with
    | error error => rfl
    | ok found =>
      have hpast : (plan.ended (.upTo last) (some bound)).isPastBound found = true ↔
          bound.moment < found.key.instant := by
        rw [isPastBound_iff hm (hinstance ▸ hf)]
        simp [ended]
      dsimp only
      by_cases hlate : bound.moment < found.key.instant
      · -- What lies past the moment has not been seen before it.
        have hnew : latest.any (found.key ≤ ·) = false := by
          rw [Bool.eq_false_iff]
          intro hany
          obtain ⟨key, hkey, hle⟩ := (Option.any_eq_true _ _).1 hany
          have := TimelineKey.instant_le_of_le (of_decide_eq_true hle)
          have := hlatest key hkey
          omega
        simp [hpast.2 hlate, hnew, hlate]
      · rw [if_neg (mt hpast.1 hlate)]
        by_cases hold : latest.any (found.key ≤ ·) = true <;> simp [hold, hlate]

/-- A last moment keeps the instances up to it, of readings that it may cut off
where they lie more than a day past it. -/
theorem IsEndless.judged_upTo (h : plan.IsEndless) (hn : plan.IsNear) {last : Until}
    {bound : Bound} (hm : (plan.ended (.upTo last) (some bound)).EndsAtMoment)
    {cut : List Int} {gaveUp end' : Bool} (hcut : ∀ wall ∈ cut, bound.moment + 86400 < wall)
    (hend : end' = true → cut = [] ∧ gaveUp = true) (kept : List Int) (emitted : Nat)
    {latest : Option TimelineKey} (hlatest : ∀ key ∈ latest, key.instant ≤ bound.moment) :
    Run.Keeps (·.key.instant ≤ bound.moment)
      (plan.judged (plan.ending gaveUp) emitted latest (kept ++ cut))
      ((plan.ended (.upTo last) (some bound)).judged
        ((plan.ended (.upTo last) (some bound)).ending end') emitted latest kept) := by
  induction kept generalizing emitted latest with
  | nil =>
    cases end' with
    | true =>
      obtain ⟨rfl, rfl⟩ := hend rfl
      exact .error _
    | false =>
      -- What is cut off lies more than a day past the moment.
      apply Run.Keeps.of_late
      intro found hmem
      obtain ⟨wall, hw, -, hf, -⟩ := exists_wall_of_mem_judged (ok_notMem_ending plan _) hmem
      have := hn wall found hf
      have := hcut wall hw
      simp only [decide_eq_false_iff_not]
      omega
  | cons wall kept ih =>
    rw [List.cons_append, judged, judged, h.judge_upTo hm emitted hlatest]
    cases hj : plan.judge emitted latest wall with
    | pass => exact ih emitted hlatest
    | stop => exact .of_late (by simp)
    | fail error => exact .error error
    | found found shown final =>
      obtain ⟨rfl, rfl⟩ := h.of_judge_found hj
      dsimp only
      by_cases hlate : bound.moment < found.key.instant
      · simp only [if_pos hlate, if_true, Bool.false_eq_true, if_false, List.singleton_append]
        apply Run.Keeps.of_late
        intro one hone
        rw [decide_eq_false_iff_not, not_le]
        exact hlate.trans_le (TimelineKey.instant_le_of_le (le_of_mem_judged_behind hone))
      · simp only [if_neg hlate, if_true, Bool.false_eq_true, if_false, List.singleton_append]
        refine .cons (by simpa using hlate) (ih (emitted + 1) ?_)
        rintro _ ⟨⟩
        exact not_lt.1 hlate

end Plan

namespace Run

theorem take_of_le {run : Run} {count : Nat} (h : count ≤ (successes run.toList).length) :
    run.toList.take count = ((successes run.toList).take count).map .ok := by
  obtain ⟨failures, hitems, -⟩ := Plan.items_eq_append run.plan run.cursor
  change run.toList = _ at hitems
  conv_lhs => rw [hitems]
  rw [List.take_append_of_le_length (by rwa [List.length_map]), List.map_take]
  rfl

theorem take_of_lt {run : Run} {count : Nat} (h : (successes run.toList).length < count) :
    run.toList.take count = run.toList := by
  obtain ⟨failures, hitems, hone⟩ := Plan.items_eq_append run.plan run.cursor
  have hlength := congrArg List.length hitems
  rw [List.length_append, List.length_map, List.length_map] at hlength
  apply List.take_of_length_le
  change (Plan.items _ _).length ≤ _
  change (successes (Plan.items _ _)).length < _ at h
  omega

theorem toList_count {plan : Plan} (h : plan.IsEndless) (hC : plan.Canonical) {count : UInt32}
    (hcount : 0 < count.toNat) :
    toList ⟨plan.ended (.count count) plan.bound, .before 0⟩ =
      (toList ⟨plan, .before 0⟩).take count.toNat := by
  obtain ⟨walls, gaveUp, hwalks⟩ := hC.exists_walks (.before 0)
  rw [toList_eq_judged hC hwalks, toList_eq_judged (hC.ended _ _) (Plan.walks_count hwalks)]
  apply h.judged_count ?_ walls hcount none
  cases gaveUp <;> simp [Plan.ending]

theorem toList_upTo {plan : Plan} (h : plan.IsEndless) (hC : plan.Canonical) (hn : plan.IsNear)
    {last : Until} {bound : Bound}
    (hm : (plan.ended (.upTo last) (some bound)).EndsAtMoment) :
    Keeps (!(plan.ended (.upTo last) (some bound)).isPastBound ·) (toList ⟨plan, .before 0⟩)
      (toList ⟨plan.ended (.upTo last) (some bound), .before 0⟩) := by
  obtain ⟨walls, gaveUp, hwalks⟩ := hC.exists_walks (.before 0)
  obtain ⟨kept, cut, end', rfl, hkept, hcut, hend⟩ :=
    hC.walks_cut (h.cutBy_ended last (some bound)) hwalks
  rw [toList_eq_judged hC hwalks, toList_eq_judged (hC.ended _ _) hkept]
  have hfar : ∀ wall ∈ cut, bound.moment + 86400 < wall := by
    intro wall hw
    obtain ⟨_, ⟨⟩, hlt⟩ := Plan.lt_of_isPastStop (by exact h.horizon) (hcut wall hw)
    exact hlt
  refine (h.judged_upTo hn hm hfar hend kept 0 (by simp)).congr ?_
  intro found hmem
  obtain ⟨wall, -, -, hf, -⟩ :=
    Plan.exists_wall_of_mem_judged (Plan.ok_notMem_ending plan _) hmem
  have hpast := Plan.isPastBound_iff hm (show (plan.ended _ _).instanceAt wall = _ from hf)
  rw [Bool.eq_iff_iff, Bool.not_eq_true', ← Bool.not_eq_true, hpast]
  simp [Plan.ended]

/-- A count takes the first instances of an endless run, and its failure only where
these are too few. A last moment keeps the instances up to it. -/
theorem toList_withEnding {resolver : Resolver} {pattern : Pattern} {anchor : DateTime} {run : Run}
    (hstart : Run.start resolver.clocks pattern anchor = .ok run) (hnever : pattern.ending = .never)
    (hA : anchor.InCalendar) (limit : UInt32) :
    (∀ count : UInt32, 0 < count.toNat → ∃ ended,
      Run.start resolver.clocks (pattern.withEnding (.count count)) anchor = .ok ended ∧
      if count.toNat ≤ (successes (run.withEmptyLimit limit).toList).length then
        (ended.withEmptyLimit limit).toList =
          ((successes (run.withEmptyLimit limit).toList).take count.toNat).map .ok
      else (ended.withEmptyLimit limit).toList = (run.withEmptyLimit limit).toList) ∧
    (∀ last key, anchor.hasTime = true → (anchor.readBy last).key resolver.clocks = .ok key →
      ∃ ended,
        Run.start resolver.clocks (pattern.withEnding (.upTo (.dateTime last))) anchor =
          .ok ended ∧
        Keeps (·.key.instant ≤ key.instant) (run.withEmptyLimit limit).toList
          (ended.withEmptyLimit limit).toList) ∧
    (∀ day, anchor.tzid? = none → ∃ ended,
      Run.start resolver.clocks (pattern.withEnding (.upTo (.date day))) anchor = .ok ended ∧
      Keeps (·.value.day ≤ day) (run.withEmptyLimit limit).toList
        (ended.withEmptyLimit limit).toList) := by
  obtain ⟨hcursor, hopens⟩ := Run.opens_withEmptyLimit hstart limit
  have hclock : anchor.clock? resolver.clocks = .ok run.plan.clock := hopens.clock_eq
  have h := hopens.isEndless hnever
  have hC := hopens.canonical hA
  have hwhole : (run.withEmptyLimit limit).toList =
      toList ⟨(run.withEmptyLimit limit).plan, .before 0⟩ := by
    rw [← hcursor]
  have hpart : ∀ ending bound,
      (Run.withEmptyLimit ⟨run.plan.ended ending bound, run.cursor⟩ limit).toList =
        toList ⟨(run.withEmptyLimit limit).plan.ended ending bound, .before 0⟩ := by
    intro ending bound
    rw [← hcursor]
    rfl
  refine ⟨?_, ?_, ?_⟩
  · intro count hcount
    refine ⟨_, start_withEnding hstart rfl, ?_⟩
    have htake := toList_count h hC hcount
    rw [h.bound, ← hpart, ← hwhole] at htake
    split
    · next hle => rw [htake, take_of_le hle]
    · next hlt => rw [htake, take_of_lt (not_le.1 hlt)]
  · intro last key ht hkey
    refine ⟨_, start_withEnding hstart (Plan.boundOf_dateTime ht hclock hkey), ?_⟩
    rw [hpart, hwhole]
    refine (toList_upTo h hC hopens.isNear ?_).congr ?_
    · rintro day ⟨⟩
    · intro found _
      rw [Bool.eq_iff_iff]
      simp [Plan.isPastBound, Plan.ended]
  · intro day hz
    refine ⟨_, start_withEnding hstart rfl, ?_⟩
    rw [hpart, hwhole]
    refine (toList_upTo h hC hopens.isNear ?_).congr ?_
    · intro last _
      exact hopens.clock_eq_none hz
    · intro found _
      rw [Bool.eq_iff_iff]
      simp [Plan.isPastBound, Plan.ended]

/-- Every hour counted to three, up to two o'clock, and on the first day. -/
theorem toList_withEnding_hourly : ∃ run,
    Run.start (Resolver.empty Zone.Atlas.database).clocks (.ofFrequency .hourly) (.time 0 .utc) =
      .ok run ∧
    (∃ ended, Run.start (Resolver.empty Zone.Atlas.database).clocks
        ((Pattern.ofFrequency .hourly).withEnding (.count 3)) (.time 0 .utc) = .ok ended ∧
      if 3 ≤ (successes (run.withEmptyLimit 1000).toList).length then
        (ended.withEmptyLimit 1000).toList =
          ((successes (run.withEmptyLimit 1000).toList).take 3).map .ok
      else (ended.withEmptyLimit 1000).toList = (run.withEmptyLimit 1000).toList) ∧
    (∃ ended, Run.start (Resolver.empty Zone.Atlas.database).clocks
        ((Pattern.ofFrequency .hourly).withEnding (.upTo (.dateTime (.time 7200 .floating))))
        (.time 0 .utc) = .ok ended ∧
      Keeps (·.key.instant ≤ 7200) (run.withEmptyLimit 1000).toList
        (ended.withEmptyLimit 1000).toList) ∧
    (∃ ended, Run.start (Resolver.empty Zone.Atlas.database).clocks
        ((Pattern.ofFrequency .hourly).withEnding (.upTo (.date 0))) (.time 0 .utc) = .ok ended ∧
      Keeps (·.value.day ≤ 0) (run.withEmptyLimit 1000).toList
        (ended.withEmptyLimit 1000).toList) := by
  cases hrun : Run.start (Resolver.empty Zone.Atlas.database).clocks (.ofFrequency .hourly)
      (.time 0 .utc) with
  | error error => exact absurd hrun (by rintro ⟨⟩)
  | ok run =>
    obtain ⟨hcount, htime, hday⟩ := toList_withEnding hrun rfl (by decide) 1000
    exact ⟨run, rfl, hcount 3 (by decide), htime (.time 7200 .floating) ⟨7200, true⟩ rfl rfl,
      hday 0 rfl⟩

end Run
end Recurrence
