import Mathlib
import Recurrence.Proofs.Rule.Ending
import Recurrence.Proofs.Rule.Meaning
import Recurrence.Proofs.Zone.Spaced

/-! A rule in a zone beside the same rule without one. Both walk the same readings.
In the zone each is carried to its instant, which is left out unless it exceeds
all before it; so a reading that moves past a gap hides those it moves past. -/
namespace Recurrence
open Calendar

namespace Clock

/-- The instants of readings, up to the first reading that has none. -/
def instants (clock : Clock) : List Int → List Int
  | [] => []
  | wall :: walls =>
    match clock.toUtc wall with
    | .ok instant => instant :: clock.instants walls
    | .error _ => []

/-- Why the first reading without an instant has none. -/
def failure? (clock : Clock) : List Int → Option ZoneError
  | [] => none
  | wall :: walls =>
    match clock.toUtc wall with
    | .ok _ => clock.failure? walls
    | .error error => some error

end Clock

/-- The values that exceed a first one and all before them. -/
def records (latest : Option Int) : List Int → List Int
  | [] => []
  | value :: values =>
    if latest.any (value ≤ ·) then records latest values
    else value :: records (some value) values

theorem lt_of_mem_records {latest : Option Int} {values : List Int} {value : Int}
    (h : value ∈ records latest values) : ∀ bound ∈ latest, bound < value := by
  induction values generalizing latest with
  | nil => exact absurd h List.not_mem_nil
  | cons first values ih =>
    rw [records] at h
    split at h
    · exact ih h
    · next hnew =>
      have hfirst : ∀ bound ∈ latest, bound < first := by
        intro bound hbound
        rw [Option.mem_def] at hbound
        simpa [hbound] using hnew
      rcases List.mem_cons.1 h with rfl | h
      · exact hfirst
      · exact fun bound hbound => (hfirst bound hbound).trans (ih h first rfl)

theorem records_pairwise (latest : Option Int) (values : List Int) :
    (records latest values).Pairwise (· < ·) := by
  induction values generalizing latest with
  | nil => exact List.Pairwise.nil
  | cons value values ih =>
    rw [records]
    split
    · exact ih latest
    · exact List.pairwise_cons.2 ⟨fun later h => lt_of_mem_records h value rfl, ih _⟩

theorem records_subset (latest : Option Int) (values : List Int) :
    records latest values ⊆ values := by
  induction values generalizing latest with
  | nil => exact List.Subset.refl _
  | cons value values ih =>
    rw [records]
    split
    · exact List.subset_cons_of_subset _ (ih latest)
    · exact List.cons_subset_cons _ (ih _)

/-- Values in order are all among the records, also before values in no order. -/
theorem mem_records_of_pairwise {latest : Option Int} {values : List Int}
    (h : values.Pairwise (· ≤ ·)) (rest : List Int) {value : Int} (hv : value ∈ values)
    (hlatest : ∀ bound ∈ latest, bound < value) : value ∈ records latest (values ++ rest) := by
  induction values generalizing latest with
  | nil => exact absurd hv List.not_mem_nil
  | cons first values ih =>
    obtain ⟨hfirst, hvalues⟩ := List.pairwise_cons.1 h
    rw [List.cons_append, records]
    -- In ascending order only an equal value can keep a value from being a record.
    by_cases heq : value = first
    · subst heq
      have hnew : ¬ latest.any (value ≤ ·) = true := by
        cases latest with
        | none => simp
        | some bound => simpa using hlatest bound rfl
      rw [if_neg hnew]
      exact List.mem_cons_self
    · have hmem := (List.mem_cons.1 hv).resolve_left heq
      split
      · exact ih hvalues hmem hlatest
      · refine List.mem_cons_of_mem _ (ih hvalues hmem ?_)
        rintro _ ⟨⟩
        exact lt_of_le_of_ne (hfirst value hmem) (Ne.symm heq)

namespace Clock

/-- The items of a rule in a zone that gives some readings without one, with what
follows them. -/
def carried (clock : Clock) (tzid : String) (behind : List Run.Item) (walls : List Int) :
    List Run.Item :=
  (records none (clock.instants walls)).map
      (fun instant => .ok ⟨.time (clock.toLocal instant) (.zoned tzid), ⟨instant, true⟩⟩) ++
    match clock.failure? walls with
    | some error => [.error (.zone error)]
    | none => behind

theorem instants_append (clock : Clock) (walls later : List Int) :
    ∃ rest, clock.instants (walls ++ later) = clock.instants walls ++ rest := by
  induction walls with
  | nil => exact ⟨_, rfl⟩
  | cons wall walls ih =>
    obtain ⟨rest, hrest⟩ := ih
    simp only [List.cons_append, instants]
    cases clock.toUtc wall with
    | error error => exact ⟨[], rfl⟩
    | ok instant => exact ⟨rest, by simp [hrest]⟩

theorem mem_instants {clock : Clock} {walls : List Int} {instant : Int}
    (h : instant ∈ clock.instants walls) : ∃ wall ∈ walls, clock.toUtc wall = .ok instant := by
  induction walls with
  | nil => exact absurd h List.not_mem_nil
  | cons wall walls ih =>
    rw [instants] at h
    split at h
    · next found hf =>
      rcases List.mem_cons.1 h with rfl | h
      · exact ⟨wall, List.mem_cons_self, hf⟩
      · obtain ⟨later, hmem, hl⟩ := ih h
        exact ⟨later, List.mem_cons_of_mem _ hmem, hl⟩
    · exact absurd h List.not_mem_nil

/-- Whether a clock puts no reading before an earlier one. -/
def KeepsOrder (clock : Clock) (walls : List Int) : Prop :=
  ∀ wall ∈ walls, ∀ later ∈ walls, wall < later → ∀ instant next,
    clock.toUtc wall = .ok instant → clock.toUtc later = .ok next → instant ≤ next

/-- Whether no reading lies between another and where the clock moves that. -/
def MovesPastNone (clock : Clock) (walls : List Int) : Prop :=
  ∀ wall ∈ walls, ∀ later ∈ walls, wall < later → ∀ instant,
    clock.toUtc wall = .ok instant → clock.toLocal instant ≤ later

theorem Shows.keepsOrder_of_const {clock : Clock} {offsetAt : Int → Offset}
    (h : clock.Shows offsetAt) (hconst : ∀ one other, offsetAt one = offsetAt other)
    (walls : List Int) : clock.KeepsOrder walls := by
  intro wall _ later _ hlt instant next hi hn
  obtain ⟨-, seen, -, rfl, -⟩ := h.of_toUtc hi
  obtain ⟨-, seen', -, rfl, -⟩ := h.of_toUtc hn
  rw [hconst seen seen']
  omega

/-- Where offsets change two days apart or more, only a reading that moves past
another one comes behind it. -/
theorem Shows.keepsOrder_of_movesPastNone {clock : Clock} {offsetAt : Int → Offset}
    (h : clock.Shows offsetAt) (hfirst : clock.TakesFirst offsetAt) (hs : Zone.IsSpaced offsetAt)
    {walls : List Int}
    (hinside : ∀ wall ∈ walls, firstSecond + 172800 ≤ wall ∧ wall ≤ lastSecond - 172800)
    (hmoves : clock.MovesPastNone walls) : clock.KeepsOrder walls := by
  intro wall hw later hl hlt instant next hi hn
  by_contra hrev
  have hpast := h.lt_toLocal_of_reversed hfirst hs hi hn (hinside wall hw).1 (hinside later hl).2
    hlt (not_le.1 hrev)
  have := hmoves wall hw later hl hlt instant hi
  omega

theorem KeepsOrder.instants_pairwise {clock : Clock} {walls : List Int}
    (h : clock.KeepsOrder walls) (hw : walls.Pairwise (· < ·)) :
    (clock.instants walls).Pairwise (· ≤ ·) := by
  induction walls with
  | nil => exact List.Pairwise.nil
  | cons wall walls ih =>
    obtain ⟨hlater, hrest⟩ := List.pairwise_cons.1 hw
    rw [instants]
    split
    · next instant hi =>
      refine List.pairwise_cons.2 ⟨fun next hn => ?_, ih (fun v hv w hw => ?_) hrest⟩
      · obtain ⟨later, hmem, hl⟩ := mem_instants hn
        exact h wall List.mem_cons_self later (List.mem_cons_of_mem _ hmem) (hlater later hmem)
          instant next hi hl
      · exact h v (List.mem_cons_of_mem _ hv) w (List.mem_cons_of_mem _ hw)
    · exact List.Pairwise.nil

end Clock

namespace Plan

/-- A plan whose readings are those of a zone's clock. -/
def readIn (plan : Plan) (tzid : String) (clock : Clock) : Plan :=
  { plan with anchor := .time plan.anchor.wall (.zoned tzid), clock := some clock }

theorem Walks.of_eq {plan part : Plan} (hgives : part.givesUp = plan.givesUp)
    (hmissed : part.missed = plan.missed) (hevaluate : part.evaluate = plan.evaluate)
    {cursor : Cursor} {walls : List Int} {gaveUp : Bool} (h : plan.Walks cursor walls gaveUp) :
    part.Walks cursor walls gaveUp := by
  have hmisses : part.missesTo? = plan.missesTo? := by
    funext step
    unfold missesTo?
    rw [hevaluate]
  have hyields : part.yields = plan.yields := by
    funext step
    unfold yields
    rw [hevaluate]
  induction h with
  | gaveUp hg => exact .gaveUp (by rwa [hgives])
  | exhausted hg he => exact .exhausted (by rwa [hgives]) (by rwa [hevaluate])
  | missed hg hm rest ih =>
    rw [← hmissed] at ih
    exact .missed (by rwa [hgives]) (by rwa [hmisses]) ih
  | yielded hg hy rest ih =>
    rw [← hyields] at hy ⊢
    exact .yielded (by rwa [hgives]) hy ih

/-- The readings of a zone's clock are walked as those without a zone. -/
theorem Walks.readIn {plan : Plan} {cursor : Cursor} {walls : List Int} {gaveUp : Bool}
    (h : plan.Walks cursor walls gaveUp) {wall : Int} {form : Form}
    (hanchor : plan.anchor = .time wall form) (tzid : String) (clock : Clock) :
    (plan.readIn tzid clock).Walks cursor walls gaveUp := by
  obtain ⟨pattern, anchor, _, _, _, _, _, _, _, _, _, _⟩ := plan
  obtain rfl : anchor = .time wall form := hanchor
  refine Walks.of_eq ?_ ?_ ?_ h <;> rfl

theorem Canonical.readIn {plan : Plan} (hC : plan.Canonical) {wall : Int} {form : Form}
    (hanchor : plan.anchor = .time wall form) (tzid : String) (clock : Clock) :
    (plan.readIn tzid clock).Canonical := by
  obtain ⟨pattern, anchor, _, _, _, _, _, _, _, _, _, _⟩ := plan
  obtain rfl : anchor = .time wall form := hanchor
  exact ⟨hC.anchor_mem, hC.filter_eq, hC.hours_eq, hC.minutes_eq, hC.seconds_eq, hC.times_eq,
    hC.timed⟩

theorem instanceAt_readIn (plan : Plan) (tzid : String) (clock : Clock) (wall : Int) :
    (plan.readIn tzid clock).instanceAt wall = (clock.toUtc wall).map fun instant =>
      ⟨.time (clock.toLocal instant) (.zoned tzid), ⟨instant, true⟩⟩ := rfl

theorem any_timed_le (latest : Option Int) (instant : Int) :
    (latest.map fun one => (⟨one, true⟩ : TimelineKey)).any (⟨instant, true⟩ ≤ ·) =
      latest.any (instant ≤ ·) := by
  cases latest with
  | none => rfl
  | some bound =>
    simp only [Option.map_some, Option.any_some, decide_eq_decide, TimelineKey.le_iff_rank,
      TimelineKey.rank, if_true]
    omega

/-- In a zone the readings from the anchor on are carried to their instants. -/
theorem IsEndless.judged_readIn {plan : Plan} (h : plan.IsEndless) (tzid : String) (clock : Clock)
    (behind : List Run.Item) (walls : List Int) (emitted : Nat) (latest : Option Int) :
    (plan.readIn tzid clock).judged behind emitted (latest.map (⟨·, true⟩)) walls =
      (records latest (clock.instants (walls.filter (plan.anchor.wall ≤ ·)))).map
          (fun instant => .ok ⟨.time (clock.toLocal instant) (.zoned tzid), ⟨instant, true⟩⟩) ++
        match clock.failure? (walls.filter (plan.anchor.wall ≤ ·)) with
        | some error => [.error (.zone error)]
        | none => behind := by
  have hzoned : (plan.readIn tzid clock).IsEndless := ⟨h.count, h.bound, h.resume, h.horizon⟩
  induction walls generalizing emitted latest with
  | nil => rfl
  | cons wall walls ih =>
    rw [judged, hzoned.judge_eq]
    by_cases hlt : wall < plan.anchor.wall
    · rw [List.filter_cons_of_neg (by simpa using hlt),
        if_pos (show wall < (plan.readIn tzid clock).anchor.wall from hlt)]
      exact ih emitted latest
    · rw [List.filter_cons_of_pos (by simpa using hlt),
        if_neg (show ¬ wall < (plan.readIn tzid clock).anchor.wall from hlt)]
      simp only [Clock.instants, Clock.failure?, instanceAt_readIn]
      cases hi : clock.toUtc wall with
      | error error => rfl
      | ok instant =>
        simp only [Except.map, any_timed_le, records]
        by_cases hold : latest.any (instant ≤ ·) = true
        · simp only [hold, if_true]
          exact ih emitted latest
        · simp only [hold, Bool.false_eq_true, if_false, if_true, List.map_cons, List.cons_append,
            List.nil_append, List.cons.injEq, true_and]
          exact ih (emitted + 1) (some instant)

end Plan

namespace Run

theorem exists_start_zoned {clocks : Clocks} {tzid : String} {clock : Clock}
    (hclock : clocks tzid = .ok clock) {pattern : Pattern} (hnever : pattern.ending = .never)
    (wall : Int) : ∃ floating, Run.start clocks pattern (.time wall .floating) = .ok floating ∧
      Run.start clocks pattern (.time wall (.zoned tzid)) =
        .ok { floating with plan := floating.plan.readIn tzid clock } := by
  have hopen : ∀ (clock : Option Clock) (anchor : DateTime),
      Plan.boundOf clocks clock anchor pattern.until? = .ok none := by
    intro clock anchor
    rw [Pattern.until?, hnever]
    rfl
  have hfloating : (DateTime.time wall .floating).clock? clocks = .ok none := rfl
  have hzoned : (DateTime.time wall (.zoned tzid)).clock? clocks = .ok (some clock) :=
    DateTime.clock?_eq_some_iff.2 ⟨tzid, rfl, hclock⟩
  have htimed : ∀ form, (pattern.frequency.isSubDaily && !(DateTime.time wall form).hasTime) =
      false := by
    simp [DateTime.hasTime]
  simp only [Run.start, Plan.of, hopen, hfloating, hzoned, htimed]
  exact ⟨_, rfl, rfl⟩

/-- The instants of a run, which without a zone are its readings. -/
def timeline (run : Run) : List Int := (successes run.toList).map (·.key.instant)

section Floating

variable {clocks : Clocks} {pattern : Pattern} {wall : Int} {plan : Plan}
  (h : plan.Opens clocks pattern (.time wall .floating)) (hnever : pattern.ending = .never)
  (hwall : Representable wall) {walls : List Int} {gaveUp : Bool}
  (hwalks : plan.Walks (.before 0) walls gaveUp)
include h hnever hwall hwalks

theorem toList_floating : toList ⟨plan, .before 0⟩ = ((walls.filter (wall ≤ ·)).map
    (fun wall => (⟨.time wall .floating, ⟨wall, true⟩⟩ : Instance))).map .ok ++
      plan.ending gaveUp := by
  have hendless := h.isEndless hnever
  have hC := h.canonical hwall
  have htimed : ∀ wall ∈ walls, plan.anchor.hasTime = true ∨ secondOfDay wall = 0 := by
    intro _ _
    rw [h.anchor_eq]
    exact .inl rfl
  rw [toList_eq_judged hC hwalks, Plan.judged_endless hendless.resume hendless.horizon
    hendless.count hendless.bound (h.clock_eq_none rfl) _ (hC.walks_pairwise hwalks) htimed
    (by simp), h.anchor_eq, List.map_map]
  rfl

theorem timeline_floating : timeline ⟨plan, .before 0⟩ = walls.filter (wall ≤ ·) := by
  rw [timeline, toList_floating h hnever hwall hwalks, successes_append, successes_map_ok,
    Plan.successes_ending, List.append_nil, List.map_map]
  exact List.map_id _

theorem failures_floating : failures (toList ⟨plan, .before 0⟩) = failures (plan.ending gaveUp) := by
  rw [toList_floating h hnever hwall hwalks, failures_append, failures_map_ok, List.nil_append]

end Floating

theorem exists_zoned {clocks : Clocks} {tzid : String} {clock : Clock}
    (hclock : clocks tzid = .ok clock) {pattern : Pattern} (hnever : pattern.ending = .never)
    {wall : Int} (hwall : Representable wall) (limit : UInt32) : ∃ floating zoned,
      Run.start clocks pattern (.time wall .floating) = .ok floating ∧
      Run.start clocks pattern (.time wall (.zoned tzid)) = .ok zoned ∧
      (floating.withEmptyLimit limit).timeline.Pairwise (· < ·) ∧
      (zoned.withEmptyLimit limit).toList = clock.carried tzid
        ((failures (floating.withEmptyLimit limit).toList).map .error)
        (floating.withEmptyLimit limit).timeline := by
  obtain ⟨floating, hstart, hstart'⟩ := exists_start_zoned hclock hnever wall
  refine ⟨floating, _, hstart, hstart', ?_⟩
  obtain ⟨hcursor, hopens⟩ := Run.opens_withEmptyLimit hstart limit
  change _ ∧ Run.toList ⟨(floating.withEmptyLimit limit).plan.readIn tzid clock,
    (floating.withEmptyLimit limit).cursor⟩ = _
  generalize floating.withEmptyLimit limit = run at hcursor hopens ⊢
  obtain ⟨plan, cursor⟩ := run
  obtain rfl : cursor = .before 0 := hcursor
  replace hopens : plan.Opens clocks pattern (.time wall .floating) := hopens
  have hC := hopens.canonical hwall
  obtain ⟨walls, gaveUp, hwalks⟩ := hC.exists_walks (.before 0)
  have hending : (failures (plan.ending gaveUp)).map .error = plan.ending gaveUp := by
    cases gaveUp <;> rfl
  have hjudged := (hopens.isEndless hnever).judged_readIn tzid clock (plan.ending gaveUp) walls 0
    none
  rw [hopens.anchor_eq] at hjudged
  rw [timeline_floating hopens hnever hwall hwalks, failures_floating hopens hnever hwall hwalks,
    hending]
  refine ⟨(hC.walks_pairwise hwalks).filter _, ?_⟩
  rw [toList_eq_judged (hC.readIn hopens.anchor_eq tzid clock)
    (hwalks.readIn hopens.anchor_eq tzid clock)]
  exact hjudged

theorem timeline_of_carried {run : Run} {clock : Clock} {tzid : String} {failures : List Failure}
    {walls : List Int} (h : run.toList = clock.carried tzid (failures.map .error) walls) :
    run.timeline = records none (clock.instants walls) := by
  have hinstances : run.toList = ((records none (clock.instants walls)).map
      (fun instant => (⟨.time (clock.toLocal instant) (.zoned tzid), ⟨instant, true⟩⟩ :
        Instance))).map .ok ++
      (match clock.failure? walls with
        | some error => [Failure.zone error]
        | none => failures).map .error := by
    rw [h, Clock.carried, List.map_map]
    cases clock.failure? walls <;> rfl
  have hnone : ∀ failures : List Failure,
      successes (failures.map (.error : Failure → Run.Item)) = [] := by
    intro failures
    induction failures with
    | nil => rfl
    | cons error rest ih => exact ih
  rw [timeline, hinstances, successes_append, successes_map_ok, hnone, List.append_nil,
    List.map_map]
  exact List.map_id _

/-- A rule without an end gives in a zone, each once, only instants of the readings
that it gives without one. It gives those of all readings that the clock keeps in
order, as a clock of one offset does, and one whose offsets change two days apart or
more while it moves none past another. -/
theorem zoned_timeline {resolver : Resolver} {tzid : String} {zone : TimeZone}
    (hzone : resolver.lookup tzid = .ok zone) {pattern : Pattern} (hnever : pattern.ending = .never)
    {wall : Int} (hwall : Representable wall) (limit : UInt32) :
    let clock := zone.clock resolver.database.clocks
    let offsetAt := zone.offsetAt resolver.database.clocks
    ∃ floating zoned, Run.start resolver.clocks pattern (.time wall .floating) = .ok floating ∧
      Run.start resolver.clocks pattern (.time wall (.zoned tzid)) = .ok zoned ∧
      let readings := (floating.withEmptyLimit limit).timeline
      let instants := (zoned.withEmptyLimit limit).timeline
      (zoned.withEmptyLimit limit).toList = clock.carried tzid
        ((failures (floating.withEmptyLimit limit).toList).map .error) readings ∧
      instants.Pairwise (· < ·) ∧ instants ⊆ clock.instants readings ∧
      (∀ taken, taken <+: readings → clock.KeepsOrder taken →
        clock.instants taken ⊆ instants) ∧
      ((∀ one other, offsetAt one = offsetAt other) → clock.KeepsOrder readings) ∧
      (Zone.IsSpaced offsetAt → ∀ taken,
        (∀ wall ∈ taken, firstSecond + 172800 ≤ wall ∧ wall ≤ lastSecond - 172800) →
        clock.MovesPastNone taken → clock.KeepsOrder taken) := by
  intro clock offsetAt
  have hclock : resolver.clocks tzid = .ok clock := by
    simp only [Resolver.clocks, hzone]
    rfl
  have hshows : clock.Shows offsetAt := zone.clock_shows _
  have hfirst : clock.TakesFirst offsetAt := zone.clock_takesFirst _
  obtain ⟨floating, zoned, hstart, hstart', hascends, hitems⟩ :=
    exists_zoned hclock hnever hwall limit
  have htimeline := timeline_of_carried hitems
  refine ⟨floating, zoned, hstart, hstart', hitems, ?_, ?_, ?_, ?_, ?_⟩
  · rw [htimeline]
    exact records_pairwise _ _
  · rw [htimeline]
    exact records_subset _ _
  · rintro taken ⟨later, hsplit⟩ horder instant hmem
    obtain ⟨rest, hrest⟩ := clock.instants_append taken later
    have htaken : taken.Pairwise (· < ·) := by
      rw [← hsplit] at hascends
      exact (List.pairwise_append.1 hascends).1
    rw [htimeline, ← hsplit, hrest]
    exact mem_records_of_pairwise (horder.instants_pairwise htaken) rest hmem (by simp)
  · exact fun hconst => hshows.keepsOrder_of_const hconst _
  · exact fun hs taken hinside hmoves =>
      hshows.keepsOrder_of_movesPastNone hfirst hs hinside hmoves

theorem zoned_timeline_fixed : ∃ floating zoned,
    Run.start (Resolver.empty Zone.Atlas.database).clocks (.ofFrequency .hourly)
      (.time 0 .floating) = .ok floating ∧
    Run.start (Resolver.empty Zone.Atlas.database).clocks (.ofFrequency .hourly)
      (.time 0 (.zoned "UTC+1")) = .ok zoned ∧
    ((TimeZone.system (.fixed "UTC+1" ⟨3600, by decide⟩)).clock
        Zone.Atlas.database.clocks).instants (floating.withEmptyLimit 1000).timeline ⊆
      (zoned.withEmptyLimit 1000).timeline := by
  have hzone : (Resolver.empty Zone.Atlas.database).lookup "UTC+1" =
      .ok (.system (.fixed "UTC+1" ⟨3600, by decide⟩)) := rfl
  have hnever : (Pattern.ofFrequency .hourly).ending = .never := rfl
  obtain ⟨floating, zoned, hstart, hstart', -, -, -, hall, hconst, -⟩ :=
    zoned_timeline hzone hnever (show Representable 0 by decide) 1000
  exact ⟨floating, zoned, hstart, hstart', hall _ List.prefix_rfl (hconst fun _ _ => rfl)⟩

end Run

section Gap
open Zone

/-- The onset of an hour that is skipped. -/
def onsetOfGap : Observance where
  kind := .daylight
  start := 7200
  offsetFrom := .utc
  offsetTo := ⟨3600, by decide⟩
  rule := none
  extra := []
  name := none

def zoneWithGap : VTimezone := ⟨"Gap", [onsetOfGap]⟩

def resolverWithGap : Resolver :=
  (Resolver.empty Zone.Atlas.database).register zoneWithGap

theorem offsetAt_zoneWithGap (clocks : Clocks) : zoneWithGap.offsetAt clocks =
    fun instant => if 7200 ≤ instant then onsetOfGap.offsetTo else .utc := by
  funext instant
  exact VTimezone.offsetAt_of_once clocks (o := onsetOfGap) rfl rfl rfl rfl instant

/-- The second reading is skipped and moves past the third. -/
theorem toUtc_zoneWithGap (clocks : Clocks) : zoneWithGap.toUtc clocks 6600 = .ok 6600 ∧
    zoneWithGap.toUtc clocks 9000 = .ok 9000 ∧ zoneWithGap.toUtc clocks 11400 = .ok 7800 := by
  unfold VTimezone.toUtc
  rw [offsetAt_zoneWithGap]
  exact ⟨rfl, rfl, rfl⟩

def everyFortyMinutes : Pattern :=
  { Pattern.ofFrequency .minutely with interval := 40, interval_pos := by decide }

def planEveryFortyMinutes : Plan where
  pattern := everyFortyMinutes
  anchor := .time 6600 .floating
  clock := none
  bound := none
  filter := .ofPattern everyFortyMinutes 0
  hours := []
  minutes := []
  seconds := []
  times := Plan.timeGrid [1] [50] [0]
  emptyLimit := Plan.defaultEmptyLimit
  resume := none
  horizon := none

theorem start_everyFortyMinutes (clocks : Clocks) :
    Run.start clocks everyFortyMinutes (.time 6600 .floating) =
      .ok ⟨planEveryFortyMinutes, .before 0⟩ := by
  cbv

theorem walks_everyFortyMinutes : ∃ rest gaveUp,
    planEveryFortyMinutes.Walks (.before 0) (6600 :: 9000 :: 11400 :: rest) gaveUp := by
  have hgo : ∀ step, planEveryFortyMinutes.givesUp (.before step) = false := by
    intro step
    rw [Bool.eq_false_iff, ne_eq, Plan.givesUp_iff, Plan.hasSpanned_iff]
    simp [Cursor.before, planEveryFortyMinutes, Plan.defaultEmptyLimit, defaultMaxEmptySteps]
  have hfirst : planEveryFortyMinutes.evaluate 0 = .candidates [6600] := by decide
  have hsecond : planEveryFortyMinutes.evaluate 1 = .candidates [9000] := by decide
  have hthird : planEveryFortyMinutes.evaluate 2 = .candidates [11400] := by decide
  have hyields : ∀ {step wall}, planEveryFortyMinutes.evaluate step = .candidates [wall] →
      planEveryFortyMinutes.yields step = [wall] := by
    intro step wall h
    rw [Plan.yields, h]
  have hC := (Run.opens (start_everyFortyMinutes resolverWithGap.clocks)).2.canonical (by decide)
  obtain ⟨rest, gaveUp, hrest⟩ := hC.exists_walks (.before 3)
  refine ⟨rest, gaveUp, ?_⟩
  have hwalks := Plan.Walks.yielded (hgo 2) (by simp [Cursor.before, hyields hthird]) hrest
  have hwalks := Plan.Walks.yielded (hgo 1) (by simp [Cursor.before, hyields hsecond]) hwalks
  have hwalks := Plan.Walks.yielded (hgo 0) (by simp [Cursor.before, hyields hfirst]) hwalks
  simpa [Cursor.before, hyields hfirst, hyields hsecond, hyields hthird] using hwalks

/-- A reading behind a gap is lost where one from the gap has moved past it. -/
theorem Run.not_zoned_timeline_gap : ∃ floating zoned,
    Run.start resolverWithGap.clocks everyFortyMinutes (.time 6600 .floating) = .ok floating ∧
    Run.start resolverWithGap.clocks everyFortyMinutes (.time 6600 (.zoned "Gap")) = .ok zoned ∧
    resolverWithGap.lookup "Gap" = .ok (.described zoneWithGap) ∧
    IsSpaced (zoneWithGap.offsetAt resolverWithGap.database.clocks) ∧
    zoneWithGap.toUtc resolverWithGap.database.clocks 11400 = .ok 7800 ∧
    11400 ∈ (floating.withEmptyLimit 1000).timeline ∧
    9000 ∈ (zoned.withEmptyLimit 1000).timeline ∧
    7800 ∉ (zoned.withEmptyLimit 1000).timeline := by
  have hzone : resolverWithGap.lookup "Gap" = .ok (.described zoneWithGap) := rfl
  have hclock : resolverWithGap.clocks "Gap" =
      .ok ⟨zoneWithGap.toUtc resolverWithGap.database.clocks,
        zoneWithGap.toLocal resolverWithGap.database.clocks⟩ := rfl
  have hnever : everyFortyMinutes.ending = .never := rfl
  have hwall : Representable 6600 := by decide
  obtain ⟨hfirst, hsecond, hthird⟩ := toUtc_zoneWithGap resolverWithGap.database.clocks
  obtain ⟨floating, zoned, hstart, hstart', -, hitems⟩ := exists_zoned hclock hnever hwall 1000
  obtain rfl : floating = ⟨planEveryFortyMinutes, .before 0⟩ :=
    Except.ok.inj (hstart.symm.trans (start_everyFortyMinutes _))
  obtain ⟨rest, gaveUp, hwalks⟩ := walks_everyFortyMinutes
  have hreadings := timeline_floating (Run.opens hstart).2 hnever hwall hwalks
  simp only [List.filter_cons, show (6600 : Int) ≤ 6600 by decide,
    show (6600 : Int) ≤ 9000 by decide, show (6600 : Int) ≤ 11400 by decide, decide_true,
    if_true] at hreadings
  have hinstants := timeline_of_carried hitems
  change (zoned.withEmptyLimit 1000).timeline = records none
    (Clock.instants _ (timeline ⟨planEveryFortyMinutes, .before 0⟩)) at hinstants
  rw [hreadings] at hinstants
  simp only [Clock.instants, hfirst, hsecond, hthird, records, Option.any_none, Option.any_some,
    Bool.false_eq_true, if_false, show ¬ (9000 : Int) ≤ 6600 by decide,
    show (7800 : Int) ≤ 9000 by decide, decide_false, decide_true, if_true] at hinstants
  refine ⟨_, zoned, hstart, hstart', hzone, ?_, hthird, ?_, ?_, ?_⟩
  · rw [offsetAt_zoneWithGap]
    exact isSpaced_of_once _ _ _
  · change 11400 ∈ timeline ⟨planEveryFortyMinutes, .before 0⟩
    simp [hreadings]
  · simp [hinstants]
  · rw [hinstants]
    intro hmem
    have hlate := lt_of_mem_records (((List.mem_cons.1 hmem).resolve_left (by decide) |>
      List.mem_cons.1).resolve_left (by decide)) 9000 rfl
    omega

end Gap
end Recurrence
