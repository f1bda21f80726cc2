import Mathlib
import Recurrence.Proofs.Rule.Ending
import Recurrence.Proofs.Zone.Transitions

/-! The latest onset beside all onsets of a zone. Two years are looked back first, and
everything only where these hold no onset; either way the latest one is found. Onsets
are told here without the wall clock that rules run on: up to a last moment in UTC
there are those of the rule without an end that are not past it. Zones move that moment
to the wall clock instead, which comes to the same unless it leaves the start of the
calendar. -/
namespace Recurrence
open Calendar Zone

namespace Run

variable {clocks : Clocks} {pattern : Pattern} {wall : Int}

theorem exists_start_of_never (clocks : Clocks) (pattern : Pattern) (wall : Int) :
    ∃ run, Run.start clocks (pattern.withEnding .never) (.time wall .floating) = .ok run := by
  have hclock : (DateTime.time wall .floating).clock? clocks = .ok none := rfl
  have htimed : ((pattern.withEnding .never).frequency.isSubDaily &&
      !(DateTime.time wall .floating).hasTime) = false := Bool.and_false _
  unfold Run.start Plan.of
  rw [htimed, hclock]
  exact ⟨_, rfl⟩

/-- On no clock a last moment keeps the instances of the endless rule up to it. -/
theorem mem_upTo_iff {run : Run} (hwall : Representable wall)
    (hstart : Run.start clocks (pattern.withEnding .never) (.time wall .floating) = .ok run)
    {last : DateTime} {key : TimelineKey}
    (hkey : ((DateTime.time wall .floating).readBy last).key clocks = .ok key) :
    ∃ ended, Run.start clocks (pattern.withEnding (.upTo (.dateTime last)))
        (.time wall .floating) = .ok ended ∧
      ∀ found, .ok found ∈ ended.toList ↔
        .ok found ∈ run.toList ∧ found.key.instant ≤ key.instant := by
  obtain ⟨hcursor, hopens⟩ := Run.opens hstart
  have hanchor : (DateTime.time wall .floating).InCalendar := hwall
  have hnear : run.plan.IsNear := Plan.isNear_of_clock (by simp [hopens.clock_eq_none rfl])
  have hbound := Plan.boundOf_dateTime (by rfl) hopens.clock_eq hkey
  have hmoment : (run.plan.ended (.upTo (.dateTime last))
      (some (.instant key.instant))).EndsAtMoment := by rintro day ⟨⟩
  have hkeeps := toList_upTo (hopens.isEndless rfl) (hopens.canonical hanchor) hnear hmoment
  rw [← hcursor] at hkeeps
  refine ⟨_, start_withEnding hstart hbound, fun found => ?_⟩
  rw [← mem_successes, hkeeps.instances, List.mem_filter, mem_successes]
  simp [Plan.isPastBound, Plan.ended]

theorem mem_toList_of_mem_yields {run : Run} (hwall : Representable wall)
    (hstart : Run.start clocks pattern (.time wall .floating) = .ok run)
    (hnever : pattern.ending = .never) (hdays : pattern.frequency.isSubDaily = false)
    {reading : Int} (hyields : reading ∈ run.plan.yields 0) (hle : wall ≤ reading) :
    .ok ((DateTime.time wall .floating).instanceAt reading) ∈ run.toList := by
  obtain ⟨hcursor, hopens⟩ := Run.opens hstart
  have hanchor : (DateTime.time wall .floating).InCalendar := hwall
  have hC := hopens.canonical hanchor
  obtain ⟨hcount, hbound, hresume, hhorizon⟩ := hopens.isEndless hnever
  have hfresh : run.plan.givesUp (.before 0) = false := by
    have hdays' : run.plan.frequency.isSubDaily = false := by
      rw [Plan.frequency, hopens.pattern_eq]
      exact hdays
    simp [Plan.givesUp, Plan.hasSpanned, Cursor.before, hdays']
  obtain ⟨walls, gaveUp, hrest⟩ := hC.exists_walks (.before 1)
  have hwalks : run.plan.Walks (.before 0) (run.plan.yields 0 ++ walls) gaveUp :=
    .yielded hfresh (List.ne_nil_of_mem hyields) hrest
  have htimed : ∀ v ∈ run.plan.yields 0 ++ walls,
      run.plan.anchor.hasTime = true ∨ secondOfDay v = 0 :=
    fun v _ => .inl (by rw [hopens.anchor_eq]; rfl)
  have hitems := toList_eq_judged hC hwalks
  rw [Plan.judged_endless hresume hhorizon hcount hbound (hopens.clock_eq_none rfl) _
    (hC.walks_pairwise hwalks) htimed (by simp), ← hcursor, hopens.anchor_eq] at hitems
  change run.toList = _ at hitems
  rw [hitems, List.mem_append, List.mem_map]
  refine .inl ⟨reading, List.mem_filter.2 ⟨List.mem_append_left _ hyields, ?_⟩, rfl⟩
  exact decide_eq_true hle

end Run

namespace Zone
namespace Observance

variable {clocks : Clocks} {o : Observance}

/-- Whether a rule has an onset at an instant, each of its instances being read under
the offset before. A last moment in UTC is one on the timeline of onsets. -/
def RuleComesAt (clocks : Clocks) (o : Observance) (pattern : Pattern) (onset : Int) : Prop :=
  match pattern.until? with
  | some (.dateTime (.time last .utc)) =>
    ∃ run, Run.start clocks (pattern.withEnding .never) (.time o.start .floating) = .ok run ∧
      (∃ found, .ok found ∈ run.toList ∧ o.onsetAt? found.value.wall = some onset) ∧ onset ≤ last
  | _ =>
    ∃ run, Run.start clocks pattern (.time o.start .floating) = .ok run ∧
      ∃ found, .ok found ∈ run.toList ∧ o.onsetAt? found.value.wall = some onset

/-- Whether an observance comes into effect at an instant: at its start, at an onset
listed, or at one of its rule. -/
def ComesAt (clocks : Clocks) (o : Observance) (onset : Int) : Prop :=
  (∃ wall ∈ o.start :: o.extra, o.onsetAt? wall = some onset) ∨
  ∃ pattern ∈ o.rule, o.RuleComesAt clocks pattern onset

/-- Whether the last moment of a rule in UTC has a reading before the onset that does
not lie before the calendar. -/
def KeepsUntil (o : Observance) : Prop :=
  ∀ pattern ∈ o.rule, ∀ last, pattern.until? = some (.dateTime (.time last .utc)) →
    firstSecond ≤ last + o.offsetFrom.seconds

theorem withEnding_of_until? {pattern : Pattern} {last : Until} (h : pattern.until? = some last) :
    pattern.withEnding (.upTo last) = pattern := by
  unfold Pattern.until? at h
  split at h
  · next heq =>
    obtain rfl := Option.some.inj h
    rw [← heq]
    rfl
  · simp at h

/-- On the wall clock a rule ends with a moment up to which it has the same onsets as
up to its last moment in UTC. -/
theorem exists_localUntil (clocks : Clocks) {pattern : Pattern} {last : Int}
    (huntil : pattern.until? = some (.dateTime (.time last .utc)))
    (hkept : firstSecond ≤ last + o.offsetFrom.seconds) :
    ∃ moved key, o.localPattern pattern = pattern.withEnding (.upTo (.dateTime moved)) ∧
      ((DateTime.time o.start .floating).readBy moved).key clocks = .ok key ∧
      ∀ wall, wall + 2 * 86400 ≤ lastSecond →
        (wall ≤ key.instant ↔ wall - o.offsetFrom.seconds ≤ last) := by
  have hday := o.offsetFrom.within_day
  by_cases hr : Representable (last + o.offsetFrom.seconds)
  · refine ⟨.time (last + o.offsetFrom.seconds) .floating, ⟨last + o.offsetFrom.seconds, true⟩,
      ?_, rfl, fun wall _ => ?_⟩
    · simp [localPattern, huntil, move?, hr]
    · dsimp only
      omega
  · refine ⟨.time last .utc, ⟨last, true⟩, ?_, rfl, fun wall hwall => ?_⟩
    · rw [withEnding_of_until? huntil]
      simp [localPattern, huntil, move?, hr]
    · -- The moment lies in the last day of the calendar or behind it.
      unfold Representable at hr
      dsimp only
      omega

theorem ruleComesAt_iff {instant onset : Int} (hstart : Representable o.start)
    (hinside : IsInside 3 instant) (hle : onset ≤ instant) {pattern : Pattern}
    (hkept : ∀ last, pattern.until? = some (.dateTime (.time last .utc)) →
      firstSecond ≤ last + o.offsetFrom.seconds) :
    o.RuleComesAt clocks pattern onset ↔ ∃ run,
      Run.start clocks (o.localPattern pattern) (.time o.start .floating) = .ok run ∧
      ∃ found, .ok found ∈ run.toList ∧ o.onsetAt? found.value.wall = some onset := by
  have hday := o.offsetFrom.within_day
  have hlate := hinside.2
  unfold RuleComesAt
  split
  · next last huntil =>
    obtain ⟨endless, hendless⟩ := Run.exists_start_of_never clocks pattern o.start
    obtain ⟨moved, key, hlocal, hkey, hmoment⟩ :=
      exists_localUntil clocks huntil (hkept last huntil)
    obtain ⟨ended, hended, hmem⟩ := Run.mem_upTo_iff hstart hendless hkey
    -- The last moment in UTC and the one on the wall clock admit the same onsets.
    have hupTo : ∀ found : Instance, .ok found ∈ endless.toList →
        o.onsetAt? found.value.wall = some onset →
        (found.key.instant ≤ key.instant ↔ onset ≤ last) := by
      intro found hfound honset
      obtain ⟨rfl, -⟩ := onsetAt?_eq_some_iff.1 honset
      rw [key_of_mem_toList hendless hfound]
      exact hmoment _ (by omega)
    rw [hlocal]
    constructor
    · rintro ⟨run, hrun, ⟨found, hfound, honset⟩, hlast⟩
      obtain rfl := Except.ok.inj (hendless.symm.trans hrun)
      exact ⟨ended, hended, found, (hmem found).2 ⟨hfound, (hupTo found hfound honset).2 hlast⟩,
        honset⟩
    · rintro ⟨run, hrun, found, hfound, honset⟩
      obtain rfl := Except.ok.inj (hended.symm.trans hrun)
      obtain ⟨hwhole, hkept⟩ := (hmem found).1 hfound
      exact ⟨endless, hendless, ⟨found, hwhole, honset⟩, (hupTo found hwhole honset).1 hkept⟩
  · next hother =>
    have hlocal : o.localPattern pattern = pattern := by
      unfold localPattern
      split
      · next last huntil => exact absurd huntil (hother last)
      · rfl
    rw [hlocal]

/-- Some days before the end of the calendar the onsets are those of the rule as it runs
on the wall clock. -/
theorem comesAt_iff_hasOnset {instant onset : Int} (hstart : Representable o.start)
    (hkept : o.KeepsUntil) (hinside : IsInside 3 instant) (hle : onset ≤ instant) :
    o.ComesAt clocks onset ↔ o.HasOnset clocks onset := by
  refine or_congr_right (exists_congr fun pattern => and_congr_right fun hrule => ?_)
  exact ruleComesAt_iff hstart hinside hle (hkept pattern hrule)

end Observance

namespace VTimezone

theorem getLast?_filter_eq_some {α : Type} {p : α → Bool} {l : List α} {a : α}
    (h : (l.filter p).getLast? = some a) :
    ∃ before behind, l = before ++ a :: behind ∧ p a = true ∧ ∀ b ∈ behind, p b = false := by
  rw [List.getLast?_eq_head?_reverse, ← List.filter_reverse, List.head?_filter] at h
  obtain ⟨hp, behind, before, hsplit, hbehind⟩ := List.find?_eq_some_iff_append.1 h
  refine ⟨before.reverse, behind.reverse, ?_, hp, fun b hb => ?_⟩
  · rw [← List.reverse_reverse l, hsplit]
    simp
  · simpa using hbehind b (List.mem_reverse.1 hb)

theorem exists_declaredLast {clocks : Clocks} {zone : VTimezone} {instant : Int}
    {comes : Observance → Int → Prop}
    (hlatest : ∀ o ∈ zone.observances, ∀ latest, o.latestOnset? clocks instant = some latest ↔
      IsGreatest {onset | comes o onset ∧ onset ≤ instant} latest)
    (hsome : ∃ o ∈ zone.observances, ∃ onset ≤ instant, comes o onset) :
    ∃ before o behind latest, zone.observances = before ++ o :: behind ∧
      IsGreatest {onset | (∃ other ∈ zone.observances, comes other onset) ∧ onset ≤ instant}
        latest ∧
      comes o latest ∧ (∀ other ∈ behind, ¬ comes other latest) ∧
      zone.offsetAt clocks instant = o.offsetTo := by
  obtain ⟨known, hmem, onset, hbefore, hcomes⟩ := hsome
  obtain ⟨latest, ⟨⟨o, ho, hon⟩, hle⟩, hgreatest⟩ := Int.exists_greatest_of_bdd
    (P := fun onset => (∃ other ∈ zone.observances, comes other onset) ∧ onset ≤ instant)
    ⟨instant, fun _ h => h.2⟩ ⟨onset, ⟨known, hmem, hcomes⟩, hbefore⟩
  have hhas : ∀ other ∈ zone.observances,
      (other.latestOnset? clocks instant = some latest ↔ comes other latest) := by
    intro other hother
    rw [hlatest other hother]
    exact ⟨fun h => h.1.1, fun h => ⟨⟨h, hle⟩, fun onset honset =>
      hgreatest onset ⟨⟨other, hother, honset.1⟩, honset.2⟩⟩⟩
  -- Of the observances with the latest onset a zone takes the last.
  cases hlast : (zone.observances.filter
      (·.latestOnset? clocks instant = some latest)).getLast? with
  | none =>
    rw [List.getLast?_eq_none_iff, List.filter_eq_nil_iff] at hlast
    exact absurd ((hhas o ho).2 hon) (by simpa using hlast o ho)
  | some chosen =>
    obtain ⟨before, behind, hsplit, hchosen, hbehind⟩ := getLast?_filter_eq_some hlast
    have hdeclared : ∀ other ∈ chosen :: behind, other ∈ zone.observances := by
      intro other hother
      rw [hsplit]
      exact List.mem_append_right _ hother
    refine ⟨before, chosen, behind, latest, hsplit, ⟨⟨⟨o, ho, hon⟩, hle⟩, fun _ h => hgreatest _ h⟩,
      (hhas chosen (hdeclared _ List.mem_cons_self)).1 (of_decide_eq_true hchosen),
      fun other hother hcomes => ?_, offsetAt_of_getLast? ?_ hlast⟩
    · have := (hhas other (hdeclared _ (List.mem_cons_of_mem _ hother))).2 hcomes
      exact absurd this (of_decide_eq_false (hbehind other hother))
    · intro other hother onset honset
      obtain ⟨⟨hcomes, hbefore⟩, -⟩ := (hlatest other hother onset).1 honset
      exact hgreatest onset ⟨⟨other, hother, hcomes⟩, hbefore⟩

/-- Three years inside the calendar the latest onset of an observance is the last of
all its onsets, although two years are looked through first; and where there is any
onset, the offset is that of the observance declared last among those with the latest
one. -/
theorem offsetAt_of_comesAt (clocks : Clocks) (zone : VTimezone)
    (hdaily : ∀ o ∈ zone.observances, o.IsDaily)
    (hkept : ∀ o ∈ zone.observances, o.KeepsUntil) {instant : Int}
    (hinside : IsInside 1095 instant)
    (hsome : ∃ o ∈ zone.observances, ∃ onset ≤ instant, o.ComesAt clocks onset) :
    (∀ o ∈ zone.observances,
      o.latestOnset? clocks instant = (o.onsets clocks none instant).getLast? ∧
      ∀ latest, o.latestOnset? clocks instant = some latest ↔
        IsGreatest {onset | o.ComesAt clocks onset ∧ onset ≤ instant} latest) ∧
    ∃ before o behind latest, zone.observances = before ++ o :: behind ∧
      IsGreatest {onset | (∃ other ∈ zone.observances, other.ComesAt clocks onset) ∧
        onset ≤ instant} latest ∧
      o.ComesAt clocks latest ∧ (∀ other ∈ behind, ¬ other.ComesAt clocks latest) ∧
      zone.offsetAt clocks instant = o.offsetTo := by
  obtain ⟨hlow, hhigh⟩ := hinside
  have hnear : IsInside 733 instant := ⟨by omega, by omega⟩
  have hlatest : ∀ o ∈ zone.observances, ∀ latest, o.latestOnset? clocks instant = some latest ↔
      IsGreatest {onset | o.ComesAt clocks onset ∧ onset ≤ instant} latest := by
    intro o ho latest
    have hsame : {onset | o.ComesAt clocks onset ∧ onset ≤ instant} =
        {onset | o.HasOnset clocks onset ∧ onset ≤ instant} := by
      ext onset
      exact and_congr_left fun hle => Observance.comesAt_iff_hasOnset (hdaily o ho).start_mem
        (hkept o ho) ⟨by omega, by omega⟩ hle
    rw [hsame, Observance.latestOnset?_eq_some_iff (hdaily o ho) hnear]
  refine ⟨fun o ho => ⟨Observance.latestOnset?_eq_getLast? (hdaily o ho) hnear, hlatest o ho⟩, ?_⟩
  exact exists_declaredLast hlatest hsome

end VTimezone
end Zone

/-- Every night at midnight and three, up to a last moment in UTC. -/
def nightly (last : Int) : Pattern :=
  { Pattern.ofFrequency .daily with
    ending := .upTo (.dateTime (.time last .utc))
    lists := { ByLists.empty with hours := [0, 3] }
    inRange := by constructor <;> simp [ByLists.empty]
    fits := by constructor <;> simp [ByLists.empty] }

namespace Zone.VTimezone

/-- Nights at which an hour of summer time begins, half a day behind UTC. -/
def nights (start last : Int) : Observance :=
  ⟨.standard, start, ⟨-43200, by decide⟩, .hourAhead, some (nightly last), [], none⟩

/-- Two hours of summer time from an hour after the first of these nights. -/
def afterFirstNight (start : Int) : Observance :=
  ⟨.daylight, start + 46800, .utc, ⟨7200, by decide⟩, none, [], none⟩

def nightlyFrom (start last : Int) : VTimezone where
  tzid := "Nightly"
  observances := [nights start last, afterFirstNight start]

theorem isDaily_nightlyFrom {start : Int} (last : Int) (hstart : Representable start)
    (hnext : Representable (start + 46800)) :
    ∀ o ∈ (nightlyFrom start last).observances, o.IsDaily := by
  simp only [nightlyFrom, List.forall_mem_cons, List.not_mem_nil, IsEmpty.forall_iff,
    implies_true, and_true]
  exact ⟨⟨hstart, by rintro _ ⟨⟩; rfl⟩, ⟨hnext, by rintro _ ⟨⟩⟩⟩

/-- The offset of 1973 where the last moment has a reading. -/
theorem offsetAt_of_comesAt_nightlyFrom :
    ∃ before o behind latest, (nightlyFrom 0 54000).observances = before ++ o :: behind ∧
      IsGreatest {onset | (∃ other ∈ (nightlyFrom 0 54000).observances,
        other.ComesAt Atlas.database.clocks onset) ∧ onset ≤ 100000000} latest ∧
      o.ComesAt Atlas.database.clocks latest ∧
      (∀ other ∈ behind, ¬ other.ComesAt Atlas.database.clocks latest) ∧
      (nightlyFrom 0 54000).offsetAt Atlas.database.clocks 100000000 = o.offsetTo := by
  have hdaily := isDaily_nightlyFrom 54000 (show Representable 0 by decide) (by decide)
  have hkept : ∀ o ∈ (nightlyFrom 0 54000).observances, o.KeepsUntil := by
    simp only [nightlyFrom, List.forall_mem_cons, List.not_mem_nil, IsEmpty.forall_iff,
      implies_true, and_true]
    refine ⟨?_, by rintro _ ⟨⟩⟩
    rintro _ ⟨⟩ last huntil
    cases huntil
    decide
  have hinside : IsInside 1095 100000000 := ⟨by decide, by decide⟩
  have hsome : ∃ o ∈ (nightlyFrom 0 54000).observances, ∃ onset ≤ 100000000,
      o.ComesAt Atlas.database.clocks onset :=
    ⟨_, List.mem_cons_self, 43200, by decide, .inl ⟨0, List.mem_cons_self, by decide⟩⟩
  exact (offsetAt_of_comesAt Atlas.database.clocks _ hdaily hkept hinside hsome).2

theorem mem_toList_nightly {clocks : Clocks} {last : Int} {run : Run}
    (hstart : Run.start clocks ((nightly last).withEnding .never) (.time firstSecond .floating) =
      .ok run) :
    .ok ((DateTime.time firstSecond .floating).instanceAt (firstSecond + 10800)) ∈ run.toList := by
  obtain ⟨-, hopens⟩ := Run.opens hstart
  have hanchor : (DateTime.time firstSecond .floating).InCalendar := by decide
  have hC := hopens.canonical hanchor
  have hdaily : run.plan.frequency = .daily := by rw [Plan.frequency, hopens.pattern_eq]; rfl
  have hdays : run.plan.frequency.isSubDaily = false := by rw [hdaily]; rfl
  have hzero : run.plan.stepStart 0 = firstSecond := by
    simp only [Plan.stepStart, Plan.unitStart, hdaily, hopens.anchor_eq, Plan.number,
      Nat.cast_zero, zero_mul]
    decide
  have hoffers : run.plan.Offers 0 (firstSecond + 10800) := by
    refine ⟨?_, ?_, ?_, .inr (by decide)⟩
    · simp only [Plan.unitOf, hdaily, hopens.anchor_eq, Plan.number, Nat.cast_zero, zero_mul]
      decide
    · rw [hopens.filter_eq]
      exact show (DayFilter.ofPattern (nightly 0) firstDay).accepts _ = true by decide
    · have hhour : hourOf (firstSecond + 10800) = 3 := by decide
      rw [hopens.pattern_eq, hopens.anchor_eq]
      simp [Pattern.timeFits, fieldFits, DateTime.hasTime, nightly, ByLists.empty,
        Pattern.withEnding, Pattern.ofFrequency, hhour]
      decide
  have hyields : firstSecond + 10800 ∈ run.plan.yields 0 := by
    have hr : Representable (run.plan.stepStart 0) := by rw [hzero]; decide
    have hstop := Plan.isPastStop_eq_false (hopens.bound_eq_none rfl) hopens.horizon_eq
      (run.plan.stepStart 0)
    have hmiss : run.plan.miss? (run.plan.stepStart 0) = none := by simp [Plan.miss?, hdays]
    have hnone : run.plan.pattern.lists.positions = [] := by rw [hopens.pattern_eq]; rfl
    rw [Plan.yields_eq, if_pos ⟨hr, hstop, hmiss⟩, hnone]
    exact (hC.mem_offered_days hdays hr).2 hoffers
  exact Run.mem_toList_of_mem_yields (by decide) hstart rfl rfl hyields (by decide)

/-- Up to a moment whose reading lies before the calendar, nights end with that moment
on the wall clock: half a day late. -/
theorem isGreatest_hasOnset_nights (clocks : Clocks) :
    IsGreatest {onset | (nights firstSecond (firstSecond + 10800)).HasOnset clocks onset ∧
      onset ≤ 1700000000} (firstSecond + 54000) := by
  have hlocal : (nights firstSecond (firstSecond + 10800)).localPattern
      (nightly (firstSecond + 10800)) = ((nightly 0).withEnding .never).withEnding
        (.upTo (.dateTime (.time (firstSecond + 10800) .utc))) := by
    have hout : ¬ Representable (firstSecond + 10800 + -43200) := by decide
    have huntil : (nightly (firstSecond + 10800)).until? =
        some (.dateTime (.time (firstSecond + 10800) .utc)) := rfl
    simp only [Observance.localPattern, huntil, nights, move?, hout, if_false]
    rfl
  obtain ⟨endless, hendless⟩ := Run.exists_start_of_never clocks (nightly 0) firstSecond
  obtain ⟨ended, hended, hmem⟩ := Run.mem_upTo_iff (by decide) hendless
    (show ((DateTime.time firstSecond .floating).readBy (.time (firstSecond + 10800) .utc)).key
      clocks = .ok ⟨firstSecond + 10800, true⟩ from rfl)
  constructor
  · refine ⟨.inr ⟨_, rfl, ended, hlocal ▸ hended, _,
      (hmem _).2 ⟨mem_toList_nightly hendless, le_rfl⟩, ?_⟩, by decide⟩
    rw [Observance.onsetAt?_eq_some_iff]
    decide
  · rintro onset ⟨⟨wall, hw, honset⟩ | ⟨_, ⟨⟩, run, hrun, found, hfound, honset⟩, -⟩
    · obtain ⟨rfl, -⟩ := Observance.onsetAt?_eq_some_iff.1 honset
      rw [List.mem_singleton.1 hw]
      decide
    · obtain ⟨rfl, -⟩ := Observance.onsetAt?_eq_some_iff.1 honset
      have hwall := Observance.key_of_mem_toList hrun hfound
      rw [hlocal] at hrun
      obtain rfl := Except.ok.inj (hended.symm.trans hrun)
      have hlast := ((hmem found).1 hfound).2
      simp only [nights] at hlast ⊢
      omega

theorem comesAt_nights {clocks : Clocks} {onset : Int}
    (h : (nights firstSecond (firstSecond + 10800)).ComesAt clocks onset) :
    onset = firstSecond + 43200 := by
  rcases h with ⟨wall, hw, honset⟩ | ⟨_, ⟨⟩, run, hrun, ⟨found, hfound, honset⟩, hlast⟩
  · obtain ⟨rfl, -⟩ := Observance.onsetAt?_eq_some_iff.1 honset
    rw [List.mem_singleton.1 hw]
    decide
  · -- An instance lies half a day behind its reading, and so behind the last moment.
    obtain ⟨rfl, -⟩ := Observance.onsetAt?_eq_some_iff.1 honset
    have hlow := Run.le_of_mem_toList (show Representable firstSecond by decide) hrun hfound
    rw [Observance.key_of_mem_toList hrun hfound] at hlow
    simp only [nights] at hlast ⊢
    omega

theorem onset_afterFirstNight {start onset : Int}
    (h : ∃ wall ∈ (afterFirstNight start).start :: (afterFirstNight start).extra,
      (afterFirstNight start).onsetAt? wall = some onset) : onset = start + 46800 := by
  obtain ⟨wall, hw, honset⟩ := h
  obtain ⟨rfl, -⟩ := Observance.onsetAt?_eq_some_iff.1 honset
  rw [List.mem_singleton.1 hw]
  simp [afterFirstNight, Offset.utc]

theorem latestOnset?_nights {clocks : Clocks} :
    (nights firstSecond (firstSecond + 10800)).latestOnset? clocks (1700000000 : Int) =
      some (firstSecond + 54000) := by
  have hdaily : (nights firstSecond (firstSecond + 10800)).IsDaily :=
    ⟨by decide, by rintro _ ⟨⟩; rfl⟩
  have hnear : IsInside 733 1700000000 := ⟨by decide, by decide⟩
  exact (Observance.latestOnset?_eq_some_iff hdaily hnear).2 (isGreatest_hasOnset_nights clocks)

theorem le_of_latestOnset?_afterFirstNight {clocks : Clocks} {onset : Int}
    (h : (afterFirstNight firstSecond).latestOnset? clocks (1700000000 : Int) = some onset) :
    onset ≤ firstSecond + 46800 := by
  have hdaily : (afterFirstNight firstSecond).IsDaily := ⟨by decide, by rintro _ ⟨⟩⟩
  have hnear : IsInside 733 1700000000 := ⟨by decide, by decide⟩
  obtain ⟨⟨hlisted | ⟨_, ⟨⟩, -⟩, -⟩, -⟩ :=
    (Observance.latestOnset?_eq_some_iff hdaily hnear).1 h
  exact (onset_afterFirstNight hlisted).le

theorem offsetAt_nightlyFrom_eq {clocks : Clocks} :
    (nightlyFrom firstSecond (firstSecond + 10800)).offsetAt clocks 1700000000 = .hourAhead := by
  have hle : ∀ o ∈ (nightlyFrom firstSecond (firstSecond + 10800)).observances,
      ∀ onset ∈ o.latestOnset? clocks (1700000000 : Int), onset ≤ firstSecond + 54000 := by
    intro o ho onset honset
    rcases List.mem_pair.1 ho with rfl | rfl
    · exact (Option.some.inj (latestOnset?_nights.symm.trans honset)).ge
    · have := le_of_latestOnset?_afterFirstNight honset
      omega
  have hlast : ((nightlyFrom firstSecond (firstSecond + 10800)).observances.filter
      (·.latestOnset? clocks (1700000000 : Int) = some (firstSecond + 54000))).getLast? =
        some (nights firstSecond (firstSecond + 10800)) := by
    have hother : (afterFirstNight firstSecond).latestOnset? clocks (1700000000 : Int) ≠
        some (firstSecond + 54000) := fun h =>
      absurd (le_of_latestOnset?_afterFirstNight h) (by decide)
    simp [nightlyFrom, latestOnset?_nights, hother]
  exact offsetAt_of_getLast? hle hlast

/-- At the start of the calendar the nights stay in effect, although they have ended
before the other observance begins. -/
theorem offsetAt_nightlyFrom_firstSecond :
    (∀ o ∈ (nightlyFrom firstSecond (firstSecond + 10800)).observances, o.IsDaily) ∧
    IsInside 1095 1700000000 ∧
    IsGreatest {onset | (∃ o ∈ (nightlyFrom firstSecond (firstSecond + 10800)).observances,
      o.ComesAt Atlas.database.clocks onset) ∧ onset ≤ 1700000000} (firstSecond + 46800) ∧
    (afterFirstNight firstSecond).ComesAt Atlas.database.clocks (firstSecond + 46800) ∧
    ¬ (nights firstSecond (firstSecond + 10800)).ComesAt Atlas.database.clocks
      (firstSecond + 46800) ∧
    (nightlyFrom firstSecond (firstSecond + 10800)).offsetAt Atlas.database.clocks 1700000000 =
      .hourAhead ∧
    (afterFirstNight firstSecond).offsetTo ≠ .hourAhead := by
  have hdaily := isDaily_nightlyFrom (firstSecond + 10800) (show Representable firstSecond by decide)
    (by decide)
  have hcomes : (afterFirstNight firstSecond).ComesAt Atlas.database.clocks (firstSecond + 46800) :=
    .inl ⟨_, List.mem_cons_self, by decide⟩
  refine ⟨hdaily, ⟨by decide, by decide⟩, ⟨⟨⟨_, by simp [nightlyFrom], hcomes⟩, by decide⟩, ?_⟩,
    hcomes, fun h => absurd (comesAt_nights h) (by decide), offsetAt_nightlyFrom_eq, by decide⟩
  rintro onset ⟨⟨o, ho, h⟩, -⟩
  rcases List.mem_pair.1 ho with rfl | rfl
  · have := comesAt_nights h
    omega
  · rcases h with hlisted | ⟨_, ⟨⟩, -⟩
    exact (onset_afterFirstNight hlisted).le

end Zone.VTimezone
end Recurrence
