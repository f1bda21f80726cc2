import Mathlib
import Recurrence.Proofs.Period.Order

/-! The two forms of a period. The time that elapses until an end is split into whole
days and a rest; added to the start again, the days move the wall clock and only the
rest moves the instant. So the end is met again where the days take as long on the
clock as they have seconds. -/
namespace Recurrence
open Calendar Zone

namespace Clock.Shows

variable {clock : Clock} {offsetAt : Int → Offset} (h : clock.Shows offsetAt)
  {wall instant days : Int} (hi : clock.toUtc wall = .ok instant) (hdays : 0 ≤ days)
include h hi hdays

theorem toUtc_add_of_const (hconst : ∀ one other, offsetAt one = offsetAt other)
    (hr : Representable (instant + days * 86400)) :
    clock.toUtc (wall + days * 86400) = .ok (instant + days * 86400) := by
  have hwall := h.toUtc_of_const hconst hi (instant + days * 86400)
  obtain ⟨earlier, -, hto⟩ := h.toUtc_le hi
    (show instant ≤ instant + days * 86400 by omega) hr
  have hwall' := h.toUtc_of_const hconst hto (instant + days * 86400)
  obtain rfl : earlier = instant + days * 86400 := by omega
  rw [← hto]
  congr 1
  omega

/-- Days behind a reading there is an instant, two days and more inside the calendar. -/
theorem toUtc_add_inside (hw : firstSecond ≤ wall)
    (hend : instant + days * 86400 ≤ lastSecond - 172800) :
    Representable (wall + days * 86400) ∧
      ∃ moved, clock.toUtc (wall + days * 86400) = .ok moved := by
  have hnear := h.isNear _ _ hi
  refine ⟨by unfold Representable; omega, ?_⟩
  rcases eq_or_lt_of_le hdays with rfl | hpos
  · exact ⟨instant, by rw [zero_mul, add_zero]; exact hi⟩
  · have := (offsetAt (wall + days * 86400 - 86400)).within_day
    apply h.toUtc_ok
    all_goals
      unfold Representable
      omega

end Clock.Shows

theorem DateTime.representable_toUtc {resolver : Resolver} {value : DateTime} {instant : Int}
    (hA : value.InCalendar) (h : value.toUtc resolver.clocks = .ok instant) :
    Representable instant := by
  cases hform : value.form with
  | zoned tzid =>
    obtain ⟨clock, hclock⟩ := exists_clock hform h
    obtain ⟨zone, -, rfl⟩ := Resolver.clocks_eq_ok_iff.1 hclock
    rw [toUtc_zoned hform hclock] at h
    exact ((zone.clock_shows _).of_toUtc h).1
  | _ =>
    rw [toUtc_unzoned (tzid?_eq_none_iff.2 fun tzid => by simp [hform]), Except.ok.injEq] at h
    exact h ▸ hA

namespace Period

/-- Whether a period ends at an instant. -/
def EndsAt (clocks : Clocks) (period : Period) (instant : Int) : Prop :=
  ∃ last, period.effectiveEnd clocks = .ok last ∧ last.toUtc clocks = .ok instant

section

variable {clocks : Clocks} {start stop : DateTime} {period other : Period} {duration : Duration}
  {first last : Int}

/-- An end within the calendar gives a duration, which may follow the start if the end
is not before it. -/
theorem exists_effectiveDuration (hA : start.InCalendar) (hB : stop.InCalendar)
    (hkind : start.hasTime = stop.hasTime) (hfirst : start.toUtc clocks = .ok first)
    (hlast : stop.toUtc clocks = .ok last) (hr : Representable first) (hr' : Representable last)
    (hle : first ≤ last) : ∃ duration,
      effectiveDuration clocks ⟨start, .upTo stop⟩ = .ok duration ∧
        durationError? start duration = none := by
  -- What may refuse the duration is a sign or, behind a DATE, a time.
  have haccepted : ∀ duration, effectiveDuration clocks ⟨start, .upTo stop⟩ = .ok duration →
      (start.hasTime = false → duration.hasTime = false) →
        durationError? start duration = none := by
    intro duration hd htime
    refine durationError?_eq_none_iff.2 ⟨Bool.eq_false_iff.2 fun hn => ?_, htime⟩
    have htotal := totalSeconds_effectiveDuration hkind hfirst hlast hd
    have := Duration.isNegative_iff.1 hn
    omega
  cases start with
  | date day =>
    cases stop with
    | time wall form => cases hkind
    | date other =>
      have hfits : (other - day).natAbs < 4294967296 := by
        have : lastSecond - firstSecond < 4294967296 * 86400 := by decide
        change Representable (midnight day) at hA
        change Representable (midnight other) at hB
        unfold Representable midnight at hA hB
        omega
      obtain ⟨duration, hd⟩ := Duration.exists_ofParts_days hfits
      have hd' : effectiveDuration clocks ⟨.date day, .upTo (.date other)⟩ = .ok duration :=
        orInvalid_eq_ok_iff.2 hd
      exact ⟨duration, hd', haccepted duration hd' fun _ => (Duration.of_ofParts_days hd).2.2⟩
  | time wall form =>
    obtain ⟨duration, hd⟩ := Duration.exists_ofElapsed hr hr'
    have hd' := (effectiveDuration_time hfirst hlast).2 hd
    exact ⟨duration, hd', haccepted duration hd' fun hdate => by cases hdate⟩

theorem add_effectiveDuration_unzoned (hA : start.InCalendar) (hB : stop.InCalendar)
    (hkind : start.hasTime = stop.hasTime) (hform : start.form = stop.form)
    (hzone : start.tzid? = none) (hle : start.wall ≤ stop.wall)
    (hd : effectiveDuration clocks ⟨start, .upTo stop⟩ = .ok duration)
    (hok : durationError? start duration = none) : start.add clocks duration = .ok stop := by
  obtain ⟨hdays, hseconds, -⟩ := of_durationError? hok
  have htotal := totalSeconds_effectiveDuration hkind (DateTime.toUtc_unzoned hzone)
    (DateTime.toUtc_unzoned ((DateTime.tzid?_congr hform).symm.trans hzone)) hd
  unfold Duration.totalSeconds at htotal
  unfold DateTime.InCalendar Representable at hA hB
  rw [DateTime.add_eq_addBy (DateTime.clock?_unzoned hzone)]
  cases start with
  | date day =>
    cases stop with
    | time wall form => cases hkind
    | date other =>
      obtain ⟨hdays', -, htime⟩ := Duration.of_ofParts_days (orInvalid_eq_ok_iff.1 hd)
      have hsum : midnight day + duration.nominalDays * 86400 = midnight other := by
        rw [hdays']
        dsimp only [DateTime.day, midnight]
        omega
      rw [DateTime.addBy_date htime, hsum, dayOf_midnight]
      exact ⟨hB, rfl⟩
  | time wall form =>
    cases stop with
    | date other => cases hkind
    | time wall' form' =>
      obtain rfl : form = form' := hform
      dsimp only [DateTime.wall] at htotal hA hB hle
      refine DateTime.addBy_unzoned.2 ⟨⟨by omega, by omega⟩, ⟨by omega, by omega⟩, ?_⟩
      congr 1
      omega

variable {tzid : String} {clock : Clock} {offsetAt : Int → Offset}
  (hzone : start.form = .zoned tzid) (hclock : clocks tzid = .ok clock)
  (hshows : clock.Shows offsetAt) (htotal : duration.totalSeconds = last - first)
include hzone hclock hshows htotal

theorem add_effectiveDuration_of_const (hconst : ∀ one other, offsetAt one = offsetAt other)
    (hdays : 0 ≤ duration.nominalDays) (hseconds : 0 ≤ duration.exactSeconds)
    (hA : start.InCalendar) (hB : stop.InCalendar) (hform : stop.form = .zoned tzid)
    (hfirst : clock.toUtc start.wall = .ok first) (hlast : clock.toUtc stop.wall = .ok last) :
    start.add clocks duration = .ok stop := by
  have hwall := hshows.toUtc_of_const hconst hfirst last
  have hwall' := hshows.toUtc_of_const hconst hlast last
  have hr := (hshows.of_toUtc hfirst).1
  have hr' := (hshows.of_toUtc hlast).1
  unfold Duration.totalSeconds at htotal
  have hmoved : first + duration.nominalDays * 86400 + duration.exactSeconds = last := by omega
  have hstop : Representable (last + (offsetAt last).seconds) := hwall' ▸ hB
  unfold DateTime.InCalendar at hA hB
  rw [DateTime.add_zoned hzone hclock]
  refine ⟨?_, _, hshows.toUtc_add_of_const hfirst hdays hconst ?_, hmoved.symm ▸ hr', ?_⟩
  · unfold Representable at hA hB ⊢
    omega
  · unfold Representable at hr hr' ⊢
    omega
  · rw [hmoved, hshows.toLocal_eq_add hstop, ← hwall']
    cases stop with
    | date day => cases hform
    | time wall form => exact congrArg _ hform

variable (htakes : clock.TakesFirst offsetAt) (hinside : IsInside 2 last) {moved : Int}
  (hmoved : clock.toUtc (start.wall + duration.nominalDays * 86400) = .ok moved)
include htakes hinside hmoved

/-- The duration leads to the instant of the end if its days take as long on the clock
as they have seconds. -/
theorem endsAt_of_moved (hs : Zone.IsSpaced offsetAt)
    (hr' : Representable (start.wall + duration.nominalDays * 86400)) {wall : Int}
    (hlast : clock.toUtc wall = .ok last) (heq : moved = first + duration.nominalDays * 86400) :
    EndsAt clocks ⟨start, .lasting duration⟩ last := by
  unfold Duration.totalSeconds at htotal
  unfold IsInside at hinside
  have hend : moved + duration.exactSeconds = last := by omega
  refine ⟨_, (DateTime.add_zoned hzone hclock).2
    ⟨hr', moved, hmoved, hend.symm ▸ (hshows.of_toUtc hlast).1, rfl⟩, ?_⟩
  rw [DateTime.toUtc_zoned rfl hclock, hend]
  exact hshows.toUtc_toLocal htakes hs hlast (by omega) (by omega)

/-- Only then does it, or because the reading of its end has been shown before. -/
theorem moved_of_endsAt (h : EndsAt clocks ⟨start, .lasting duration⟩ last) :
    moved = first + duration.nominalDays * 86400 ∨
      Zone.Repeats offsetAt (moved + duration.exactSeconds) := by
  by_contra hne
  rw [not_or] at hne
  obtain ⟨sum, hsum, hto⟩ := h
  obtain ⟨-, moved', hmoved', hr', rfl⟩ := (DateTime.add_zoned hzone hclock).1 hsum
  obtain rfl := Except.ok.inj (hmoved.symm.trans hmoved')
  rw [DateTime.toUtc_zoned rfl hclock] at hto
  have := hshows.eq_of_toUtc_toLocal htakes hr' hne.2 hto hinside
  unfold Duration.totalSeconds at htotal
  omega

end

/-- The form with an end and the form with a duration agree without a zone and in the
zone of one offset. Where offset changes lie two days apart they agree if the whole days
of the duration take as long on the clock as they have seconds, as they do when there
are none; and only then, unless the clock has shown the end before. This is about ends in
whole seconds, also without a zone: no duration has parts of a second, so that one taken
up to an end between two seconds leaves them out. -/
theorem effectiveEnd_of_effectiveDuration {resolver : Resolver} {start stop : DateTime}
    {period : Period} {first last : Int} (hA : start.InCalendar) (hB : stop.InCalendar)
    (hperiod : withEnd start stop = .ok period) (hfirst : start.toUtc resolver.clocks = .ok first)
    (hlast : stop.toUtc resolver.clocks = .ok last) (hle : first ≤ last) :
    ∃ duration other, period.effectiveDuration resolver.clocks = .ok duration ∧
      withDuration start duration = .ok other ∧
      (start.tzid? = none → other.effectiveEnd resolver.clocks = .ok stop) ∧
      ∀ tzid zone, start.form = .zoned tzid → resolver.lookup tzid = .ok zone →
        ((∀ one other, zone.offsetAt resolver.database.clocks one =
            zone.offsetAt resolver.database.clocks other) →
          other.effectiveEnd resolver.clocks = .ok stop) ∧
        (Zone.IsSpaced (zone.offsetAt resolver.database.clocks) → IsInside 2 last →
          ∃ moved, zone.toUtc resolver.database.clocks
              (start.wall + duration.nominalDays * 86400) = .ok moved ∧
            (last < first + 86400 → moved = first + duration.nominalDays * 86400) ∧
            (moved = first + duration.nominalDays * 86400 →
              other.EndsAt resolver.clocks last) ∧
            (other.EndsAt resolver.clocks last →
              moved = first + duration.nominalDays * 86400 ∨
                Zone.Repeats (zone.offsetAt resolver.database.clocks)
                  (moved + duration.exactSeconds))) := by
  obtain ⟨hkind, hform, hwalls, rfl⟩ := withEnd_eq_ok_iff.1 hperiod
  have hr := DateTime.representable_toUtc hA hfirst
  have hr' := DateTime.representable_toUtc hB hlast
  obtain ⟨duration, hd, hok⟩ := exists_effectiveDuration hA hB hkind hfirst hlast hr hr' hle
  obtain ⟨hdays, hseconds, -⟩ := of_durationError? hok
  have htotal := totalSeconds_effectiveDuration hkind hfirst hlast hd
  refine ⟨duration, _, hd, withDuration_eq_ok_iff.2 ⟨hok, rfl⟩,
    fun hzone => add_effectiveDuration_unzoned hA hB hkind hform hzone hwalls hd hok,
    fun tzid zone hzone hlookup => ?_⟩
  have hclock := Resolver.clocks_eq_ok_iff.2 ⟨zone, hlookup, rfl⟩
  have hshows := zone.clock_shows resolver.database.clocks
  have htakes := zone.clock_takesFirst resolver.database.clocks
  rw [DateTime.toUtc_zoned hzone hclock] at hfirst
  rw [DateTime.toUtc_zoned (hform ▸ hzone) hclock] at hlast
  refine ⟨fun hconst => add_effectiveDuration_of_const hzone hclock hshows htotal hconst hdays
    hseconds hA hB (hform ▸ hzone) hfirst hlast, fun hs hinside => ?_⟩
  have hparts : duration.nominalDays * 86400 + duration.exactSeconds = last - first := htotal
  have hend : first + duration.nominalDays * 86400 ≤ lastSecond - 172800 := by
    have := hinside.2
    omega
  obtain ⟨hrwall, moved, hmoved⟩ := hshows.toUtc_add_inside hfirst hdays hA.1 hend
  refine ⟨moved, hmoved, fun hshort => ?_,
    endsAt_of_moved hzone hclock hshows htotal htakes hinside hmoved hs hrwall hlast,
    moved_of_endsAt hzone hclock hshows htotal htakes hinside hmoved⟩
  have hzero : duration.nominalDays = 0 := by omega
  rw [hzero, zero_mul, add_zero] at hmoved ⊢
  exact Except.ok.inj (hmoved.symm.trans hfirst)

/-- From midnight until 03:10 no whole day elapses, so the skipped hour does not count. -/
theorem effectiveEnd_of_effectiveDuration_morning : ∃ period duration other,
    withEnd (.time 0 (.zoned "Once")) (.time 11400 (.zoned "Once")) = .ok period ∧
    period.effectiveDuration (Resolver.knowing VTimezone.skippingHour).clocks = .ok duration ∧
    withDuration (.time 0 (.zoned "Once")) duration = .ok other ∧
    (DateTime.time 11400 (.zoned "Once")).toUtc
      (Resolver.knowing VTimezone.skippingHour).clocks = .ok 7800 ∧
    other.EndsAt (Resolver.knowing VTimezone.skippingHour).clocks 7800 := by
  have hlast := DateTime.toUtc_skippingHour 11400
  obtain ⟨duration, other, hd, hother, -, hzoned⟩ := effectiveEnd_of_effectiveDuration
    (show (DateTime.time 0 (.zoned "Once")).InCalendar by decide)
    (show (DateTime.time 11400 (.zoned "Once")).InCalendar by decide)
    (show withEnd (.time 0 (.zoned "Once")) (.time 11400 (.zoned "Once")) =
      .ok ⟨.time 0 (.zoned "Once"), .upTo (.time 11400 (.zoned "Once"))⟩ from rfl)
    (DateTime.toUtc_skippingHour 0) hlast (show (0 : Int) ≤ 7800 by decide)
  obtain ⟨moved, -, hshort, hends, -⟩ := (hzoned "Once" (.described VTimezone.skippingHour) rfl
    rfl).2 (VTimezone.isSpaced_skippingHour _) ⟨by decide, by decide⟩
  exact ⟨_, duration, other, rfl, hd, hother, hlast, hends (hshort (by decide))⟩

/-- A day and four hours elapse from midnight until 05:00 on the next day, an hour of
which is skipped; from midnight on they end at 04:00. -/
theorem not_effectiveEnd_of_effectiveDuration : ∃ period duration other,
    withEnd (.time 0 (.zoned "Once")) (.time 104400 (.zoned "Once")) = .ok period ∧
    Zone.IsSpaced (VTimezone.skippingHour.offsetAt Atlas.database.clocks) ∧
    (DateTime.time 0 (.zoned "Once")).toUtc
      (Resolver.knowing VTimezone.skippingHour).clocks = .ok 0 ∧
    (DateTime.time 104400 (.zoned "Once")).toUtc
      (Resolver.knowing VTimezone.skippingHour).clocks = .ok 100800 ∧
    period.effectiveDuration (Resolver.knowing VTimezone.skippingHour).clocks = .ok duration ∧
    withDuration (.time 0 (.zoned "Once")) duration = .ok other ∧
    other.effectiveEnd (Resolver.knowing VTimezone.skippingHour).clocks =
      .ok (.time 100800 (.zoned "Once")) ∧
    (DateTime.time 100800 (.zoned "Once")).toUtc
      (Resolver.knowing VTimezone.skippingHour).clocks = .ok 97200 := by
  have hfirst := DateTime.toUtc_skippingHour 0
  have hlast := DateTime.toUtc_skippingHour 104400
  have hmoved := (DateTime.toUtc_zoned rfl Resolver.clocks_changingOnce).symm.trans
    (DateTime.toUtc_skippingHour 86400)
  have hshown : VTimezone.skippingHour.toLocal Atlas.database.clocks 97200 = 100800 := by
    rw [VTimezone.toLocal, VTimezone.offsetAt_skippingHour]
    rfl
  refine ⟨⟨.time 0 (.zoned "Once"), .upTo (.time 104400 (.zoned "Once"))⟩, ⟨false, 0, 1, 4, 0, 0⟩,
    ⟨.time 0 (.zoned "Once"), .lasting ⟨false, 0, 1, 4, 0, 0⟩⟩, rfl,
    VTimezone.isSpaced_skippingHour _, hfirst, hlast, (effectiveDuration_time hfirst hlast).2 rfl,
    rfl, ?_, DateTime.toUtc_skippingHour 100800⟩
  refine (DateTime.add_zoned rfl Resolver.clocks_changingOnce).2
    ⟨by decide, 82800, hmoved, by decide, ?_⟩
  exact congrArg (DateTime.time · _) hshown.symm

end Period
end Recurrence
