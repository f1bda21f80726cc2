import Mathlib
import Recurrence.Proofs.Period.Accepted
import Recurrence.Proofs.Zone.Inverse
import Recurrence.Proofs.Zone.Onsets

/-! The order of a period's start and end. A period is accepted by the readings of its
start and end, which have the order of their instants where the clock shows the start
and the end is not taken back to an earlier pass of its hour. -/
namespace Recurrence
open Calendar Zone

namespace Clock.Shows

variable {clock : Clock} {offsetAt : Int → Offset} (h : clock.Shows offsetAt)
include h

theorem toLocal_of_isInside {instant : Int} (hinside : IsInside 1 instant) :
    clock.toLocal instant = instant + (offsetAt instant).seconds := by
  have hday := (offsetAt instant).within_day
  apply h.toLocal_eq_add
  unfold IsInside at hinside
  unfold Representable
  omega

theorem isNear : clock.IsNear := by
  intro wall instant hi
  obtain ⟨-, seen, -, rfl, -⟩ := h.of_toUtc hi
  have := (offsetAt seen).within_day
  omega

/-- What a clock shows stands for the instant itself unless it has been shown before. -/
theorem eq_of_toUtc_toLocal (hfirst : clock.TakesFirst offsetAt) {instant back : Int}
    (hr : Representable instant) (honce : ¬ Zone.Repeats offsetAt instant)
    (hback : clock.toUtc (clock.toLocal instant) = .ok back) (hinside : IsInside 2 back) :
    back = instant := by
  have hnear := h.isNear _ _ hback
  unfold IsInside at hinside
  by_cases hlocal : Representable (instant + (offsetAt instant).seconds)
  · rw [h.toLocal_eq_add hlocal] at hback
    obtain ⟨hle, hreads⟩ := hfirst instant back hr hback
    rcases eq_or_lt_of_le hle with heq | hlt
    · exact heq
    · exact absurd ⟨back, hlt, (h.of_toUtc hback).1, hreads⟩ honce
  · rw [h.toLocal_eq_self hlocal] at hnear
    have := (offsetAt instant).within_day
    unfold Representable at hlocal
    omega

section Const

variable (hconst : ∀ one other, offsetAt one = offsetAt other) {wall instant : Int}
  (hi : clock.toUtc wall = .ok instant)
include hconst hi

theorem toUtc_of_const (other : Int) : wall = instant + (offsetAt other).seconds := by
  obtain ⟨-, seen, -, heq, -⟩ := h.of_toUtc hi
  rw [hconst other seen]
  omega

end Const

variable (hfirst : clock.TakesFirst offsetAt) (hs : Zone.IsSpaced offsetAt)
  {wall wall' instant instant' : Int} (hi : clock.toUtc wall = .ok instant)
  (hi' : clock.toUtc wall' = .ok instant') (hinside : IsInside 2 instant)
  (hinside' : IsInside 2 instant')
include hfirst hs hi hi' hinside hinside'

theorem le_iff_toLocal_le : instant ≤ instant' ↔ clock.toLocal instant ≤ clock.toLocal instant' := by
  have hday := (offsetAt instant).within_day
  have hday' := (offsetAt instant').within_day
  unfold IsInside at hinside hinside'
  have hshown := h.toLocal_of_isInside (show IsInside 1 instant from ⟨by omega, by omega⟩)
  have hshown' := h.toLocal_of_isInside (show IsInside 1 instant' from ⟨by omega, by omega⟩)
  have hback := h.toUtc_toLocal hfirst hs hi (by omega) (by omega)
  have hback' := h.toUtc_toLocal hfirst hs hi' (by omega) (by omega)
  -- What is shown at either instant is read back to it, so that the order of readings decides.
  constructor
  · intro hle
    by_contra hlt
    have hle' := h.le_of_shown hfirst hs hback' hback (by omega) (by omega) (not_le.1 hlt)
      hshown'.symm
    obtain rfl := le_antisymm hle hle'
    exact hlt le_rfl
  · intro hle
    rcases eq_or_lt_of_le hle with heq | hlt
    · rw [heq] at hback
      exact (Except.ok.inj (hback.symm.trans hback')).le
    · exact h.le_of_shown hfirst hs hback hback' (by omega) (by omega) hlt hshown.symm

end Clock.Shows

namespace Period

/-- Whether a constructor accepts a period. -/
inductive IsBuilt : Period → Prop
  | instant (start : DateTime) : IsBuilt (.instant start)
  | withEnd {start stop : DateTime} {period : Period} (h : withEnd start stop = .ok period) :
      IsBuilt period
  | withDuration {start : DateTime} {duration : Duration} {period : Period}
      (h : withDuration start duration = .ok period) : IsBuilt period

/-- What a constructor asks of the reach of a period. -/
def Suits (start : DateTime) : Span → Prop
  | .instant => True
  | .upTo stop => start.hasTime = stop.hasTime ∧ start.form = stop.form ∧ start.wall ≤ stop.wall
  | .lasting duration => durationError? start duration = none

theorem isBuilt_iff {period : Period} : period.IsBuilt ↔ Suits period.start period.span := by
  constructor
  · intro h
    cases h with
    | instant start => trivial
    | withEnd h =>
      obtain ⟨hkind, hform, hle, rfl⟩ := withEnd_eq_ok_iff.1 h
      exact ⟨hkind, hform, hle⟩
    | withDuration h =>
      obtain ⟨hnone, rfl⟩ := withDuration_eq_ok_iff.1 h
      exact hnone
  · obtain ⟨start, span⟩ := period
    intro h
    cases span with
    | instant => exact .instant start
    | upTo stop =>
      obtain ⟨hkind, hform, hle⟩ := h
      exact .withEnd (withEnd_eq_ok_iff.2 ⟨hkind, hform, hle, rfl⟩)
    | lasting duration => exact .withDuration (withDuration_eq_ok_iff.2 ⟨h, rfl⟩)

/-- Whether a period lasts until an instant whose reading the clock has shown before. -/
def EndsRepeated (clock : Clock) (offsetAt : Int → Offset) (period : Period) : Prop :=
  ∃ duration moved, period.span = .lasting duration ∧
    clock.toUtc (period.start.wall + duration.nominalDays * 86400) = .ok moved ∧
    Zone.Repeats offsetAt (moved + duration.exactSeconds)

/-- A period ends at a reading of its form not before that of its start, or behind its
start by a duration that may follow it. -/
theorem effectiveEnd_cases {clocks : Clocks} {period : Period} {last : DateTime}
    (hbuilt : period.IsBuilt) (hlast : period.effectiveEnd clocks = .ok last) :
    (period.start.form = last.form ∧ period.start.wall ≤ last.wall) ∨
      ∃ duration, period.span = .lasting duration ∧ durationError? period.start duration = none ∧
        period.start.add clocks duration = .ok last := by
  obtain ⟨start, span⟩ := period
  have hsuits := isBuilt_iff.1 hbuilt
  cases span with
  | instant =>
    obtain rfl := Except.ok.inj hlast
    exact .inl ⟨rfl, le_rfl⟩
  | upTo stop =>
    obtain rfl := Except.ok.inj hlast
    exact .inl hsuits.2
  | lasting duration => exact .inr ⟨duration, rfl, hsuits, hlast⟩

theorem form_of_effectiveEnd {clocks : Clocks} {period : Period} {last : DateTime}
    (hbuilt : period.IsBuilt) (hlast : period.effectiveEnd clocks = .ok last) :
    last.form = period.start.form := by
  rcases effectiveEnd_cases hbuilt hlast with ⟨hform, -⟩ | ⟨duration, -, -, hsum⟩
  · exact hform.symm
  · obtain ⟨clock, -, hsum⟩ := bind_eq_ok_iff.1 hsum
    exact DateTime.form_of_addBy hsum

section

variable {clocks : Clocks} {period : Period} {last : DateTime} {first stop : Int}
  (hbuilt : period.IsBuilt) (hlast : period.effectiveEnd clocks = .ok last)
  (hfirst : period.start.toUtc clocks = .ok first) (hstop : last.toUtc clocks = .ok stop)
include hbuilt hlast hfirst hstop

theorem lt_of_isNegative {duration : Duration}
    (hd : period.effectiveDuration clocks = .ok duration) (hn : duration.isNegative = true) :
    stop < first := by
  obtain ⟨start, span⟩ := period
  have hsuits := isBuilt_iff.1 hbuilt
  cases span with
  | instant =>
    obtain rfl := Except.ok.inj hd
    cases hn
  | upTo stop =>
    obtain rfl := Except.ok.inj hlast
    have htotal := totalSeconds_effectiveDuration hsuits.1 hfirst hstop hd
    have := Duration.isNegative_iff.1 hn
    omega
  | lasting lasted =>
    obtain rfl := Except.ok.inj hd
    obtain ⟨hpositive, -⟩ := durationError?_eq_none_iff.1 hsuits
    rw [hpositive] at hn
    cases hn

theorem le_of_unzoned (hzone : period.start.tzid? = none) : first ≤ stop := by
  rw [DateTime.toUtc_unzoned hzone, Except.ok.injEq] at hfirst
  subst hfirst
  rcases effectiveEnd_cases hbuilt hlast with ⟨hform, hle⟩ | ⟨duration, -, hok, hsum⟩
  · rw [DateTime.toUtc_unzoned ((DateTime.tzid?_congr hform).symm.trans hzone),
      Except.ok.injEq] at hstop
    exact hstop ▸ hle
  · obtain ⟨hdays, hseconds, hdate⟩ := of_durationError? hok
    obtain ⟨hzone', hwall⟩ := DateTime.wall_of_add_unzoned hzone hdate hsum
    rw [DateTime.toUtc_unzoned hzone', Except.ok.injEq, hwall, Duration.totalSeconds] at hstop
    omega

variable {tzid : String} {clock : Clock} {offsetAt : Int → Offset}
  (hzone : period.start.form = .zoned tzid) (hclock : clocks tzid = .ok clock)
  (hshows : clock.Shows offsetAt)
include hzone hclock hshows

theorem le_of_const (hconst : ∀ one other, offsetAt one = offsetAt other)
    (hend : ∀ duration, period.span = .lasting duration →
      Representable (period.start.wall + duration.totalSeconds)) : first ≤ stop := by
  rw [DateTime.toUtc_zoned hzone hclock] at hfirst
  have hstart := hshows.toUtc_of_const hconst hfirst 0
  rcases effectiveEnd_cases hbuilt hlast with ⟨hform, hle⟩ | ⟨duration, hspan, hok, hsum⟩
  · rw [DateTime.toUtc_zoned (hform ▸ hzone) hclock] at hstop
    have := hshows.toUtc_of_const hconst hstop 0
    omega
  · obtain ⟨hdays, hseconds, -⟩ := of_durationError? hok
    obtain ⟨-, moved, hmoved, -, rfl⟩ := (DateTime.add_zoned hzone hclock).1 hsum
    rw [DateTime.toUtc_zoned rfl hclock] at hstop
    have hmoved' := hshows.toUtc_of_const hconst hmoved 0
    have hstop' := hshows.toUtc_of_const hconst hstop 0
    have hr := hend duration hspan
    -- The end is still within the calendar, so the clock shows it under its offset.
    dsimp only [DateTime.wall, Duration.totalSeconds] at hr hmoved' hstop' hstart
    rw [hshows.toLocal_eq_add, hconst _ 0] at hstop'
    · omega
    · rw [hconst _ 0]
      convert hr using 1
      omega

variable (htakes : clock.TakesFirst offsetAt) (hs : Zone.IsSpaced offsetAt)
  (hinside : IsInside 2 first) (hinside' : IsInside 2 stop)
include htakes hs hinside hinside'

/-- A start that the clock shows is not behind an end that is not taken back. -/
theorem le_of_shown (hshown : clock.toLocal first = period.start.wall)
    (honce : ¬ period.EndsRepeated clock offsetAt) : first ≤ stop := by
  have hday := (offsetAt first).within_day
  have hday' := (offsetAt stop).within_day
  unfold IsInside at hinside hinside'
  rw [DateTime.toUtc_zoned hzone hclock] at hfirst
  rw [hshows.toLocal_of_isInside ⟨by omega, by omega⟩] at hshown
  -- Readings from the start on stand for instants from the start on.
  have hle : ∀ {later instant}, period.start.wall ≤ later → clock.toUtc later = .ok instant →
      later ≤ lastSecond - 86400 → first ≤ instant := by
    intro later instant hle hlater hhigh
    rcases eq_or_lt_of_le hle with rfl | hlt
    · exact (Except.ok.inj (hfirst.symm.trans hlater)).le
    · exact hshows.le_of_shown htakes hs hfirst hlater (by omega) hhigh hlt hshown
  rcases effectiveEnd_cases hbuilt hlast with ⟨hform, hwalls⟩ | ⟨duration, hspan, hok, hsum⟩
  · rw [DateTime.toUtc_zoned (hform ▸ hzone) hclock] at hstop
    have := hshows.isNear _ _ hstop
    exact hle hwalls hstop (by omega)
  · obtain ⟨hdays, hseconds, -⟩ := of_durationError? hok
    obtain ⟨-, moved, hmoved, hr, rfl⟩ := (DateTime.add_zoned hzone hclock).1 hsum
    rw [DateTime.toUtc_zoned rfl hclock] at hstop
    have honce' : ¬ Zone.Repeats offsetAt (moved + duration.exactSeconds) :=
      fun hrepeats => honce ⟨duration, moved, hspan, hmoved, hrepeats⟩
    have hback := hshows.eq_of_toUtc_toLocal htakes hr honce' hstop ⟨by omega, by omega⟩
    have := hshows.isNear _ _ hmoved
    have := hle (by omega) hmoved (by omega)
    omega

end

end Period

/-- A resolver that knows one described zone. -/
def Resolver.knowing (zone : VTimezone) : Resolver :=
  (Resolver.empty Atlas.database).register zone

section Once

variable {change onset : Int} {before after : Offset}
  (honset : move? change (-before.seconds) = some onset)

theorem Resolver.clocks_changingOnce :
    (Resolver.knowing (VTimezone.changingOnce change before after)).clocks "Once" =
      .ok ((TimeZone.described (VTimezone.changingOnce change before after)).clock
        Atlas.database.clocks) := rfl

include honset

theorem DateTime.toUtc_changingOnce (wall : Int) : (time wall (.zoned "Once")).toUtc
    (Resolver.knowing (VTimezone.changingOnce change before after)).clocks =
      utcOf (fun instant => if onset ≤ instant then after else before)
        [before, after].eraseDups wall := by
  rw [toUtc_zoned rfl Resolver.clocks_changingOnce]
  change VTimezone.toUtc _ _ wall = _
  rw [VTimezone.toUtc, VTimezone.offsetAt_changingOnce _ honset]
  rfl

theorem DateTime.add_changingOnce {wall moved : Int} {duration : Duration}
    (hdays : duration.nominalDays = 0)
    (hr : Representable wall) (hr' : Representable (moved + duration.exactSeconds))
    (hmoved : (time wall (.zoned "Once")).toUtc
      (Resolver.knowing (VTimezone.changingOnce change before after)).clocks = .ok moved) :
    (time wall (.zoned "Once")).add
        (Resolver.knowing (VTimezone.changingOnce change before after)).clocks duration =
      .ok (time (localOf (fun instant => if onset ≤ instant then after else before)
        (moved + duration.exactSeconds)) (.zoned "Once")) := by
  rw [toUtc_zoned rfl Resolver.clocks_changingOnce] at hmoved
  refine (add_zoned rfl Resolver.clocks_changingOnce).2 ⟨?_, moved, ?_, hr', ?_⟩
  · rwa [hdays, zero_mul, add_zero]
  · rwa [hdays, zero_mul, add_zero]
  · rw [← VTimezone.offsetAt_changingOnce Atlas.database.clocks honset]
    rfl

end Once

theorem DateTime.toUtc_repeatingHour (wall : Int) :
    (time wall (.zoned "Once")).toUtc (Resolver.knowing VTimezone.repeatingHour).clocks =
      utcOf (fun instant => if 7200 ≤ instant then .utc else .hourAhead) [.hourAhead, .utc] wall :=
  toUtc_changingOnce (by decide) wall

theorem DateTime.toUtc_skippingHour (wall : Int) :
    (time wall (.zoned "Once")).toUtc (Resolver.knowing VTimezone.skippingHour).clocks =
      utcOf (fun instant => if 7200 ≤ instant then .hourAhead else .utc) [.utc, .hourAhead] wall :=
  toUtc_changingOnce (by decide) wall

theorem DateTime.add_repeatingHour {wall moved : Int} {duration : Duration}
    (hdays : duration.nominalDays = 0) (hr : Representable wall)
    (hr' : Representable (moved + duration.exactSeconds))
    (hmoved : (time wall (.zoned "Once")).toUtc
      (Resolver.knowing VTimezone.repeatingHour).clocks = .ok moved) :
    (time wall (.zoned "Once")).add (Resolver.knowing VTimezone.repeatingHour).clocks duration =
      .ok (time (localOf (fun instant => if 7200 ≤ instant then .utc else .hourAhead)
        (moved + duration.exactSeconds)) (.zoned "Once")) :=
  add_changingOnce (by decide) hdays hr hr' hmoved

namespace Period

/-- A period that a constructor accepts does not end before it starts, in the zone of
one offset as well as without a zone. Where offset changes lie two days apart it does
not if the clock shows its start and has not shown its end before; otherwise what the
clock shows at both decides. -/
theorem start_le_end {resolver : Resolver} {period : Period} {last : DateTime} {first stop : Int}
    (hbuilt : period.IsBuilt) (hlast : period.effectiveEnd resolver.clocks = .ok last)
    (hfirst : period.start.toUtc resolver.clocks = .ok first)
    (hstop : last.toUtc resolver.clocks = .ok stop) :
    (first ≤ stop → ∀ duration, period.effectiveDuration resolver.clocks = .ok duration →
      duration.isNegative = false) ∧
    (period.start.tzid? = none → first ≤ stop) ∧
    ∀ tzid zone, period.start.form = .zoned tzid → resolver.lookup tzid = .ok zone →
      ((∀ one other, zone.offsetAt resolver.database.clocks one =
          zone.offsetAt resolver.database.clocks other) →
        (∀ duration, period.span = .lasting duration →
          Representable (period.start.wall + duration.totalSeconds)) →
        first ≤ stop) ∧
      (Zone.IsSpaced (zone.offsetAt resolver.database.clocks) → IsInside 2 first →
        IsInside 2 stop →
        (first ≤ stop ↔ zone.toLocal resolver.database.clocks first ≤
          zone.toLocal resolver.database.clocks stop) ∧
        (zone.toLocal resolver.database.clocks first = period.start.wall →
          ¬ period.EndsRepeated (zone.clock resolver.database.clocks)
            (zone.offsetAt resolver.database.clocks) →
          first ≤ stop)) := by
  refine ⟨fun hle duration hd => ?_, le_of_unzoned hbuilt hlast hfirst hstop,
    fun tzid zone hzone hlookup => ?_⟩
  · by_contra hn
    have := lt_of_isNegative hbuilt hlast hfirst hstop hd (Bool.not_eq_false _ ▸ hn)
    omega
  have hclock := Resolver.clocks_eq_ok_iff.2 ⟨zone, hlookup, rfl⟩
  have hshows := zone.clock_shows resolver.database.clocks
  have htakes := zone.clock_takesFirst resolver.database.clocks
  refine ⟨le_of_const hbuilt hlast hfirst hstop hzone hclock hshows,
    fun hs hinside hinside' => ⟨?_, ?_⟩⟩
  · have hform : last.form = .zoned tzid := (form_of_effectiveEnd hbuilt hlast).trans hzone
    rw [DateTime.toUtc_zoned hzone hclock] at hfirst
    rw [DateTime.toUtc_zoned hform hclock] at hstop
    exact hshows.le_iff_toLocal_le htakes hs hfirst hstop hinside hinside'
  · exact le_of_shown hbuilt hlast hfirst hstop hzone hclock hshows htakes hs hinside hinside'

/-- The hour from 01:30 on ends at the first 02:30, which no earlier instant shows. -/
theorem start_le_end_firstPass : ∃ period last,
    withDuration (.time 5400 (.zoned "Once")) ⟨false, 0, 0, 1, 0, 0⟩ = .ok period ∧
    period.effectiveEnd (Resolver.knowing VTimezone.repeatingHour).clocks = .ok last ∧
    period.start.toUtc (Resolver.knowing VTimezone.repeatingHour).clocks = .ok 1800 ∧
    last.toUtc (Resolver.knowing VTimezone.repeatingHour).clocks = .ok 5400 ∧
    (1800 : Int) ≤ 5400 := by
  have hat := VTimezone.offsetAt_repeatingHour Atlas.database.clocks
  have hfirst := DateTime.toUtc_repeatingHour 5400
  have hstop := DateTime.toUtc_repeatingHour 9000
  have hbuilt : withDuration (.time 5400 (.zoned "Once")) ⟨false, 0, 0, 1, 0, 0⟩ =
      .ok ⟨.time 5400 (.zoned "Once"), .lasting ⟨false, 0, 0, 1, 0, 0⟩⟩ := rfl
  have hlast : (DateTime.time 5400 (.zoned "Once")).add
      (Resolver.knowing VTimezone.repeatingHour).clocks ⟨false, 0, 0, 1, 0, 0⟩ =
        .ok (.time 9000 (.zoned "Once")) :=
    DateTime.add_repeatingHour (by decide) (by decide) (by decide) hfirst
  refine ⟨_, _, hbuilt, hlast, hfirst, hstop, ?_⟩
  refine (((start_le_end (.withDuration hbuilt) hlast hfirst hstop).2.2 "Once"
    (.described VTimezone.repeatingHour) rfl rfl).2
    (VTimezone.isSpaced_repeatingHour _) ⟨by decide, by decide⟩
    ⟨by decide, by decide⟩).2 ?_ ?_
  · change VTimezone.repeatingHour.toLocal Atlas.database.clocks 1800 = 5400
    rw [VTimezone.toLocal, hat]
    rfl
  · rintro ⟨_, moved, ⟨⟩, hmoved, hrepeats⟩
    obtain rfl : moved = 1800 := Except.ok.inj (hmoved.symm.trans
      ((DateTime.toUtc_zoned rfl Resolver.clocks_changingOnce).symm.trans hfirst))
    obtain ⟨earlier, hlt, -, heq⟩ : Zone.Repeats _ 5400 := hrepeats
    change earlier + (VTimezone.repeatingHour.offsetAt Atlas.database.clocks earlier).seconds =
      5400 + (VTimezone.repeatingHour.offsetAt Atlas.database.clocks 5400).seconds at heq
    rw [hat] at heq
    dsimp only at heq
    rw [if_neg (by omega), if_neg (by omega)] at heq
    omega

/-- A start that is skipped lies behind an end that reads later, and a sum that ends in
the second pass of an hour is read back to the first. -/
theorem not_start_le_end :
    (∃ period duration,
      withEnd (.time 9000 (.zoned "Once")) (.time 11400 (.zoned "Once")) = .ok period ∧
      Zone.IsSpaced (VTimezone.skippingHour.offsetAt Atlas.database.clocks) ∧
      period.start.toUtc (Resolver.knowing VTimezone.skippingHour).clocks = .ok 9000 ∧
      period.effectiveEnd (Resolver.knowing VTimezone.skippingHour).clocks =
        .ok (.time 11400 (.zoned "Once")) ∧
      (DateTime.time 11400 (.zoned "Once")).toUtc
        (Resolver.knowing VTimezone.skippingHour).clocks = .ok 7800 ∧
      period.effectiveDuration (Resolver.knowing VTimezone.skippingHour).clocks = .ok duration ∧
      duration.isNegative = true) ∧
    ∃ period,
      withDuration (.time 10200 (.zoned "Once")) ⟨false, 0, 0, 0, 30, 0⟩ = .ok period ∧
      Zone.IsSpaced (VTimezone.repeatingHour.offsetAt Atlas.database.clocks) ∧
      period.start.toUtc (Resolver.knowing VTimezone.repeatingHour).clocks = .ok 6600 ∧
      period.effectiveEnd (Resolver.knowing VTimezone.repeatingHour).clocks =
        .ok (.time 8400 (.zoned "Once")) ∧
      (DateTime.time 8400 (.zoned "Once")).toUtc
        (Resolver.knowing VTimezone.repeatingHour).clocks = .ok 4800 := by
  constructor
  · have hfirst := DateTime.toUtc_skippingHour 9000
    have hstop := DateTime.toUtc_skippingHour 11400
    exact ⟨⟨.time 9000 (.zoned "Once"), .upTo (.time 11400 (.zoned "Once"))⟩,
      ⟨true, 0, 0, 0, 20, 0⟩, rfl, VTimezone.isSpaced_skippingHour _, hfirst, rfl,
      hstop, (effectiveDuration_time hfirst hstop).2 rfl, rfl⟩
  · have hfirst := DateTime.toUtc_repeatingHour 10200
    exact ⟨⟨.time 10200 (.zoned "Once"), .lasting ⟨false, 0, 0, 0, 30, 0⟩⟩, rfl,
      VTimezone.isSpaced_repeatingHour _, hfirst,
      DateTime.add_repeatingHour (by decide) (by decide) (by decide) hfirst,
      DateTime.toUtc_repeatingHour 8400⟩

end Period
end Recurrence
