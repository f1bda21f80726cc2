import Mathlib
import Recurrence.Period
import Recurrence.Proofs.DateTime.Sum
import Recurrence.Proofs.Rule.Judge
import Recurrence.Proofs.Zone.Steady

/-! How far an instance reaches. A sum of days on the wall clock and of seconds
on the timeline ends at most a day behind the same number of seconds, since
offsets differ by no more. -/
namespace Recurrence
open Calendar Zone

theorem Period.of_durationError? {start : DateTime} {duration : Duration}
    (h : durationError? start duration = none) : 0 ≤ duration.nominalDays ∧
      0 ≤ duration.exactSeconds ∧ (start.hasTime = false → duration.hasTime = false) := by
  unfold durationError? at h
  split at h
  · cases h
  · next hnegative =>
    obtain ⟨hdays, hseconds⟩ := Duration.nonneg_of_isNegative (Bool.eq_false_iff.2 hnegative)
    refine ⟨hdays, hseconds, fun hdate => ?_⟩
    rw [hdate] at h
    cases ht : duration.hasTime with
    | false => rfl
    | true => simp [ht] at h

theorem Period.durationError?_congr {start other : DateTime} {duration : Duration}
    (ht : start.hasTime = other.hasTime) (h : durationError? other duration = none) :
    durationError? start duration = none := by
  unfold durationError? at h ⊢
  rw [ht]
  split at h
  · cases h
  · next hn =>
    rw [if_neg hn]
    split at h
    · cases h
    · next hd => rw [if_neg hd]

theorem DateTime.keyBy_unzoned (wall : Int) (form : Form) :
    (DateTime.time wall form).keyBy none = .ok ⟨wall, true⟩ := by
  cases form <;> rfl

/-- Whether the place of an instance follows from a clock. What a zone's clock
shows at the place may be another reading than the one it comes from. -/
inductive Instance.Placed : Option Clock → Instance → Prop
  | date (clock : Option Clock) {day : Int} (h : firstSecond ≤ midnight day) :
      Placed clock ⟨.date day, ⟨midnight day, false⟩⟩
  | unzoned {wall : Int} (form : Form) (h : firstSecond ≤ wall) :
      Placed none ⟨.time wall form, ⟨wall, true⟩⟩
  | zoned {clock : Clock} {wall shown instant : Int} (tzid : String) (h : firstSecond ≤ wall)
      (hi : clock.toUtc wall = .ok instant) (hs : shown = clock.toLocal instant ∨ shown = wall) :
      Placed (some clock) ⟨.time shown (.zoned tzid), ⟨instant, true⟩⟩

namespace Instance.Placed

variable {clock : Option Clock} {found : Instance} {duration : Duration}

theorem exists_toUtc {clock : Clock} {shown wall instant : Int} {offsetAt : Int → Offset}
    (hshows : clock.Shows offsetAt) (hsteady : Zone.IsSteady offsetAt) (h : firstSecond ≤ wall)
    (hi : clock.toUtc wall = .ok instant)
    (hs : shown = clock.toLocal instant ∨ shown = wall) :
    firstSecond ≤ shown ∧ ∃ earlier ≤ instant, clock.toUtc shown = .ok earlier := by
  have hr := (hshows.of_toUtc hi).1
  rcases hs with rfl | rfl
  · exact ⟨(hshows.representable_toLocal hr).1, hshows.toUtc_toLocal_le hsteady hi h le_rfl hr⟩
  · exact ⟨h, instant, le_rfl, hi⟩

/-- An instance ends at most a day behind its length after its place. -/
theorem end_le (h : found.Placed clock) (hs : ∀ c ∈ clock, c.IsSteady)
    (hd : Period.durationError? found.value duration = none) {stop : DateTime}
    (hstop : found.value.addBy clock duration = .ok stop) {place : TimelineKey}
    (hplace : stop.keyBy clock = .ok place) :
    place.instant ≤ found.key.instant + duration.totalSeconds + 86400 := by
  obtain ⟨hdays, hseconds, htime⟩ := Period.of_durationError? hd
  unfold Duration.totalSeconds
  cases h with
  | date clock h =>
    obtain ⟨-, rfl⟩ := (DateTime.addBy_date (htime rfl)).1 hstop
    cases hplace
    dsimp only
    unfold midnight dayOf
    omega
  | unzoned form h =>
    obtain ⟨-, -, rfl⟩ := DateTime.addBy_unzoned.1 hstop
    rw [DateTime.keyBy_unzoned] at hplace
    cases hplace
    dsimp only
    omega
  | @zoned clock wall shown instant tzid h hi hs' =>
    obtain ⟨offsetAt, hshows, hsteady⟩ := hs clock rfl
    obtain ⟨-, moved, hmoved, hr, rfl⟩ := DateTime.addBy_zoned.1 hstop
    obtain ⟨hshown, -⟩ := exists_toUtc hshows hsteady h hi hs'
    obtain ⟨last, hlast, rfl⟩ := map_eq_ok_iff.1 hplace
    obtain ⟨earlier, hle, hearlier⟩ := hshows.toUtc_toLocal_le hsteady hmoved (by omega)
      (show moved ≤ moved + duration.exactSeconds by omega) hr
    obtain rfl := Except.ok.inj (hearlier.symm.trans hlast)
    have hspread : moved ≤ instant + duration.nominalDays * 86400 + 86400 := by
      rcases hs' with rfl | rfl
      · exact hshows.toUtc_toLocal_add hsteady (hshows.of_toUtc hi).1 hmoved
      · have := hshows.toUtc_spread hsteady hi hmoved
        omega
    change earlier ≤ instant + _ + 86400
    omega

/-- An instance that takes no time ends no later than at its place, by its sum
as well as by its reading. -/
theorem end_le_of_isZero (h : found.Placed clock) (hs : ∀ c ∈ clock, c.IsSteady)
    (hd : duration.isZero = true) {stop : DateTime}
    (hstop : found.value.addBy clock duration = .ok stop) {place : TimelineKey}
    (hplace : stop.keyBy clock = .ok place) : place.instant ≤ found.key.instant ∧
      ∃ own, found.value.keyBy clock = .ok own ∧ own.instant ≤ found.key.instant := by
  obtain ⟨hdays, hseconds, htime⟩ := Duration.of_isZero hd
  cases h with
  | date clock h =>
    obtain ⟨-, rfl⟩ := (DateTime.addBy_date htime).1 hstop
    cases hplace
    exact ⟨by simp [hdays], _, rfl, le_rfl⟩
  | @unzoned wall form h =>
    obtain ⟨-, -, rfl⟩ := DateTime.addBy_unzoned.1 hstop
    rw [DateTime.keyBy_unzoned] at hplace
    cases hplace
    exact ⟨by simp [hdays, hseconds], _, DateTime.keyBy_unzoned wall form, le_rfl⟩
  | @zoned clock wall shown instant tzid h hi hs' =>
    obtain ⟨offsetAt, hshows, hsteady⟩ := hs clock rfl
    obtain ⟨-, moved, hmoved, hr, rfl⟩ := DateTime.addBy_zoned.1 hstop
    obtain ⟨hshown, earlier, hle, hearlier⟩ := exists_toUtc hshows hsteady h hi hs'
    obtain ⟨last, hlast, rfl⟩ := map_eq_ok_iff.1 hplace
    -- A sum of nothing reads the place anew, which may come to an earlier instant.
    rw [hdays, zero_mul, add_zero] at hmoved
    rw [hseconds, add_zero] at hlast hr
    obtain rfl := Except.ok.inj (hearlier.symm.trans hmoved)
    obtain ⟨again, hagain, hsame⟩ := hshows.toUtc_toLocal_le hsteady hmoved hshown le_rfl hr
    obtain rfl := Except.ok.inj (hsame.symm.trans hlast)
    refine ⟨hagain.trans hle, ⟨earlier, true⟩, ?_, hle⟩
    exact map_eq_ok_iff.2 ⟨earlier, hearlier, rfl⟩

theorem exists_end (h : found.Placed clock) (hs : ∀ c ∈ clock, c.IsSteady)
    (hd : Period.durationError? found.value duration = none)
    (hend : found.key.instant + duration.totalSeconds + 86400 ≤ lastSecond) : ∃ stop place,
      found.value.addBy clock duration = .ok stop ∧ stop.keyBy clock = .ok place := by
  obtain ⟨hdays, hseconds, htime⟩ := Period.of_durationError? hd
  unfold Duration.totalSeconds at hend
  cases h with
  | date clock h =>
    refine ⟨_, _, (DateTime.addBy_date (htime rfl)).2 ⟨?_, rfl⟩, rfl⟩
    have hzero := Duration.exactSeconds_of_hasTime (htime rfl)
    dsimp only at hend
    unfold Representable
    omega
  | @unzoned wall form h =>
    dsimp only at hend
    refine ⟨_, _, DateTime.addBy_unzoned.2 ⟨?_, ?_, rfl⟩, DateTime.keyBy_unzoned _ form⟩
    · unfold Representable
      omega
    · unfold Representable
      omega
  | @zoned clock wall shown instant tzid h hi hs' =>
    obtain ⟨offsetAt, hshows, hsteady⟩ := hs clock rfl
    obtain ⟨hshown, earlier, hle, hearlier⟩ := exists_toUtc hshows hsteady h hi hs'
    dsimp only at hend
    -- Days move the reading and the rest moves the instant; both stay in the calendar.
    obtain ⟨moved, hmoved⟩ := hshows.exists_toUtc hsteady hearlier hshown hdays (by omega)
    have hspread := hshows.toUtc_spread hsteady hearlier hmoved
    have hr : Representable (moved + duration.exactSeconds) := by
      obtain ⟨hfirst, seen, -, heq, -⟩ := hshows.of_toUtc hmoved
      have := (offsetAt seen).within_day
      unfold Representable at hfirst ⊢
      omega
    obtain ⟨last, -, hlast⟩ := hshows.toUtc_toLocal_le hsteady hmoved (by omega)
      (show moved ≤ moved + duration.exactSeconds by omega) hr
    refine ⟨_, ⟨last, true⟩, DateTime.addBy_zoned.2 ⟨?_, moved, hmoved, hr, rfl⟩, ?_⟩
    · obtain ⟨-, seen, -, heq, -⟩ := hshows.of_toUtc hearlier
      have := (offsetAt seen).within_day
      unfold Representable
      omega
    · exact map_eq_ok_iff.2 ⟨last, hlast, rfl⟩

end Instance.Placed

section Plan

variable {clocks : Clocks} {pattern : Pattern} {anchor : DateTime} {plan : Plan} {wall : Int}
  {found : Instance}

theorem Plan.Opens.placed (h : plan.Opens clocks pattern anchor) (hA : anchor.InCalendar)
    (hle : plan.anchor.wall ≤ wall) (hf : plan.instanceAt wall = .ok found) :
    found.Placed plan.clock := by
  have hwall : firstSecond ≤ wall := (h.anchor_eq ▸ hA.1).trans hle
  have hclock := h.clock_eq
  rw [← h.anchor_eq] at hclock
  unfold Plan.instanceAt at hf
  split at hf
  · cases hf
    refine .date _ ?_
    unfold firstSecond midnight dayOf at *
    omega
  · next form clock ha hc =>
    obtain ⟨instant, hi, rfl⟩ := map_eq_ok_iff.1 hf
    rw [ha, hc] at hclock
    cases form with
    | floating => cases hclock
    | utc => cases hclock
    | zoned tzid =>
      rw [hc]
      exact .zoned tzid hwall hi (.inl rfl)
  · next form ha hc =>
    cases hf
    rw [hc]
    exact .unzoned form hwall

theorem Instance.Placed.of_keyBy {clock : Option Clock} {start : DateTime} {place : TimelineKey}
    (hclock : start.clock? clocks = .ok clock) (hA : start.InCalendar)
    (hkey : start.keyBy clock = .ok place) : Placed clock ⟨start, place⟩ := by
  cases start with
  | date day =>
    cases hkey
    exact .date _ hA.1
  | time wall form =>
    cases form with
    | floating =>
      cases hclock
      cases hkey
      exact .unzoned _ hA.1
    | utc =>
      cases hclock
      cases hkey
      exact .unzoned _ hA.1
    | zoned tzid =>
      obtain ⟨clock, -, rfl⟩ := map_eq_ok_iff.1 hclock
      obtain ⟨instant, hi, rfl⟩ := map_eq_ok_iff.1 hkey
      exact .zoned tzid hA.1 hi (.inr rfl)

theorem Plan.hasTime_of_instanceAt (hf : plan.instanceAt wall = .ok found) :
    found.value.hasTime = plan.anchor.hasTime := by
  unfold Plan.instanceAt at hf
  split at hf
  · next ha =>
    cases hf
    rw [ha]
    rfl
  · next ha _ =>
    obtain ⟨_, -, rfl⟩ := map_eq_ok_iff.1 hf
    rw [ha]
    rfl
  · next ha _ =>
    cases hf
    rw [ha]
    rfl

theorem Plan.instanceAt_inj {plan' : Plan} {wall' : Int} {found' : Instance}
    (ha : plan.anchor = plan'.anchor) (hc : plan.clock = plan'.clock)
    (hf : plan.instanceAt wall = .ok found) (hf' : plan'.instanceAt wall' = .ok found')
    (hk : found.key = found'.key) : found = found' := by
  unfold Plan.instanceAt at hf hf'
  rw [← ha, ← hc] at hf'
  split at hf
  · next hanchor =>
    rw [hanchor] at hf'
    cases hf
    cases hf'
    have hday : dayOf wall = dayOf wall' := by
      have := congrArg TimelineKey.instant hk
      unfold midnight at this
      dsimp only at this
      omega
    rw [hday]
  · next hanchor hclock =>
    rw [hanchor, hclock] at hf'
    obtain ⟨instant, -, rfl⟩ := map_eq_ok_iff.1 hf
    obtain ⟨instant', -, rfl⟩ := map_eq_ok_iff.1 hf'
    cases hk
    rfl
  · next hanchor hclock =>
    rw [hanchor, hclock] at hf'
    cases hf
    cases hf'
    cases hk
    rfl

end Plan
end Recurrence
