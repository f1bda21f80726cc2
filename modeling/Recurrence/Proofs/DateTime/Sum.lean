import Mathlib
import Recurrence.DateTime.Timeline
import Recurrence.Proofs.Duration.Sign
import Recurrence.Proofs.Failure

/-! Places of values and of sums by the clock of their form. -/
namespace Recurrence.DateTime
open Calendar

variable {clocks : Clocks} {value left right : DateTime}

theorem tzid?_congr (h : left.form = right.form) : left.tzid? = right.tzid? := by
  unfold tzid?
  rw [h]

theorem tzid?_eq_none_iff : value.tzid? = none ↔ ∀ tzid, value.form ≠ .zoned tzid := by
  unfold tzid?
  cases value.form <;> simp

theorem clock?_congr (h : left.form = right.form) : left.clock? clocks = right.clock? clocks := by
  unfold clock?
  rw [h]

theorem clock?_eq_some_iff {clock : Clock} : value.clock? clocks = .ok (some clock) ↔
    ∃ tzid, value.form = .zoned tzid ∧ clocks tzid = .ok clock := by
  unfold clock?
  cases value.form <;> simp [map_eq_ok_iff]

theorem clock?_unzoned (h : value.tzid? = none) : value.clock? clocks = .ok none := by
  unfold clock?
  split
  · next tzid hform => exact absurd hform (tzid?_eq_none_iff.1 h tzid)
  · rfl

theorem key_eq_keyBy {clock : Option Clock} (h : value.clock? clocks = .ok clock) :
    value.key clocks = value.keyBy clock := by
  simp [key, h, bind, Except.bind]

theorem toUtc_unzoned (h : value.tzid? = none) : value.toUtc clocks = .ok value.wall := by
  rw [toUtc, key_eq_keyBy (clock?_unzoned h)]
  cases value with
  | date day => rfl
  | time wall form => cases form <;> rfl

theorem toUtc_zoned {tzid : String} {clock : Clock} (h : value.form = .zoned tzid)
    (hclock : clocks tzid = .ok clock) : value.toUtc clocks = clock.toUtc value.wall := by
  rw [toUtc, key_eq_keyBy (clock?_eq_some_iff.2 ⟨tzid, h, hclock⟩)]
  cases value with
  | date day => cases h
  | time wall form =>
    obtain rfl : form = .zoned tzid := h
    simp only [keyBy, DateTime.wall]
    cases clock.toUtc wall <;> rfl

theorem exists_clock {tzid : String} (h : value.form = .zoned tzid) {instant : Int}
    (hto : value.toUtc clocks = .ok instant) : ∃ clock, clocks tzid = .ok clock := by
  obtain ⟨key, hkey, -⟩ := map_eq_ok_iff.1 hto
  obtain ⟨found, hfound, -⟩ := bind_eq_ok_iff.1 hkey
  rw [clock?, h] at hfound
  obtain ⟨clock, hclock, -⟩ := map_eq_ok_iff.1 hfound
  exact ⟨clock, hclock⟩

theorem add_eq_addBy {clock : Option Clock} (h : value.clock? clocks = .ok clock)
    (duration : Duration) : value.add clocks duration = value.addBy clock duration := by
  simp [add, h, orZone, bind, Except.bind, Except.mapError]

theorem form_of_addBy {clock : Option Clock} {sum : DateTime} {duration : Duration}
    (h : value.addBy clock duration = .ok sum) : sum.form = value.form := by
  unfold addBy at h
  cases value with
  | date day =>
    simp only [bind_eq_ok_iff, pure_eq_ok_iff] at h
    obtain ⟨_, -, wall, -, rfl⟩ := h
    split <;> rfl
  | time wall form =>
    cases form with
    | floating =>
      simp only [bind_eq_ok_iff, pure_eq_ok_iff] at h
      obtain ⟨_, -, _, -, rfl⟩ := h
      rfl
    | utc =>
      simp only [bind_eq_ok_iff, pure_eq_ok_iff] at h
      obtain ⟨_, -, _, -, rfl⟩ := h
      rfl
    | zoned tzid =>
      cases clock with
      | none =>
        simp only [bind_eq_ok_iff, pure_eq_ok_iff] at h
        obtain ⟨_, -, _, -, rfl⟩ := h
        rfl
      | some clock =>
        simp only [bind_eq_ok_iff, pure_eq_ok_iff] at h
        obtain ⟨_, -, _, -, _, -, rfl⟩ := h
        rfl

section Parts

variable {clock : Option Clock} {duration : Duration} {sum : DateTime}

theorem addBy_date {day : Int} (hd : duration.hasTime = false) :
    addBy clock (.date day) duration = .ok sum ↔
      Representable (midnight day + duration.nominalDays * 86400) ∧
        sum = .date (dayOf (midnight day + duration.nominalDays * 86400)) := by
  have hzero := Duration.exactSeconds_of_hasTime hd
  unfold addBy
  by_cases hr : Representable (midnight day + duration.nominalDays * 86400)
  · simp [move?, DateTime.wall, hr, hzero, hd, bind, Except.bind, pure, Except.pure, eq_comm]
  · simp [move?, DateTime.wall, hr, bind, Except.bind]

theorem addBy_unzoned {wall : Int} {form : Form} :
    addBy none (.time wall form) duration = .ok sum ↔
      Representable (wall + duration.nominalDays * 86400) ∧
        Representable (wall + duration.nominalDays * 86400 + duration.exactSeconds) ∧
          sum = .time (wall + duration.nominalDays * 86400 + duration.exactSeconds) form := by
  unfold addBy
  by_cases hr : Representable (wall + duration.nominalDays * 86400)
  · by_cases hr' : Representable (wall + duration.nominalDays * 86400 + duration.exactSeconds)
    · simp [move?, DateTime.wall, hr, hr', bind, Except.bind, pure, Except.pure, eq_comm]
    · simp [move?, DateTime.wall, hr, hr', bind, Except.bind]
  · simp [move?, DateTime.wall, hr, bind, Except.bind]

theorem addBy_zoned {wall : Int} {tzid : String} {clock : Clock} :
    addBy (some clock) (.time wall (.zoned tzid)) duration = .ok sum ↔
      Representable (wall + duration.nominalDays * 86400) ∧ ∃ instant,
        clock.toUtc (wall + duration.nominalDays * 86400) = .ok instant ∧
          Representable (instant + duration.exactSeconds) ∧
            sum = .time (clock.toLocal (instant + duration.exactSeconds)) (.zoned tzid) := by
  unfold addBy
  by_cases hr : Representable (wall + duration.nominalDays * 86400)
  · simp only [move?, DateTime.wall, hr, if_true, bind_eq_ok_iff, orZone_eq_ok_iff,
      pure_eq_ok_iff, Except.ok.injEq, exists_eq_left', true_and]
    refine exists_congr fun instant => and_congr_right fun _ => ?_
    by_cases hr' : Representable (instant + duration.exactSeconds)
    · simp [hr', eq_comm]
    · simp [hr']
  · simp [move?, DateTime.wall, hr, bind, Except.bind]

theorem wall_of_add_unzoned (h : value.tzid? = none)
    (hdate : value.hasTime = false → duration.hasTime = false)
    (hsum : value.add clocks duration = .ok sum) :
    sum.tzid? = none ∧ sum.wall = value.wall + duration.totalSeconds := by
  rw [add_eq_addBy (clock?_unzoned h)] at hsum
  refine ⟨(tzid?_congr (form_of_addBy hsum)).trans h, ?_⟩
  unfold Duration.totalSeconds
  cases value with
  | date day =>
    obtain ⟨-, rfl⟩ := (addBy_date (hdate rfl)).1 hsum
    have := Duration.exactSeconds_of_hasTime (hdate rfl)
    dsimp only [DateTime.wall, midnight, dayOf]
    omega
  | time wall form =>
    obtain ⟨-, -, rfl⟩ := addBy_unzoned.1 hsum
    dsimp only [DateTime.wall]
    omega

/-- In a zone days move the reading and the rest moves the instant. -/
theorem add_zoned {tzid : String} {clock : Clock} (h : value.form = .zoned tzid)
    (hclock : clocks tzid = .ok clock) :
    value.add clocks duration = .ok sum ↔
      Representable (value.wall + duration.nominalDays * 86400) ∧ ∃ moved,
        clock.toUtc (value.wall + duration.nominalDays * 86400) = .ok moved ∧
          Representable (moved + duration.exactSeconds) ∧
            sum = .time (clock.toLocal (moved + duration.exactSeconds)) (.zoned tzid) := by
  rw [add_eq_addBy (clock?_eq_some_iff.2 ⟨tzid, h, hclock⟩)]
  cases value with
  | date day => cases h
  | time wall form =>
    obtain rfl : form = .zoned tzid := h
    exact addBy_zoned

end Parts

end Recurrence.DateTime
