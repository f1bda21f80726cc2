import Mathlib
import Recurrence.Duration

/-! The parts of a duration under its sign. Days and seconds have the one sign, so that
neither leads away from where both lead. -/
namespace Recurrence.Duration

/-- The seconds of a duration without its sign. -/
def length (d : Duration) : Nat :=
  (d.weeks.toNat * 7 + d.days.toNat) * 86400 +
    (d.hours.toNat * 3600 + d.minutes.toNat * 60 + d.seconds.toNat)

variable {d : Duration}

theorem totalSeconds_eq_signed (d : Duration) : d.totalSeconds = d.signed d.length := by
  unfold totalSeconds nominalDays exactSeconds signed length
  cases d.negative with
  | true =>
    simp only [if_true]
    push_cast
    ring
  | false =>
    simp only [Bool.false_eq_true, if_false]
    push_cast
    ring

@[simp] theorem natAbs_totalSeconds (d : Duration) : d.totalSeconds.natAbs = d.length := by
  rw [totalSeconds_eq_signed, signed]
  split
  · rw [Int.natAbs_neg, Int.natAbs_natCast]
  · rw [Int.natAbs_natCast]

/-- No duration is too long for an elapsed time, whose milliseconds fit 64 bits. -/
theorem length_le (d : Duration) : d.length * 1000 ≤ 9223372036854775807 := by
  have hweeks := d.weeks.toNat_lt
  have hdays := d.days.toNat_lt
  have hhours := d.hours.toNat_lt
  have hminutes := d.minutes.toNat_lt
  have hseconds := d.seconds.toNat_lt
  unfold length
  omega

theorem sameSign (d : Duration) : 0 ≤ d.nominalDays ∧ 0 ≤ d.exactSeconds ∨
    d.nominalDays ≤ 0 ∧ d.exactSeconds ≤ 0 := by
  unfold nominalDays exactSeconds signed
  cases d.negative with
  | true =>
    simp only [if_true]
    omega
  | false =>
    simp only [Bool.false_eq_true, if_false]
    omega

theorem of_isZero (h : d.isZero = true) :
    d.nominalDays = 0 ∧ d.exactSeconds = 0 ∧ d.hasTime = false := by
  unfold isZero hasTime at h
  simp only [Bool.and_eq_true, Bool.not_eq_true', Bool.or_eq_false_iff, beq_iff_eq,
    bne_eq_false_iff_eq] at h
  obtain ⟨⟨hweeks, hdays⟩, ⟨hhours, hminutes⟩, hseconds⟩ := h
  simp [nominalDays, exactSeconds, hasTime, signed, hweeks, hdays, hhours, hminutes, hseconds]

theorem nonneg_of_isNegative (h : d.isNegative = false) :
    0 ≤ d.nominalDays ∧ 0 ≤ d.exactSeconds := by
  cases hz : d.isZero with
  | true =>
    obtain ⟨hdays, hseconds, -⟩ := of_isZero hz
    omega
  | false =>
    have hn : d.negative = false := by simpa [isNegative, hz] using h
    simp only [nominalDays, exactSeconds, signed, hn, Bool.false_eq_true, if_false]
    omega

theorem exactSeconds_of_hasTime (h : d.hasTime = false) : d.exactSeconds = 0 := by
  simp only [hasTime, Bool.or_eq_false_iff, bne_eq_false_iff_eq] at h
  obtain ⟨⟨hhours, hminutes⟩, hseconds⟩ := h
  simp [exactSeconds, signed, hhours, hminutes, hseconds]

theorem isNegative_iff : d.isNegative = true ↔ d.totalSeconds < 0 := by
  cases hn : d.isNegative with
  | false =>
    obtain ⟨hdays, hseconds⟩ := nonneg_of_isNegative hn
    unfold totalSeconds
    simp only [Bool.false_eq_true, false_iff, not_lt]
    omega
  | true =>
    obtain ⟨hsign, hz⟩ : d.negative = true ∧ d.isZero = false := by
      simpa [isNegative] using hn
    simp only [true_iff, totalSeconds, nominalDays, exactSeconds, signed, hsign, if_true]
    -- The sign alone makes nothing negative: some part has to differ from zero.
    by_contra hzero
    have hparts : d.weeks.toNat = 0 ∧ d.days.toNat = 0 ∧ d.hours.toNat = 0 ∧
        d.minutes.toNat = 0 ∧ d.seconds.toNat = 0 := by omega
    simp only [← UInt32.toNat_inj, UInt32.toNat_zero, isZero, hasTime, Bool.and_eq_false_iff,
      Bool.not_eq_false', Bool.or_eq_true, beq_eq_false_iff_ne, bne_iff_ne, ne_eq] at hz
    omega

end Recurrence.Duration
