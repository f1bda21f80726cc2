import Mathlib
import Recurrence.Proofs.Rule.Unit

/-! Machine numbers. A plain operation fails where its result does not fit 64 bits with a
sign, and a division also where it divides by zero; a checked one has no result there, and
counters stop at the highest number there is. The calendar has some half a million years,
so differences of readings fit with room to spare, and what does not fit leads out of it. -/
namespace Recurrence
open Calendar

/-- Why a plain operation on machine numbers fails. -/
inductive Fault where
  | overflow
  | divisionByZero
deriving DecidableEq

namespace Machine

/-- Whether a number fits 64 bits with a sign. -/
def FitsInt64 (n : Int) : Prop := -9223372036854775808 ≤ n ∧ n ≤ 9223372036854775807

instance (n : Int) : Decidable (FitsInt64 n) :=
  inferInstanceAs (Decidable (-9223372036854775808 ≤ n ∧ n ≤ 9223372036854775807))

/-- The result of a plain operation. -/
def int64 (n : Int) : Except Fault Int := if FitsInt64 n then .ok n else .error .overflow

/-- The result of a checked operation. -/
def int64? (n : Int) : Option Int := if FitsInt64 n then some n else none

/-- A plain division, rounded down for a divisor above zero. -/
def quotient (n divisor : Int) : Except Fault Int :=
  if divisor = 0 then .error .divisionByZero else int64 (n / divisor)

/-- Whether seconds are a span of time, whose milliseconds have to fit 64 bits. -/
def IsSpan (seconds : Int) : Prop := seconds.natAbs * 1000 < 9223372036854775808

instance (seconds : Int) : Decidable (IsSpan seconds) :=
  inferInstanceAs (Decidable (seconds.natAbs * 1000 < 9223372036854775808))

/-- The seconds from one reading to another. -/
def elapsed (since now : Int) : Except Fault Int :=
  if IsSpan (now - since) then .ok (now - since) else .error .overflow

/-- The whole days in some seconds, rounded toward zero. -/
def wholeDays (seconds : Int) : Int := seconds.tdiv 86400

/-- The days from one day to another. -/
def daysBetween (since now : Int) : Except Fault Int :=
  (elapsed (midnight since) (midnight now)).map wholeDays

/-- The highest number of 32 bits, at which counters stop. -/
def highestCount : Nat := 4294967295

/-- The highest number of 64 bits, at which steps stop. -/
def highestStep : Nat := 18446744073709551615

/-- The step after another, which is none after the highest. -/
def stepAfter (step : Nat) : Nat := min (step + 1) highestStep

theorem stepLimit_lt : stepLimit < highestStep := by decide

theorem stepAfter_eq {step : Nat} (h : step ≤ stepLimit) : stepAfter step = step + 1 :=
  min_eq_left (h.trans_lt stepLimit_lt)

theorem ok_bind {α β : Type} (a : α) (f : α → Except Fault β) : (Except.ok a >>= f) = f a := rfl

variable {n divisor seconds since now : Int}

theorem int64_eq (h : FitsInt64 n) : int64 n = .ok n := if_pos h

theorem int64?_eq (h : FitsInt64 n) : int64? n = some n := if_pos h

/-- A check refuses nothing but what comes to nothing anyway. -/
theorem int64?_bind {α : Type} {f : Int → Option α} (h : ¬ FitsInt64 n → f n = none) :
    (int64? n).bind f = f n := by
  by_cases hfits : FitsInt64 n
  · rw [int64?_eq hfits, Option.bind_some]
  · rw [int64?, if_neg hfits, Option.bind_none, h hfits]

theorem fitsInt64_of_natAbs_lt (h : n.natAbs < 9223372036854775808) : FitsInt64 n := by
  unfold FitsInt64
  omega

theorem fitsInt64_natCast_iff {n : Nat} : FitsInt64 n ↔ n < 9223372036854775808 := by
  unfold FitsInt64
  omega

theorem isSpan_natCast_iff {seconds : Nat} :
    IsSpan seconds ↔ seconds * 1000 < 9223372036854775808 :=
  Iff.rfl

theorem quotient_eq (h : n.natAbs < 9223372036854775808) (hdivisor : divisor ≠ 0) :
    quotient n divisor = .ok (n / divisor) := by
  have hle := Int.natAbs_ediv_le_natAbs n divisor
  rw [quotient, if_neg hdivisor, int64_eq (fitsInt64_of_natAbs_lt (hle.trans_lt h))]

theorem elapsed_eq (hs : Representable since) (hn : Representable now) :
    elapsed since now = .ok (now - since) := by
  refine if_pos ?_
  unfold Representable firstSecond lastSecond midnight firstDay lastDay at hs hn
  unfold IsSpan
  omega

theorem daysBetween_eq (hs : InCalendar since) (hn : InCalendar now) :
    daysBetween since now = .ok (now - since) := by
  rw [daysBetween, elapsed_eq (representable_midnight_iff.2 hs) (representable_midnight_iff.2 hn)]
  refine congrArg Except.ok ?_
  rw [wholeDays, midnight, midnight, ← sub_mul]
  exact Int.mul_tdiv_cancel _ (by decide)

/-- Seconds that are not below zero have as many whole days either way of rounding. -/
theorem wholeDays_eq (h : 0 ≤ seconds) : wholeDays seconds = seconds / 86400 :=
  Int.tdiv_eq_ediv_of_nonneg h

theorem move?_eq_none {wall : Int} {seconds : Nat} (h : Representable wall)
    (hlong : ¬ seconds * 1000 < 9223372036854775808) : move? wall seconds = none := by
  refine if_neg ?_
  unfold Representable firstSecond lastSecond midnight firstDay lastDay at *
  omega

theorem move?_product {wall : Int} (h : Representable wall) {length : Nat} (hpos : 0 < length)
    (step : Nat) :
    (do
      let steps ← int64? step
      let seconds ← int64? (steps * length)
      if IsSpan seconds then move? wall seconds else none) = move? wall (step * length : Nat) := by
  have hstep : step ≤ step * length := Nat.le_mul_of_pos_right step hpos
  -- A check that refuses refuses only what would lead out of the calendar.
  have hspan : (if IsSpan (step * length : Nat) then move? wall (step * length : Nat) else none) =
      move? wall (step * length : Nat) := by
    split
    · rfl
    · next hlong => exact (move?_eq_none h (mt isSpan_natCast_iff.2 hlong)).symm
  have hseconds : ((int64? (step * length : Nat)).bind fun seconds =>
      if IsSpan seconds then move? wall seconds else none) = move? wall (step * length : Nat) := by
    rw [int64?_bind, hspan]
    intro hlong
    rw [hspan, move?_eq_none h]
    rw [fitsInt64_natCast_iff] at hlong
    omega
  simp only [Option.bind_eq_bind]
  rw [int64?_bind, ← Nat.cast_mul, hseconds]
  intro hlong
  rw [← Nat.cast_mul, hseconds, move?_eq_none h]
  rw [fitsInt64_natCast_iff] at hlong
  omega

end Machine
end Recurrence
