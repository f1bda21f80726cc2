import Mathlib
import Recurrence.Proofs.Calendar.Unit
import Recurrence.Rule.DayFilter

/-! Places by counting. A day has a place among days of some kind, which says how many of
them come up to it or, below zero, how many are left from it on. Years and months are
intervals of days, and every seventh day of an interval has one weekday. -/
namespace Recurrence.Calendar

/-- Whether a number is the place of a day among some days, counted from 1 at the first
or from -1 at the last. -/
def IsPlace (days : Set Int) (day place : Int) : Prop :=
  place = (days ∩ Set.Iic day).ncard ∨ place = -((days ∩ Set.Ici day).ncard : Int)

/-- The days of the year of a day. -/
def sameYear (day : Int) : Set Int := {other | yearOf other = yearOf day}

/-- The days of the month of a day. -/
def sameMonth (day : Int) : Set Int :=
  {other | yearOf other = yearOf day ∧ (dateOf other).month = (dateOf day).month}

/-- The days that have the weekday of a day. -/
def sameWeekday (day : Int) : Set Int := {other | Weekday.of other = Weekday.of day}

theorem ncard_Icc (first last : Int) : (Set.Icc first last).ncard = (last + 1 - first).toNat := by
  rw [← Finset.coe_Icc, Set.ncard_coe_finset, Int.card_Icc]

/-- An interval that begins on a day has its every seventh day, that day included, as often
as sevens begin in it. -/
theorem ncard_everySeventh (first : Int) (count : Nat) :
    {day | (first ≤ day ∧ day < first + 7 * count) ∧ (day - first) % 7 = 0}.ncard = count := by
  have himage : {day | (first ≤ day ∧ day < first + 7 * count) ∧ (day - first) % 7 = 0} =
      (fun k : Nat => first + 7 * k) '' Set.Iio count := by
    ext day
    simp only [Set.mem_ofPred_eq, Set.mem_image, Set.mem_Iio]
    constructor
    · rintro ⟨⟨hlow, hhigh⟩, hseven⟩
      exact ⟨((day - first) / 7).toNat, by omega, by omega⟩
    · rintro ⟨k, hk, rfl⟩
      omega
  have hinj : Function.Injective fun k : Nat => first + 7 * (k : Int) := by
    intro i j h
    simp only at h
    omega
  rw [himage, Set.ncard_image_of_injective _ hinj, ← Finset.coe_Iio, Set.ncard_coe_finset,
    Nat.card_Iio]

theorem Weekday.index_lt (weekday : Weekday) : weekday.index < 7 := by
  cases weekday <;> decide

theorem Weekday.index_inj {one other : Weekday} : one.index = other.index ↔ one = other := by
  cases one <;> cases other <;> decide

theorem Weekday.of_eq_iff {day : Int} {weekday : Weekday} :
    Weekday.of day = weekday ↔ (day + 3 - weekday.index) % 7 = 0 := by
  have hday := Weekday.index_of day
  have hlt := weekday.index_lt
  rw [← Weekday.index_inj]
  omega

theorem mem_sameWeekday_iff {day other : Int} :
    other ∈ sameWeekday day ↔ (other - day) % 7 = 0 := by
  have hday := Weekday.index_of day
  unfold sameWeekday
  rw [Set.mem_ofPred_eq, Weekday.of_eq_iff]
  omega

section Interval

variable {first stop day place : Int} (hlow : first ≤ day) (hhigh : day < stop)
include hlow hhigh

theorem isPlace_interval : IsPlace (Set.Ico first stop) day place ↔
    place = day - first + 1 ∨ place = day - stop := by
  have hbefore : Set.Ico first stop ∩ Set.Iic day = Set.Icc first day := by
    ext other
    simp only [Set.mem_inter_iff, Set.mem_Ico, Set.mem_Iic, Set.mem_Icc]
    omega
  have hbehind : Set.Ico first stop ∩ Set.Ici day = Set.Icc day (stop - 1) := by
    ext other
    simp only [Set.mem_inter_iff, Set.mem_Ico, Set.mem_Ici, Set.mem_Icc]
    omega
  unfold IsPlace
  rw [hbefore, hbehind, ncard_Icc, ncard_Icc]
  omega

theorem isPlace_weekday : IsPlace (Set.Ico first stop ∩ sameWeekday day) day place ↔
    DayFilter.isNth place (day - first) (stop - first) = true := by
  have hbefore : Set.Ico first stop ∩ sameWeekday day ∩ Set.Iic day =
      {other | (day - 7 * ((day - first) / 7) ≤ other ∧
        other < day - 7 * ((day - first) / 7) + 7 * ((day - first) / 7 + 1).toNat) ∧
          (other - (day - 7 * ((day - first) / 7))) % 7 = 0} := by
    ext other
    simp only [Set.mem_inter_iff, Set.mem_Ico, Set.mem_Iic, mem_sameWeekday_iff, Set.mem_ofPred_eq]
    omega
  have hbehind : Set.Ico first stop ∩ sameWeekday day ∩ Set.Ici day =
      {other | (day ≤ other ∧ other < day + 7 * ((stop - 1 - day) / 7 + 1).toNat) ∧
        (other - day) % 7 = 0} := by
    ext other
    simp only [Set.mem_inter_iff, Set.mem_Ico, Set.mem_Ici, mem_sameWeekday_iff, Set.mem_ofPred_eq]
    omega
  unfold IsPlace DayFilter.isNth
  rw [hbefore, hbehind, ncard_everySeventh, ncard_everySeventh]
  simp only [Bool.or_eq_true, beq_iff_eq]
  omega

end Interval

theorem sameYear_eq (day : Int) :
    sameYear day = Set.Ico (yearStart (yearOf day)) (yearStart (yearOf day + 1)) := by
  ext other
  exact yearOf_eq_iff

theorem sameMonth_eq (day : Int) : sameMonth day =
    Set.Ico (day - ((dateOf day).day - 1))
      (day - ((dateOf day).day - 1) + monthLength (yearOf day) (dateOf day).month) := by
  obtain ⟨hq, hr⟩ := monthIndex_dateOf_div day
  ext other
  have hindex : other ∈ sameMonth day ↔
      Plan.monthIndex (dateOf other) = Plan.monthIndex (dateOf day) := by
    have hday := dateOf_month_bounds day
    have hother := dateOf_month_bounds other
    unfold sameMonth Plan.monthIndex
    rw [Set.mem_ofPred_eq, dateOf_year, dateOf_year]
    omega
  rw [hindex, monthIndex_eq_iff, monthStart_succ, hq, hr, monthStart_eq, Set.mem_Ico]

end Recurrence.Calendar
