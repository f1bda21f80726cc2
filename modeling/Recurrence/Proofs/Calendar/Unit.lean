import Mathlib
import Recurrence.Rule.Plan

/-! Years and months as intervals of days. Both divide the days without gaps,
so the year and the month of a day grow with it, and a day lies in a unit
exactly when it lies between the beginnings of that unit and the next. A real date is
told by its month and its place in it. -/
namespace Recurrence.Calendar
open Plan

theorem yearStart_lt_iff {a b : Int} : yearStart a < yearStart b ↔ a < b := by
  unfold yearStart
  omega

theorem yearStart_le_iff {a b : Int} : yearStart a ≤ yearStart b ↔ a ≤ b := by
  unfold yearStart
  omega

theorem yearOf_eq_iff {day year : Int} :
    yearOf day = year ↔ yearStart year ≤ day ∧ day < yearStart (year + 1) := by
  have hlow := yearStart_yearOf_le day
  have hhigh := lt_yearStart_yearOf_succ day
  constructor
  · rintro rfl
    exact ⟨hlow, hhigh⟩
  · rintro ⟨hl, hh⟩
    have h1 := yearStart_lt_iff.1 (hlow.trans_lt hh)
    have h2 := yearStart_lt_iff.1 (hl.trans_lt hhigh)
    omega

theorem yearOf_mono {a b : Int} (h : a ≤ b) : yearOf a ≤ yearOf b := by
  have h1 := yearStart_yearOf_le a
  have h2 := lt_yearStart_yearOf_succ b
  have := yearStart_lt_iff.1 (h1.trans_lt (h.trans_lt h2))
  omega

@[simp] theorem dateOf_year (day : Int) : (dateOf day).year = yearOf day := rfl

/-- The first day of a month counted from the first month of year 0. -/
def monthStart (index : Int) : Int :=
  yearStart (index / 12) + daysBefore (index / 12) ((index % 12).toNat + 1)

theorem daysBefore_one (year : Int) : daysBefore year 1 = 0 := rfl

theorem monthLength_pos (year : Int) (month : Nat) : 0 < monthLength year month := by
  unfold monthLength
  split
  · split <;> decide
  · decide
  · decide
  · decide
  · decide
  · decide

theorem monthStart_succ (index : Int) : monthStart (index + 1) =
    monthStart index + monthLength (index / 12) ((index % 12).toNat + 1) := by
  obtain ⟨m, hm⟩ : ∃ m : Nat, index % 12 = m := ⟨(index % 12).toNat, by omega⟩
  have hlt : m < 12 := by omega
  have hnext := daysBefore_succ (index / 12) (m + 1) (by omega) (by omega)
  unfold monthStart
  -- Behind December the month begins with the next year.
  by_cases hlast : m = 11
  · have hq : (index + 1) / 12 = index / 12 + 1 := by omega
    have hr : (index + 1) % 12 = 0 := by omega
    subst hlast
    rw [hq, hr, hm, yearStart_succ, ← daysBefore_end]
    simp only [Int.toNat_zero, Nat.zero_add, daysBefore_one, Int.toNat_natCast] at hnext ⊢
    rw [hnext]
    omega
  · have hq : (index + 1) / 12 = index / 12 := by omega
    have hr : (index + 1) % 12 = (m + 1 : Nat) := by omega
    rw [hq, hr, hm]
    simp only [Int.toNat_natCast]
    rw [hnext]
    omega

theorem monthStart_le_of_le {a b : Int} (h : a ≤ b) : monthStart a ≤ monthStart b := by
  obtain ⟨n, rfl⟩ : ∃ n : Nat, b = a + n := ⟨(b - a).toNat, by omega⟩
  clear h
  induction n with
  | zero => simp
  | succ n ih =>
    have := monthStart_succ (a + n)
    push_cast
    rw [← add_assoc, this]
    omega

theorem monthStart_lt_of_lt {a b : Int} (h : a < b) : monthStart a < monthStart b := by
  have h1 := monthStart_succ a
  have h2 := monthLength_pos (a / 12) ((a % 12).toNat + 1)
  have h3 := monthStart_le_of_le (show a + 1 ≤ b by omega)
  omega

theorem dateOf_month_bounds (day : Int) : 1 ≤ (dateOf day).month ∧ (dateOf day).month ≤ 12 ∧
    yearStart (yearOf day) + daysBefore (yearOf day) (dateOf day).month ≤ day ∧
    day < yearStart (yearOf day) + daysBefore (yearOf day) ((dateOf day).month + 1) := by
  have hs := yearStart_yearOf_le day
  have he := lt_yearStart_yearOf_succ day
  rw [yearStart_succ] at he
  have h := monthOf_bounds (yearOf day) (day - yearStart (yearOf day)) (by omega) (by omega)
  simp only [dateOf]
  omega

theorem dateOf_day_le (day : Int) :
    (dateOf day).day ≤ monthLength (yearOf day) (dateOf day).month := by
  obtain ⟨hlow, hhigh, -, hstop⟩ := dateOf_month_bounds day
  have hday := toDay_dateOf day
  rw [daysBefore_succ _ _ hlow hhigh] at hstop
  unfold Date.toDay at hday
  rw [dateOf_year] at hday
  omega

theorem monthIndex_dateOf_div (day : Int) : monthIndex (dateOf day) / 12 = yearOf day ∧
    (monthIndex (dateOf day) % 12).toNat + 1 = (dateOf day).month := by
  have h := dateOf_month_bounds day
  unfold monthIndex
  rw [dateOf_year]
  omega

theorem monthStart_monthIndex_le (day : Int) : monthStart (monthIndex (dateOf day)) ≤ day := by
  obtain ⟨hq, hr⟩ := monthIndex_dateOf_div day
  unfold monthStart
  rw [hq, hr]
  exact (dateOf_month_bounds day).2.2.1

theorem lt_monthStart_monthIndex_succ (day : Int) :
    day < monthStart (monthIndex (dateOf day) + 1) := by
  obtain ⟨hq, hr⟩ := monthIndex_dateOf_div day
  obtain ⟨h1, h12, -, h⟩ := dateOf_month_bounds day
  rw [daysBefore_succ _ _ h1 h12] at h
  rw [monthStart_succ]
  unfold monthStart
  rw [hq, hr]
  omega

theorem monthIndex_eq_iff {day index : Int} : monthIndex (dateOf day) = index ↔
    monthStart index ≤ day ∧ day < monthStart (index + 1) := by
  have hlow := monthStart_monthIndex_le day
  have hhigh := lt_monthStart_monthIndex_succ day
  constructor
  · rintro rfl
    exact ⟨hlow, hhigh⟩
  · rintro ⟨hl, hh⟩
    rcases lt_trichotomy (monthIndex (dateOf day)) index with hlt | heq | hgt
    · have := monthStart_le_of_le (show monthIndex (dateOf day) + 1 ≤ index by omega)
      omega
    · exact heq
    · have := monthStart_le_of_le (show index + 1 ≤ monthIndex (dateOf day) by omega)
      omega

theorem monthStart_eq (day : Int) :
    monthStart (monthIndex (dateOf day)) = day - ((dateOf day).day - 1) := by
  obtain ⟨hq, hr⟩ := monthIndex_dateOf_div day
  have hday := toDay_dateOf day
  unfold Date.toDay at hday
  rw [dateOf_year] at hday
  unfold monthStart
  rw [hq, hr]
  omega

theorem dateOf_toDay {date : Date} (h : date.IsReal) : dateOf date.toDay = date := by
  obtain ⟨year, month, day⟩ := date
  obtain ⟨-, -, hfirst, hlast, hday, hfits⟩ := h
  dsimp only at hfirst hlast hday hfits
  have hq : (year * 12 + month - 1) / 12 = year := by omega
  have hr : ((year * 12 + month - 1) % 12).toNat + 1 = month := by omega
  obtain ⟨other, hother⟩ : ∃ other, other = Date.toDay ⟨year, month, day⟩ := ⟨_, rfl⟩
  have hstart : monthStart (year * 12 + month - 1) + (day - 1) = other := by
    simp only [hother, monthStart, hq, hr, Date.toDay]
    omega
  -- the day lies in the month that the date says
  have hindex : monthIndex (dateOf other) = year * 12 + month - 1 := by
    refine monthIndex_eq_iff.2 ⟨by omega, ?_⟩
    rw [monthStart_succ, hq, hr]
    omega
  have hfields := monthIndex_dateOf_div other
  have hplace := monthStart_eq other
  rw [hindex, hq, hr] at hfields
  rw [hindex] at hplace
  have hyear : (dateOf other).year = year := hfields.1.symm
  have hmonth : (dateOf other).month = month := hfields.2.symm
  have hdays : (dateOf other).day = day := by omega
  rw [← hother]
  calc dateOf other = ⟨(dateOf other).year, (dateOf other).month, (dateOf other).day⟩ := rfl
    _ = ⟨year, month, day⟩ := by rw [hyear, hmonth, hdays]

end Recurrence.Calendar
