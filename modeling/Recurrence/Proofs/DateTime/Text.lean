import Mathlib
import Recurrence.DateTime.Reader
import Recurrence.Proofs.Calendar.Unit
import Recurrence.Proofs.Text.Numbers

/-! Dates and times read back from their text, for years of four digits. -/
namespace Recurrence
open Calendar

namespace Calendar

/-- Whether the year of a day is written with four digits. -/
def HasPlainYear (day : Int) : Prop := 0 ≤ yearOf day ∧ yearOf day ≤ 9999

theorem isReal_dateOf {day : Int} (h : HasPlainYear day) : (dateOf day).IsReal := by
  obtain ⟨hlow, hhigh, -, -⟩ := dateOf_month_bounds day
  obtain ⟨hfirst, hlast⟩ := h
  refine ⟨?_, ?_, hlow, hhigh, Nat.succ_pos _, dateOf_day_le day⟩
  · rw [dateOf_year, firstYear]
    omega
  · rw [dateOf_year, lastYear]
    omega

theorem dayOf?_dateOf {day : Int} (h : HasPlainYear day) :
    dayOf? (dateOf day).year (dateOf day).month (dateOf day).day = some day := by
  have htoDay := toDay_dateOf day
  unfold dayOf?
  rw [if_pos (isReal_dateOf h)]
  exact congrArg some htoDay

theorem dateText_toList {day : Int} (h : HasPlainYear day) : (dateText day).toList =
    Text.padded 4 (yearOf day).toNat ++ Text.padded 2 (dateOf day).month ++
      Text.padded 2 (dateOf day).day := by
  have hyear : yearText (yearOf day) = Text.paddedText 4 (yearOf day).toNat := if_pos h
  simp only [dateText, dateOf_year, hyear, String.toList_append, Text.paddedText,
    String.toList_ofList]

end Calendar

theorem readDay?_append {year month day : List Char} (hyear : year.length = 4)
    (hmonth : month.length = 2) (hday : day.length = 2) : readDay? (year ++ month ++ day) =
      (Text.readNat? year).bind fun year => (Text.readNat? month).bind fun month =>
        (Text.readNat? day).bind fun day => dayOf? year month day := by
  match year, month, day, hyear, hmonth, hday with
  | [_, _, _, _], [_, _], [_, _], rfl, rfl, rfl => rfl

theorem readTime?_append {hour minute second : List Char} (hhour : hour.length = 2)
    (hminute : minute.length = 2) (hsecond : second.length = 2) :
    readTime? (hour ++ minute ++ second) =
      (Text.readNat? hour).bind fun hour => (Text.readNat? minute).bind fun minute =>
        (Text.readNat? second).bind fun second =>
          if hour ≤ 23 ∧ minute ≤ 59 ∧ second ≤ 60 then
            some (timeOfDay hour minute (min second 59))
          else none := by
  match hour, minute, second, hhour, hminute, hsecond with
  | [_, _], [_, _], [_, _], rfl, rfl, rfl => rfl

theorem readDay?_dateText {day : Int} (h : HasPlainYear day) :
    readDay? (dateText day).toList = some day := by
  obtain ⟨-, hhigh, -, -⟩ := dateOf_month_bounds day
  have hday := dateOf_day_le day
  have hmonth : monthLength (yearOf day) (dateOf day).month ≤ 31 := by
    unfold monthLength
    split <;> (try split) <;> omega
  have hyear : ((yearOf day).toNat : Int) = yearOf day := Int.toNat_of_nonneg h.1
  have hfour := h.2
  rw [dateText_toList h, readDay?_append (Text.length_padded (by decide) (by omega))
    (Text.length_padded (by decide) (by omega)) (Text.length_padded (by decide) (by omega))]
  simp only [Text.readNat?_padded, Option.bind_some, hyear]
  exact dayOf?_dateOf h

theorem timeText_toList (wall : Int) : (timeText wall).toList =
    Text.padded 2 (hourOf wall) ++ Text.padded 2 (minuteOf wall) ++ Text.padded 2 (secondOf wall) := by
  simp only [timeText, String.toList_append, Text.paddedText, String.toList_ofList]

theorem readTime?_timeText (wall : Int) :
    readTime? (timeText wall).toList = some (secondOfDay wall) := by
  have hday : secondOfDay wall < 86400 := by
    unfold secondOfDay
    omega
  have hhour : hourOf wall ≤ 23 := by
    unfold hourOf
    omega
  have hminute : minuteOf wall ≤ 59 := by
    unfold minuteOf
    omega
  have hsecond : secondOf wall ≤ 59 := by
    unfold secondOf
    omega
  -- Each field has two digits, and none needs the leap second.
  rw [timeText_toList, readTime?_append (Text.length_padded (by decide) (by omega))
    (Text.length_padded (by decide) (by omega)) (Text.length_padded (by decide) (by omega))]
  simp only [Text.readNat?_padded, Option.bind_some]
  rw [if_pos (by omega), min_eq_left hsecond]
  unfold timeOfDay hourOf minuteOf secondOf
  congr 1
  omega

theorem not_mem_of_isDigit {cs : List Char} (h : cs.all Char.isDigit = true) {c : Char}
    (hc : c.isDigit = false) : c ∉ cs := by
  intro hmem
  rw [List.all_eq_true.1 h c hmem] at hc
  cases hc

theorem isDigit_dateText {day : Int} (h : HasPlainYear day) :
    (dateText day).toList.all Char.isDigit = true := by
  simp only [dateText_toList h, List.all_append, Text.isDigit_padded, Bool.and_self]

theorem isDigit_timeText (wall : Int) : (timeText wall).toList.all Char.isDigit = true := by
  simp only [timeText_toList, List.all_append, Text.isDigit_padded, Bool.and_self]

theorem wallText_toList (wall : Int) : (wallText wall).toList =
    (dateText (dayOf wall)).toList ++ 'T' :: (timeText wall).toList := by
  simp [wallText]

namespace DateTime

/-- A date-time without a zone is its date, a T, its time and, in UTC, a Z. -/
theorem exists_text_toList (wall : Int) {form : Form} (hform : form = .floating ∨ form = .utc) :
    ∃ mark, Text.IsWord mark ∧ (time wall form).text.toList =
      (dateText (dayOf wall)).toList ++ 'T' :: ((timeText wall).toList ++ mark) := by
  rcases hform with rfl | rfl
  · refine ⟨[], List.forall_mem_nil _, ?_⟩
    rw [List.append_nil]
    exact wallText_toList wall
  · have htext : (time wall .utc).text.toList = (wallText wall).toList ++ ['Z'] :=
      String.toList_append
    refine ⟨['Z'], List.forall_mem_singleton.2 rfl, ?_⟩
    rw [htext, wallText_toList, List.append_assoc, List.cons_append]

end DateTime

end Recurrence
