import Recurrence.Calendar.Date
import Recurrence.Text.Fields
/-!
Days of the week and the seven-day weeks that begin on one of them.
-/
namespace Recurrence.Calendar

inductive Weekday where
  | monday
  | tuesday
  | wednesday
  | thursday
  | friday
  | saturday
  | sunday
deriving DecidableEq, Inhabited

namespace Weekday

/-- The days from Monday to a weekday. -/
def index : Weekday → Nat
  | monday => 0
  | tuesday => 1
  | wednesday => 2
  | thursday => 3
  | friday => 4
  | saturday => 5
  | sunday => 6

/-- The weekday of a day; day 0 is a Thursday. -/
def of (day : Int) : Weekday :=
  match ((day + 3) % 7).toNat with
  | 0 => monday
  | 1 => tuesday
  | 2 => wednesday
  | 3 => thursday
  | 4 => friday
  | 5 => saturday
  | _ => sunday

def text : Weekday → String
  | monday => "MO"
  | tuesday => "TU"
  | wednesday => "WE"
  | thursday => "TH"
  | friday => "FR"
  | saturday => "SA"
  | sunday => "SU"

/-- Reads the two letters of a weekday in either case. -/
def read? (cs : List Char) : Option Weekday :=
  match Text.upper cs with
  | ['M', 'O'] => some monday
  | ['T', 'U'] => some tuesday
  | ['W', 'E'] => some wednesday
  | ['T', 'H'] => some thursday
  | ['F', 'R'] => some friday
  | ['S', 'A'] => some saturday
  | ['S', 'U'] => some sunday
  | _ => none

theorem index_of (day : Int) : (of day).index = (day + 3) % 7 := by
  obtain ⟨n, hn⟩ : ∃ n : Nat, (day + 3) % 7 = n := ⟨((day + 3) % 7).toNat, by omega⟩
  have hlt : n < 7 := by omega
  simp only [of, hn, Int.toNat_natCast]
  have : n = 0 ∨ n = 1 ∨ n = 2 ∨ n = 3 ∨ n = 4 ∨ n = 5 ∨ n = 6 := by omega
  rcases this with rfl | rfl | rfl | rfl | rfl | rfl | rfl <;> rfl

@[simp] theorem read?_text (weekday : Weekday) : read? weekday.text.toList = some weekday := by
  cases weekday <;> decide

end Weekday

/-- The first day of the week holding a day, for weeks that begin on `first`. -/
def weekStart (first : Weekday) (day : Int) : Int := day - (day + 3 - first.index) % 7

theorem weekStart_le (first : Weekday) (day : Int) : weekStart first day ≤ day := by
  unfold weekStart
  omega

theorem lt_weekStart_add (first : Weekday) (day : Int) : day < weekStart first day + 7 := by
  unfold weekStart
  omega

/-- The first day of week 1 of a year: the first week with at least four days in the year, which
is the week of 4 January. -/
def weekOneStart? (first : Weekday) (year : Int) : Option Int :=
  match dayOf? year 1 4 with
  | some day =>
    let start := weekStart first day
    if InCalendar start then some start else none
  | none => none

end Recurrence.Calendar
