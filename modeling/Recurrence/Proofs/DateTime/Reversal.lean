import Mathlib
import Recurrence.Proofs.DateTime.Sum
import Recurrence.Proofs.Rule.Unit
import Recurrence.Zone.Atlas
import Recurrence.Zone.Resolver

/-! Sums without a zone. Days and seconds are added one after the other, each within the
calendar; as they have one sign, what lies between a value and its sum is in the calendar
as well. So nothing is refused but a sum beyond the calendar, and the way back is open. -/
namespace Recurrence.DateTime
open Calendar

/-- The value of the same kind and form that reads otherwise. -/
def withWall (value : DateTime) (wall : Int) : DateTime :=
  match value with
  | date _ => date (dayOf wall)
  | time _ form => time wall form

variable {value : DateTime} {duration : Duration}

@[simp] theorem form_withWall (value : DateTime) (wall : Int) :
    (value.withWall wall).form = value.form := by
  cases value <;> rfl

@[simp] theorem hasTime_withWall (value : DateTime) (wall : Int) :
    (value.withWall wall).hasTime = value.hasTime := by
  cases value <;> rfl

@[simp] theorem withWall_withWall (value : DateTime) (wall other : Int) :
    (value.withWall wall).withWall other = value.withWall other := by
  cases value <;> rfl

@[simp] theorem withWall_wall (value : DateTime) : value.withWall value.wall = value := by
  cases value with
  | date day => exact congrArg date (dayOf_midnight day)
  | time wall form => rfl

/-- The days of a duration do not lead out of the calendar if the whole of it does not. -/
theorem representable_days {wall : Int} (hwall : Representable wall)
    (hsum : Representable (wall + duration.totalSeconds)) :
    Representable (wall + duration.nominalDays * 86400) := by
  have hsign := duration.sameSign
  unfold Representable Duration.totalSeconds at *
  omega

section

variable (hdate : value.hasTime = false → duration.hasTime = false)
include hdate

/-- A duration without a time part moves a DATE to the midnight of another. -/
theorem wall_withWall_add : (value.withWall (value.wall + duration.totalSeconds)).wall =
    value.wall + duration.totalSeconds := by
  cases value with
  | date day =>
    have hseconds := Duration.exactSeconds_of_hasTime (hdate rfl)
    unfold Duration.totalSeconds
    dsimp only [withWall, DateTime.wall, midnight, dayOf]
    omega
  | time wall form => rfl

variable (hA : value.InCalendar) (hzone : value.tzid? = none)
include hA hzone

theorem add_of_representable (clocks : Clocks)
    (hsum : Representable (value.wall + duration.totalSeconds)) :
    value.add clocks duration = .ok (value.withWall (value.wall + duration.totalSeconds)) := by
  have hdays := representable_days hA hsum
  rw [add_eq_addBy (clock?_unzoned hzone)]
  cases value with
  | date day =>
    have hseconds := Duration.exactSeconds_of_hasTime (hdate rfl)
    refine (addBy_date (hdate rfl)).2 ⟨hdays, ?_⟩
    rw [withWall, Duration.totalSeconds, hseconds, add_zero]
    rfl
  | time wall form =>
    rw [Duration.totalSeconds, ← add_assoc] at hsum ⊢
    exact addBy_unzoned.2 ⟨hdays, hsum, rfl⟩

omit hA in
theorem add_of_not_representable (clocks : Clocks)
    (hsum : ¬ Representable (value.wall + duration.totalSeconds)) :
    value.add clocks duration = .error (.invalid (.sumOutOfRange value duration)) := by
  rw [add_eq_addBy (clock?_unzoned hzone)]
  rw [Duration.totalSeconds, ← add_assoc] at hsum
  unfold addBy move?
  by_cases hdays : Representable (value.wall + duration.nominalDays * 86400)
  · cases value with
    | date day => simp [hdays, hsum, bind, Except.bind]
    | time wall form => simp [hdays, hsum, bind, Except.bind]
  · simp [hdays, bind, Except.bind]

theorem add_negate (clocks : Clocks) (hsum : Representable (value.wall + duration.totalSeconds)) :
    (value.withWall (value.wall + duration.totalSeconds)).add clocks duration.negate =
      .ok value := by
  have hwall := wall_withWall_add hdate
  have hback : (value.withWall (value.wall + duration.totalSeconds)).wall +
      duration.negate.totalSeconds = value.wall := by
    rw [hwall, Duration.totalSeconds_negate]
    omega
  have hdate' : (value.withWall (value.wall + duration.totalSeconds)).hasTime = false →
      duration.negate.hasTime = false := by
    rw [hasTime_withWall]
    exact hdate
  have hA' : (value.withWall (value.wall + duration.totalSeconds)).InCalendar := by
    rw [InCalendar, hwall]
    exact hsum
  have hzone' := (tzid?_congr (form_withWall value (value.wall + duration.totalSeconds))).trans hzone
  have hrepresentable : Representable ((value.withWall (value.wall + duration.totalSeconds)).wall +
      duration.negate.totalSeconds) := by
    rw [hback]
    exact hA
  rw [add_of_representable hdate' hA' hzone' clocks hrepresentable, hback, withWall_withWall,
    withWall_wall]

end

/-- Without a zone there is a sum exactly if the reading moved by the whole duration lies
in the calendar. It has that reading and is of the kind and the form of the value, and
the negated duration leads back from it to the value. A DATE goes with whole days. -/
theorem add_and_back (clocks : Clocks) {value : DateTime} {duration : Duration}
    (hA : value.InCalendar) (hzone : value.tzid? = none)
    (hdate : value.hasTime = false → duration.hasTime = false) :
    ((∃ sum, value.add clocks duration = .ok sum) ↔
      Representable (value.wall + duration.totalSeconds)) ∧
    (∀ sum, value.add clocks duration = .ok sum →
      sum.wall = value.wall + duration.totalSeconds ∧ sum.hasTime = value.hasTime ∧
        sum.form = value.form ∧ sum.add clocks duration.negate = .ok value) ∧
    ∀ error, value.add clocks duration = .error error →
      error = .invalid (.sumOutOfRange value duration) := by
  by_cases hsum : Representable (value.wall + duration.totalSeconds)
  · rw [add_of_representable hdate hA hzone clocks hsum]
    refine ⟨iff_of_true ⟨_, rfl⟩ hsum, ?_, fun error h => nomatch h⟩
    rintro _ ⟨⟩
    exact ⟨wall_withWall_add hdate, hasTime_withWall _ _, form_withWall _ _,
      add_negate hdate hA hzone clocks hsum⟩
  · rw [add_of_not_representable hdate hzone clocks hsum]
    refine ⟨iff_of_false (fun ⟨_, h⟩ => nomatch h) hsum, fun sum h => (nomatch h), ?_⟩
    rintro _ ⟨⟩
    rfl

/-- A week, two days and 03:04:05 before the calendar ends, and on to its end again. -/
theorem add_and_back_fromEnd : ∃ sum,
    (DateTime.time lastSecond .utc).add (Resolver.empty Zone.Atlas.database).clocks
      ⟨true, 1, 2, 3, 4, 5⟩ = .ok sum ∧
    sum.wall = lastSecond - 788645 ∧
    sum.add (Resolver.empty Zone.Atlas.database).clocks ⟨false, 1, 2, 3, 4, 5⟩ =
      .ok (.time lastSecond .utc) := by
  obtain ⟨hexists, hsum, -⟩ := add_and_back (Resolver.empty Zone.Atlas.database).clocks
    (show (DateTime.time lastSecond .utc).InCalendar by decide) rfl
    (fun h => nomatch h : _ → (⟨true, 1, 2, 3, 4, 5⟩ : Duration).hasTime = false)
  obtain ⟨sum, hadd⟩ := hexists.2 (by decide)
  obtain ⟨hwall, -, -, hback⟩ := hsum sum hadd
  exact ⟨sum, hadd, hwall, hback⟩

end Recurrence.DateTime
