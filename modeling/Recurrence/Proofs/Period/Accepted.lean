import Mathlib
import Recurrence.Proofs.Duration.Elapsed
import Recurrence.Proofs.Occurrence.Place

/-! What the constructors of periods accept, and the durations that follow from an
end. -/
namespace Recurrence
open Calendar

namespace Duration

variable {duration : Duration}

theorem exists_ofElapsed {first last : Int} (hfirst : Representable first)
    (hlast : Representable last) : ∃ duration, ofElapsed (last - first) = .ok duration := by
  have : lastSecond - firstSecond < 4294967296 * 86400 := by decide
  apply exists_ofElapsed_iff.2
  unfold Representable at hfirst hlast
  omega

theorem magnitude_eq_ok_iff {part : Int} {value : UInt32} :
    magnitude part = .ok value ↔ value.toNat = part.natAbs := by
  unfold magnitude
  split
  · next hfits =>
    simp only [Except.ok.injEq, ← UInt32.toNat_inj, UInt32.toNat_ofNat']
    omega
  · next hlarge =>
    have := value.toNat_lt
    simp only [reduceCtorEq, false_iff]
    omega

theorem ofParts_days_eq_ok_iff {days : Int} : ofParts 0 days 0 0 0 = .ok duration ↔
    duration = ⟨decide (days < 0), 0, duration.days, 0, 0, 0⟩ ∧
      duration.days.toNat = days.natAbs := by
  have hzero : magnitude 0 = .ok 0 := rfl
  have hsigns : ¬ ((days < 0) ∧ (0 < days)) := by omega
  unfold ofParts
  simp only [List.any_cons, List.any_nil, lt_irrefl, decide_false, Bool.false_or, Bool.or_false,
    Bool.and_eq_true, decide_eq_true_eq, if_neg hsigns, hzero, bind_eq_ok_iff, Except.ok.injEq,
    exists_eq_left', magnitude_eq_ok_iff, pure_eq_ok_iff]
  constructor
  · rintro ⟨value, hvalue, rfl⟩
    exact ⟨rfl, hvalue⟩
  · rintro ⟨heq, hvalue⟩
    exact ⟨_, hvalue, heq.symm⟩

theorem of_ofParts_days {days : Int} (h : ofParts 0 days 0 0 0 = .ok duration) :
    duration.nominalDays = days ∧ duration.exactSeconds = 0 ∧ duration.hasTime = false := by
  obtain ⟨heq, hvalue⟩ := ofParts_days_eq_ok_iff.1 h
  rw [heq]
  refine ⟨?_, ?_, rfl⟩
  · simp only [nominalDays, signed, hvalue, UInt32.toNat_zero, decide_eq_true_eq]
    split <;> omega
  · simp [exactSeconds, signed]

theorem exists_ofParts_days {days : Int} (h : days.natAbs < 4294967296) :
    ∃ duration, ofParts 0 days 0 0 0 = .ok duration :=
  ⟨⟨decide (days < 0), 0, .ofNat days.natAbs, 0, 0, 0⟩, ofParts_days_eq_ok_iff.2
    ⟨rfl, UInt32.toNat_ofNat_of_lt' h⟩⟩

end Duration

namespace Period

variable {clocks : Clocks} {start stop : DateTime} {period : Period} {duration : Duration}

theorem withEnd_eq_ok_iff : withEnd start stop = .ok period ↔
    start.hasTime = stop.hasTime ∧ start.form = stop.form ∧ start.wall ≤ stop.wall ∧
      period = ⟨start, .upTo stop⟩ := by
  unfold withEnd
  split
  · next hkind => simp [hkind]
  · next hkind =>
    split
    · next hform => simp [hform]
    · next hform =>
      rw [not_not] at hkind hform
      split
      · next horder =>
        simp only [reduceCtorEq, false_iff, not_and]
        intro _ _ hle
        omega
      · next horder =>
        simp only [Except.ok.injEq, hkind, hform, not_lt.1 horder, true_and, eq_comm]

theorem withDuration_eq_ok_iff : withDuration start duration = .ok period ↔
    durationError? start duration = none ∧ period = ⟨start, .lasting duration⟩ := by
  unfold withDuration
  split
  · next error he => simp [he]
  · next he => simp [he, eq_comm]

theorem durationError?_eq_none_iff : durationError? start duration = none ↔
    duration.isNegative = false ∧ (start.hasTime = false → duration.hasTime = false) := by
  unfold durationError?
  cases duration.isNegative <;> cases start.hasTime <;> cases duration.hasTime <;> simp

theorem effectiveDuration_time {wall first last : Int} {form : Form}
    (hfirst : (DateTime.time wall form).toUtc clocks = .ok first)
    (hlast : stop.toUtc clocks = .ok last) :
    effectiveDuration clocks ⟨.time wall form, .upTo stop⟩ = .ok duration ↔
      Duration.ofElapsed (last - first) = .ok duration := by
  simp only [effectiveDuration, bind_eq_ok_iff, orZone_eq_ok_iff, orInvalid_eq_ok_iff, hfirst,
    hlast, Except.ok.injEq, exists_eq_left']

theorem totalSeconds_effectiveDuration {first last : Int} (hkind : start.hasTime = stop.hasTime)
    (hfirst : start.toUtc clocks = .ok first) (hlast : stop.toUtc clocks = .ok last)
    (h : effectiveDuration clocks ⟨start, .upTo stop⟩ = .ok duration) :
    duration.totalSeconds = last - first := by
  cases start with
  | date day =>
    cases stop with
    | time wall form => cases hkind
    | date last =>
      cases hfirst
      cases hlast
      obtain ⟨hdays, hseconds, -⟩ := Duration.of_ofParts_days (orInvalid_eq_ok_iff.1 h)
      rw [Duration.totalSeconds, hdays, hseconds]
      dsimp only [DateTime.day, midnight]
      omega
  | time wall form =>
    exact Duration.totalSeconds_of_ofElapsed ((effectiveDuration_time hfirst hlast).1 h)

end Period
end Recurrence
