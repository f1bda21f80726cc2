import Mathlib
import Recurrence.Proofs.Failure
import Recurrence.Proofs.Rule.TimeOfDay
import Recurrence.Rule.Reader

/-! Checks by what they admit. Nothing is found wrong with the lists of a pattern, so a rule
that says the same as a pattern gives that pattern. -/
namespace Recurrence

namespace ByLists

theorem rangeError?_eq_none_iff {lists : ByLists} : lists.rangeError? = none ↔ lists.InRange := by
  refine ⟨inRange_of_rangeError?, fun h => ?_⟩
  simp only [rangeError?, Option.orElse_eq_orElse, Option.orElse_eq_or, Option.or_eq_none_iff,
    firstOutside?_eq_none_iff, decide_eq_true_eq]
  refine ⟨h.seconds, h.minutes, h.hours, h.monthDays, h.yearDays, h.weekNumbers, h.months,
    h.positions, fun day hday => ?_⟩
  cases hn : day.ordinal with
  | none => rfl
  | some n => simpa using h.days day hday n hn

theorem fitError?_eq_none_iff {frequency : Frequency} {lists : ByLists} :
    lists.fitError? frequency = none ↔ lists.Fits frequency := by
  refine ⟨fits_of_fitError?, fun h => ?_⟩
  unfold fitError?
  split
  · next day hday =>
    have hmem := List.mem_of_find?_eq_some hday
    have hsome : day.ordinal.isSome = true := by simpa using List.find?_some hday
    have hlong := h.ordinal ⟨day, hmem, hsome⟩
    have hweeks : lists.weekNumbers = [] := by
      by_contra hne
      rw [h.notBoth hne day hmem] at hsome
      cases hsome
    rw [if_neg (by tauto), if_pos hweeks]
  · by_cases hweeks : lists.weekNumbers = []
    · rw [if_pos (.inl hweeks)]
    · rw [if_pos (.inr (h.weekNumber hweeks))]

end ByLists

theorem eraseDups_of_nodup {α : Type} [DecidableEq α] {values : List α} (h : values.Nodup) :
    values.eraseDups = values := by
  induction values with
  | nil => rfl
  | cons value values ih =>
    obtain ⟨hvalue, hvalues⟩ := List.nodup_cons.1 h
    have hkeep : values.filter (fun other => !other == value) = values := by
      refine List.filter_eq_self.2 fun other hother => ?_
      simpa using fun heq : other = value => hvalue (heq ▸ hother)
    rw [List.eraseDups_cons, hkeep, ih hvalues]

theorem eraseDups_eraseDups {α : Type} [DecidableEq α] (values : List α) :
    values.eraseDups.eraseDups = values.eraseDups :=
  eraseDups_of_nodup (Plan.nodup_eraseDups values)

theorem ByLists.distinct_distinct (lists : ByLists) : lists.distinct.distinct = lists.distinct := by
  simp only [distinct, eraseDups_eraseDups]

namespace Pattern

variable {rule : Rule} {pattern : Pattern}

theorem endingOf_eq_ok_iff {count : Option UInt32} {endsAt : Option Until} :
    endingOf count endsAt = .ok pattern.ending ↔
      count = pattern.count? ∧ endsAt = pattern.until? := by
  unfold endingOf count? until?
  cases count <;> cases endsAt <;> cases pattern.ending <;> simp

/-- A rule gives a pattern that says the same with no value twice, if nothing is wrong with it. -/
theorem ofRule_eq_ok_iff : ofRule rule = .ok pattern ↔
    rule.frequency = some pattern.frequency ∧ rule.interval.getD 1 = pattern.interval ∧
      endingOf rule.count rule.endsAt = .ok pattern.ending ∧
      rule.weekStart.getD .monday = pattern.weekStart ∧ rule.lists.distinct = pattern.lists ∧
      rule.lists.InRange ∧ rule.lists.Fits pattern.frequency := by
  constructor
  · intro h
    unfold ofRule at h
    split at h
    · cases h
    · next frequency hfrequency =>
      dsimp only at h
      split at h
      · split at h
        · cases h
        · next ending hending =>
          split at h
          · cases h
          · next hrange =>
            split at h
            · cases h
            · next hfits =>
              cases h
              exact ⟨hfrequency, rfl, hending, rfl, rfl, ByLists.inRange_of_rangeError? hrange,
                ByLists.fits_of_fitError? hfits⟩
      · cases h
  · rintro ⟨hfrequency, hinterval, hending, hweekStart, hlists, hrange, hfits⟩
    have hpos := pattern.interval_pos
    rw [← hinterval] at hpos
    have hrange' := ByLists.rangeError?_eq_none_iff.2 hrange
    have hfits' := ByLists.fitError?_eq_none_iff.2 hfits
    unfold ofRule
    simp only [hfrequency, hpos, hending, dif_pos]
    split
    · next hr => simp [hrange'] at hr
    · split
      · next hf => simp [hfits'] at hf
      · obtain ⟨frequency, interval, ending, weekStart, lists, _, _, _⟩ := pattern
        simp_all

theorem ofRule_eq_ok (hfrequency : rule.frequency = some pattern.frequency)
    (hinterval : rule.interval.getD 1 = pattern.interval)
    (hcount : rule.count = pattern.count?) (huntil : rule.endsAt = pattern.until?)
    (hweekStart : rule.weekStart.getD .monday = pattern.weekStart)
    (hlists : rule.lists = pattern.lists) (hdistinct : pattern.lists.distinct = pattern.lists) :
    ofRule rule = .ok pattern := by
  refine ofRule_eq_ok_iff.2 ⟨hfrequency, hinterval, endingOf_eq_ok_iff.2 ⟨hcount, huntil⟩,
    hweekStart, ?_, ?_, ?_⟩
  · rw [hlists, hdistinct]
  · rw [hlists]
    exact pattern.inRange
  · rw [hlists]
    exact pattern.fits

/-- How a pattern comes about. -/
inductive Made : Pattern → Prop
  | ofFrequency (frequency : Frequency) : Made (.ofFrequency frequency)
  | ofRule {rule : Rule} {pattern : Pattern} (h : ofRule rule = .ok pattern) : Made pattern
  | read {s : String} {pattern : Pattern} (h : Pattern.read s = .ok pattern) : Made pattern

theorem distinct_of_ofRule (h : ofRule rule = .ok pattern) :
    pattern.lists.distinct = pattern.lists := by
  obtain ⟨-, -, -, -, hlists, -⟩ := ofRule_eq_ok_iff.1 h
  rw [← hlists, ByLists.distinct_distinct]

theorem Made.distinct (h : pattern.Made) :
    pattern.lists.distinct = pattern.lists := by
  cases h with
  | ofFrequency frequency => rfl
  | ofRule h => exact distinct_of_ofRule h
  | read h =>
    obtain ⟨rule, -, hrule⟩ := bind_eq_ok_iff.1 h
    exact distinct_of_ofRule (orInvalid_eq_ok_iff.1 hrule)

end Pattern
end Recurrence
