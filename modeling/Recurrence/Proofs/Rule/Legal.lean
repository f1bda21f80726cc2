import Mathlib
import Recurrence.Proofs.Rule.Checked

/-! The rules that may be evaluated, by what they say, and what becomes of their lists. Each
value is kept where it first comes, which leaves nothing to do a second time. -/
namespace Recurrence

section First

variable {α : Type} [DecidableEq α]

/-- Values without repetitions, in the order in which they first come in a list. -/
structure KeepsFirst (values kept : List α) : Prop where
  nodup : kept.Nodup
  mem_iff : ∀ value, value ∈ kept ↔ value ∈ values
  ordered : kept.Pairwise fun value later => values.idxOf value < values.idxOf later

theorem idxOf_lt_of_filter {test : α → Bool} {values : List α} {value later : α}
    (hvalue : test value = true) (hlater : test later = true)
    (h : (values.filter test).idxOf value < (values.filter test).idxOf later) :
    values.idxOf value < values.idxOf later := by
  -- What the test drops stands neither first nor between for what it keeps.
  induction values with
  | nil => exact h
  | cons first others ih =>
    by_cases htest : test first = true
    · rw [List.filter_cons_of_pos htest] at h
      by_cases heq : first = later
      · rw [heq, List.idxOf_cons_self] at h
        exact absurd h (Nat.not_lt_zero _)
      · rw [List.idxOf_cons_ne _ heq] at h ⊢
        by_cases hfirst : first = value
        · rw [hfirst, List.idxOf_cons_self]
          exact Nat.succ_pos _
        · rw [List.idxOf_cons_ne _ hfirst] at h ⊢
          exact Nat.succ_lt_succ (ih (Nat.lt_of_succ_lt_succ h))
    · rw [List.filter_cons_of_neg htest] at h
      have hfirst : first ≠ value := by
        rintro rfl
        exact htest hvalue
      have heq : first ≠ later := by
        rintro rfl
        exact htest hlater
      rw [List.idxOf_cons_ne _ hfirst, List.idxOf_cons_ne _ heq]
      exact Nat.succ_lt_succ (ih h)

theorem keepsFirst_eraseDups (values : List α) : KeepsFirst values values.eraseDups := by
  refine ⟨Plan.nodup_eraseDups values, fun value => List.mem_eraseDups, ?_⟩
  induction values using Plan.eraseDups_induction with
  | nil => exact .nil
  | cons first others ih =>
    have hne {value : α} (h : value ∈ (others.filter fun value => !value == first).eraseDups) :
        first ≠ value := by
      rintro rfl
      simpa using List.mem_eraseDups.1 h
    rw [List.eraseDups_cons, List.pairwise_cons]
    constructor
    · intro value hvalue
      rw [List.idxOf_cons_self, List.idxOf_cons_ne _ (hne hvalue)]
      exact Nat.succ_pos _
    · refine ih.imp_of_mem fun {value later} hvalue hlater hlt => ?_
      rw [List.idxOf_cons_ne _ (hne hvalue), List.idxOf_cons_ne _ (hne hlater)]
      refine Nat.succ_lt_succ (idxOf_lt_of_filter ?_ ?_ hlt)
      · simpa using (hne hvalue).symm
      · simpa using (hne hlater).symm

end First

/-- The values of each list, kept where they first come. -/
structure ByLists.KeepsFirst (lists kept : ByLists) : Prop where
  seconds : Recurrence.KeepsFirst lists.seconds kept.seconds
  minutes : Recurrence.KeepsFirst lists.minutes kept.minutes
  hours : Recurrence.KeepsFirst lists.hours kept.hours
  days : Recurrence.KeepsFirst lists.days kept.days
  monthDays : Recurrence.KeepsFirst lists.monthDays kept.monthDays
  yearDays : Recurrence.KeepsFirst lists.yearDays kept.yearDays
  weekNumbers : Recurrence.KeepsFirst lists.weekNumbers kept.weekNumbers
  months : Recurrence.KeepsFirst lists.months kept.months
  positions : Recurrence.KeepsFirst lists.positions kept.positions

theorem ByLists.keepsFirst_distinct (lists : ByLists) : lists.KeepsFirst lists.distinct := by
  constructor <;> exact keepsFirst_eraseDups _

/-- Whether a rule may be evaluated: it has a frequency, its interval is not zero, it has one end
at most, and the values of its lists are in their ranges and go with the frequency. -/
structure Rule.IsLegal (rule : Rule) : Prop where
  frequency : rule.frequency ≠ none
  interval : rule.interval ≠ some 0
  oneEnd : rule.count = none ∨ rule.endsAt = none
  inRange : rule.lists.InRange
  fits : ∀ frequency ∈ rule.frequency, rule.lists.Fits frequency

namespace Pattern

/-- Whether a pattern says what a rule says. An interval of one and weeks from Monday need not be
said by the rule. -/
structure Says (pattern : Pattern) (rule : Rule) : Prop where
  frequency : rule.frequency = some pattern.frequency
  interval : rule.interval.getD 1 = pattern.interval
  count : rule.count = pattern.count?
  endsAt : rule.endsAt = pattern.until?
  weekStart : rule.weekStart.getD .monday = pattern.weekStart
  lists : rule.lists.KeepsFirst pattern.lists

variable {rule : Rule} {pattern : Pattern}

theorem says_of_ofRule (h : ofRule rule = .ok pattern) : pattern.Says rule := by
  obtain ⟨hfrequency, hinterval, hending, hweekStart, hlists, -, -⟩ := ofRule_eq_ok_iff.1 h
  obtain ⟨hcount, huntil⟩ := endingOf_eq_ok_iff.1 hending
  exact ⟨hfrequency, hinterval, hcount, huntil, hweekStart,
    hlists ▸ rule.lists.keepsFirst_distinct⟩

theorem isLegal_of_ofRule (h : ofRule rule = .ok pattern) : rule.IsLegal := by
  obtain ⟨hfrequency, hinterval, hending, -, -, hrange, hfits⟩ := ofRule_eq_ok_iff.1 h
  obtain ⟨hcount, huntil⟩ := endingOf_eq_ok_iff.1 hending
  refine ⟨by simp [hfrequency], ?_, ?_, hrange, ?_⟩
  · intro hzero
    have hpos := pattern.interval_pos
    rw [← hinterval, hzero] at hpos
    exact absurd hpos (by decide)
  · rw [hcount, huntil, count?, until?]
    cases pattern.ending <;> simp
  · intro frequency hmem
    obtain rfl := Option.some.inj (hfrequency.symm.trans hmem)
    exact hfits

theorem exists_ofRule_of_isLegal (h : rule.IsLegal) : ∃ pattern, ofRule rule = .ok pattern := by
  obtain ⟨frequency, hfrequency⟩ := Option.ne_none_iff_exists'.1 h.frequency
  -- An interval that is not zero has a step.
  have hpos : 0 < (rule.interval.getD 1).toNat := by
    cases hinterval : rule.interval with
    | none => decide
    | some n =>
      refine Nat.pos_of_ne_zero fun hzero => h.interval ?_
      obtain rfl : n = 0 := UInt32.toNat_inj.1 hzero
      exact hinterval
  obtain ⟨ending, hending⟩ : ∃ ending, endingOf rule.count rule.endsAt = .ok ending := by
    unfold endingOf
    rcases h.oneEnd with hnone | hnone
    · rw [hnone]
      cases rule.endsAt <;> exact ⟨_, rfl⟩
    · rw [hnone]
      cases rule.count <;> exact ⟨_, rfl⟩
  exact ⟨⟨frequency, rule.interval.getD 1, ending, rule.weekStart.getD .monday,
    rule.lists.distinct, hpos, h.inRange.distinct, (h.fits frequency hfrequency).distinct⟩,
    ofRule_eq_ok_iff.2 ⟨hfrequency, rfl, hending, rfl, rfl, h.inRange,
      h.fits frequency hfrequency⟩⟩

theorem ofRule_toRule (h : pattern.lists.distinct = pattern.lists) :
    ofRule pattern.toRule = .ok pattern := by
  refine ofRule_eq_ok rfl rfl rfl rfl ?_ rfl h
  unfold toRule
  dsimp only
  split <;> simp_all

/-- **The legal rules give patterns, and those for good.** A rule gives a pattern if and only if it
is legal. The pattern says what the rule says, with the values of each list kept where they first
come, and gives itself when its own rule is checked again. -/
theorem ofRule_normalizes (rule : Rule) :
    ((∃ pattern, ofRule rule = .ok pattern) ↔ rule.IsLegal) ∧
      ∀ pattern, ofRule rule = .ok pattern →
        pattern.Says rule ∧ ofRule pattern.toRule = .ok pattern :=
  ⟨⟨fun ⟨_, h⟩ => isLegal_of_ofRule h, exists_ofRule_of_isLegal⟩,
    fun _ h => ⟨says_of_ofRule h, ofRule_toRule (distinct_of_ofRule h)⟩⟩

/-- The twentieth and the last week of each year, said at length. -/
def someWeeks : Rule where
  frequency := some .yearly
  interval := none
  endsAt := none
  count := some 4
  weekStart := some .monday
  lists := { ByLists.empty with
    seconds := [0, 59, 0]
    days := [⟨none, .friday⟩]
    weekNumbers := [20, -1, 20, -53] }

theorem ofRule_normalizes_someWeeks : someWeeks.IsLegal ∧ ∃ pattern,
    ofRule someWeeks = .ok pattern ∧ pattern.Says someWeeks ∧
      pattern.lists.weekNumbers = [20, -1, -53] ∧ ofRule pattern.toRule = .ok pattern := by
  have hdays : ∀ day ∈ someWeeks.lists.days, day.ordinal = none := by decide
  have hrange : someWeeks.lists.InRange := by
    refine ⟨by decide, by decide, by decide, by decide, by decide, by decide, by decide,
      by decide, fun day hday n hn => ?_⟩
    rw [hdays day hday] at hn
    cases hn
  have hlegal : someWeeks.IsLegal := by
    refine ⟨by decide, by decide, .inr rfl, hrange, ?_⟩
    rintro frequency ⟨⟩
    exact ⟨fun _ => .inr rfl, fun _ => rfl, fun _ => hdays⟩
  obtain ⟨pattern, h⟩ := (ofRule_normalizes someWeeks).1.2 hlegal
  obtain ⟨hvalues, hback⟩ := (ofRule_normalizes someWeeks).2 pattern h
  obtain ⟨-, -, -, -, hlists, -⟩ := ofRule_eq_ok_iff.1 h
  refine ⟨hlegal, pattern, h, hvalues, ?_, hback⟩
  rw [← hlists]
  decide

end Pattern
end Recurrence
