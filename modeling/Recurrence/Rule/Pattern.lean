import Recurrence.Error
/-!
Rules that may be evaluated. A pattern has a frequency, a positive interval, at most one end, and
lists in their legal ranges without repetitions. `Pattern.ofRule` refuses every other rule with
the first thing that is wrong with it.
-/
namespace Recurrence

/-- A number that counts from the start or, below zero, from the end of at most `most`. -/
def CountsWithin (most : Nat) (i : Int) : Prop := i ≠ 0 ∧ i.natAbs ≤ most

instance (most : Nat) (i : Int) : Decidable (CountsWithin most i) :=
  inferInstanceAs (Decidable (i ≠ 0 ∧ i.natAbs ≤ most))

/-- The values that each list may hold. -/
structure ByLists.InRange (lists : ByLists) : Prop where
  seconds : ∀ v ∈ lists.seconds, v ≤ 59
  minutes : ∀ v ∈ lists.minutes, v ≤ 59
  hours : ∀ v ∈ lists.hours, v ≤ 23
  monthDays : ∀ v ∈ lists.monthDays, CountsWithin 31 v
  yearDays : ∀ v ∈ lists.yearDays, CountsWithin 366 v
  weekNumbers : ∀ v ∈ lists.weekNumbers, CountsWithin 53 v
  months : ∀ v ∈ lists.months, 1 ≤ v ∧ v ≤ 12
  positions : ∀ v ∈ lists.positions, CountsWithin 366 v
  days : ∀ v ∈ lists.days, ∀ n ∈ v.ordinal, CountsWithin 53 n

/-- The lists that a frequency admits: ordinal weekdays in months and years only, and week numbers
in years only and not beside ordinal weekdays. -/
structure ByLists.Fits (frequency : Frequency) (lists : ByLists) : Prop where
  ordinal : (∃ v ∈ lists.days, v.ordinal.isSome) → frequency = .monthly ∨ frequency = .yearly
  weekNumber : lists.weekNumbers ≠ [] → frequency = .yearly
  notBoth : lists.weekNumbers ≠ [] → ∀ v ∈ lists.days, v.ordinal = none

/-- The lists without repetitions, each value at its first place. -/
def ByLists.distinct (lists : ByLists) : ByLists where
  seconds := lists.seconds.eraseDups
  minutes := lists.minutes.eraseDups
  hours := lists.hours.eraseDups
  days := lists.days.eraseDups
  monthDays := lists.monthDays.eraseDups
  yearDays := lists.yearDays.eraseDups
  weekNumbers := lists.weekNumbers.eraseDups
  months := lists.months.eraseDups
  positions := lists.positions.eraseDups

/-- The first of some values that fails a test. -/
def firstOutside? (part : String) (text : α → String) (test : α → Bool) (values : List α) :
    Option InvalidValue :=
  (values.find? fun v => !test v).map fun v => .listValue part (text v)

theorem firstOutside?_eq_none_iff {part : String} {text : α → String} {test : α → Bool}
    {values : List α} : firstOutside? part text test values = none ↔ ∀ v ∈ values, test v := by
  simp [firstOutside?]

/-- The first value that lies outside its list's range, by the order in which lists are looked
at. -/
def ByLists.rangeError? (lists : ByLists) : Option InvalidValue :=
  firstOutside? "BYSECOND" Text.natText (· ≤ 59) lists.seconds <|>
  firstOutside? "BYMINUTE" Text.natText (· ≤ 59) lists.minutes <|>
  firstOutside? "BYHOUR" Text.natText (· ≤ 23) lists.hours <|>
  firstOutside? "BYMONTHDAY" Text.intText (CountsWithin 31 ·) lists.monthDays <|>
  firstOutside? "BYYEARDAY" Text.intText (CountsWithin 366 ·) lists.yearDays <|>
  firstOutside? "BYWEEKNO" Text.intText (CountsWithin 53 ·) lists.weekNumbers <|>
  firstOutside? "BYMONTH" Text.natText (fun v => 1 ≤ v ∧ v ≤ 12) lists.months <|>
  firstOutside? "BYSETPOS" Text.intText (CountsWithin 366 ·) lists.positions <|>
  firstOutside? "BYDAY" WeekdayNum.text (fun v => v.ordinal.all (CountsWithin 53 ·)) lists.days

/-- Why lists do not go with a frequency. -/
def ByLists.fitError? (frequency : Frequency) (lists : ByLists) : Option InvalidValue :=
  match lists.days.find? (·.ordinal.isSome) with
  | some day =>
    if frequency ≠ .monthly ∧ frequency ≠ .yearly then some (.ordinalNeedsLongUnit day frequency)
    else if lists.weekNumbers = [] then none
    else if frequency = .yearly then some (.ordinalWithWeekNumber day)
    else some (.weekNumberNeedsYear frequency)
  | none =>
    if lists.weekNumbers = [] ∨ frequency = .yearly then none
    else some (.weekNumberNeedsYear frequency)

theorem ByLists.inRange_of_rangeError? {lists : ByLists} (h : lists.rangeError? = none) :
    lists.InRange := by
  simp only [rangeError?, Option.orElse_eq_orElse, Option.orElse_eq_or, Option.or_eq_none_iff,
    firstOutside?_eq_none_iff, decide_eq_true_eq] at h
  obtain ⟨h1, h2, h3, h4, h5, h6, h7, h8, h9⟩ := h
  refine ⟨h1, h2, h3, h4, h5, h6, h7, h8, fun v hv n hn => ?_⟩
  have := h9 v hv
  rw [Option.mem_def.1 hn] at this
  simpa using this

theorem ByLists.fits_of_fitError? {frequency : Frequency} {lists : ByLists}
    (h : lists.fitError? frequency = none) : lists.Fits frequency := by
  unfold fitError? at h
  split at h
  · split at h
    · simp at h
    · next hlong =>
      split at h
      · next hw =>
        refine ⟨fun _ => ?_, fun hn => absurd hw hn, fun hn => absurd hw hn⟩
        by_cases hm : frequency = .monthly <;> simp_all
      · split at h <;> simp at h
  · next hd =>
    have hall : ∀ v ∈ lists.days, v.ordinal = none := by simpa using hd
    have hnone : ¬ ∃ v ∈ lists.days, v.ordinal.isSome := by
      rintro ⟨v, hv, hs⟩
      simp [hall v hv] at hs
    split at h
    · next hw =>
      exact ⟨fun hs => absurd hs hnone, fun hn => hw.resolve_left hn, fun _ => hall⟩
    · simp at h

theorem ByLists.InRange.distinct {lists : ByLists} (h : lists.InRange) :
    lists.distinct.InRange := by
  constructor <;> simp only [ByLists.distinct, List.mem_eraseDups]
  · exact h.seconds
  · exact h.minutes
  · exact h.hours
  · exact h.monthDays
  · exact h.yearDays
  · exact h.weekNumbers
  · exact h.months
  · exact h.positions
  · exact h.days

theorem ByLists.Fits.distinct {frequency : Frequency} {lists : ByLists} (h : lists.Fits frequency) :
    lists.distinct.Fits frequency := by
  have hne : lists.weekNumbers.eraseDups ≠ [] → lists.weekNumbers ≠ [] := by
    intro hn he
    simp [he] at hn
  constructor <;> simp only [ByLists.distinct, List.mem_eraseDups]
  · exact h.ordinal
  · exact fun hn => h.weekNumber (hne hn)
  · exact fun hn => h.notBoth (hne hn)

/-- How the instances of a pattern end. -/
inductive Ending where
  | never
  | count (instances : UInt32)
  | upTo (last : Until)
deriving DecidableEq, Inhabited

structure Pattern where
  frequency : Frequency
  interval : UInt32
  ending : Ending
  weekStart : Calendar.Weekday
  lists : ByLists
  interval_pos : 0 < interval.toNat
  inRange : lists.InRange
  fits : lists.Fits frequency
deriving DecidableEq

namespace Pattern

/-- Every instance of a frequency's units, without end. -/
def ofFrequency (frequency : Frequency) : Pattern where
  frequency := frequency
  interval := 1
  ending := .never
  weekStart := .monday
  lists := .empty
  interval_pos := by decide
  inRange := by constructor <;> simp [ByLists.empty]
  fits := by constructor <;> simp [ByLists.empty]

def count? (pattern : Pattern) : Option UInt32 :=
  match pattern.ending with
  | .count n => some n
  | _ => none

def until? (pattern : Pattern) : Option Until :=
  match pattern.ending with
  | .upTo last => some last
  | _ => none

/-- The pattern with another end. -/
def withEnding (pattern : Pattern) (ending : Ending) : Pattern := { pattern with ending }

/-- The end that a count and a last moment give, which must not both be set. -/
def endingOf (count : Option UInt32) (endsAt : Option Until) : Except InvalidValue Ending :=
  match count, endsAt with
  | some _, some _ => .error .countAndUntil
  | some n, none => .ok (.count n)
  | none, some last => .ok (.upTo last)
  | none, none => .ok .never

/-- The pattern of a rule, or what is wrong with the rule. -/
def ofRule (rule : Rule) : Except InvalidValue Pattern :=
  match rule.frequency with
  | none => .error .noFrequency
  | some frequency =>
    let interval := rule.interval.getD 1
    if hi : 0 < interval.toNat then
      match endingOf rule.count rule.endsAt with
      | .error error => .error error
      | .ok ending =>
        match hr : rule.lists.rangeError? with
        | some error => .error error
        | none =>
          match hf : rule.lists.fitError? frequency with
          | some error => .error error
          | none => .ok {
              frequency, interval, ending
              weekStart := rule.weekStart.getD .monday
              lists := rule.lists.distinct
              interval_pos := hi
              inRange := (ByLists.inRange_of_rangeError? hr).distinct
              fits := (ByLists.fits_of_fitError? hf).distinct }
    else .error .zeroInterval

/-- The rule of a pattern. A week that starts on Monday is left unsaid. -/
def toRule (pattern : Pattern) : Rule where
  frequency := some pattern.frequency
  interval := some pattern.interval
  endsAt := pattern.until?
  count := pattern.count?
  weekStart := if pattern.weekStart = .monday then none else some pattern.weekStart
  lists := pattern.lists

def text (pattern : Pattern) : String := pattern.toRule.text

end Pattern
end Recurrence
