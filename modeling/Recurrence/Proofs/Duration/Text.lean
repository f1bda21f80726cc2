import Mathlib
import Recurrence.Proofs.Duration.Grammar

/-! Durations read back from their text. The text has weeks only where nothing else is set and
folds them into days otherwise; it reads back as long as these days are a number of 32 bits. -/
namespace Recurrence.Duration

/-- Whether the text has its weeks as they are, with nothing else beside them. -/
def hasWeeksOnly (d : Duration) : Bool := d.isWeekBased && d.days == 0 && !d.hasTime

/-- The days a text has, with weeks folded in. -/
def foldedDays (d : Duration) : Nat := d.weeks.toNat * 7 + d.days.toNat

/-- The text of a duration behind its P. -/
def body (d : Duration) : String :=
  if d.hasWeeksOnly then Text.natText d.weeks.toNat ++ "W"
  else if d.foldedDays = 0 && !d.hasTime then "0D"
  else (if d.foldedDays = 0 then "" else Text.natText d.foldedDays ++ "D") ++ d.timeText

/-- The duration that a text spells: weeks are folded into days, and a zero has no sign. -/
def spelled (d : Duration) : Duration :=
  { d with
    negative := d.isNegative
    weeks := if d.hasWeeksOnly then d.weeks else 0
    days := if d.hasWeeksOnly then 0 else .ofNat d.foldedDays }

/-- Whether all numbers of a text fit 32 bits. Weeks alone always do; days with weeks folded in
need not. -/
def FitsText (d : Duration) : Prop :=
  (d.days = 0 ∧ d.hasTime = false) ∨ d.weeks.toNat * 7 + d.days.toNat < 4294967296

instance (d : Duration) : Decidable d.FitsText := inferInstanceAs (Decidable (_ ∨ _))

variable {d : Duration}

theorem hasWeeksOnly_iff :
    d.hasWeeksOnly = true ↔ d.weeks ≠ 0 ∧ d.days = 0 ∧ d.hasTime = false := by
  simp [hasWeeksOnly, isWeekBased, and_assoc]

theorem hasTime_eq_false_iff :
    d.hasTime = false ↔ d.hours = 0 ∧ d.minutes = 0 ∧ d.seconds = 0 := by
  simp [hasTime, and_assoc]

theorem foldedDays_eq_zero_iff : d.foldedDays = 0 ↔ d.weeks = 0 ∧ d.days = 0 := by
  simp only [foldedDays, ← UInt32.toNat_inj, UInt32.toNat_zero]
  omega

theorem FitsText.foldedDays_lt (h : d.FitsText) (hweeks : d.hasWeeksOnly = false) :
    d.foldedDays < 4294967296 := by
  rcases h with ⟨hdays, htime⟩ | h
  · have hzero : d.weeks = 0 := by
      by_contra hne
      simp [hasWeeksOnly_iff.2 ⟨hne, hdays, htime⟩] at hweeks
    simp [foldedDays, hzero, hdays]
  · exact h

/-! ### What a text is -/

theorem text_toList (d : Duration) :
    ∃ sign, Sign sign d.isNegative ∧ d.text.toList = sign ++ 'P' :: d.body.toList := by
  have htext : d.text = (if d.isNegative then "-P" else "P") ++ d.body := rfl
  cases hneg : d.isNegative with
  | true => exact ⟨_, .minus, by simp [htext, hneg]⟩
  | false => exact ⟨_, .none, by simp [htext, hneg]⟩

theorem spells_natText (n : UInt32) : Text.Spells (Text.natText n.toNat).toList n := by
  rw [Text.natText, String.toList_ofList, ← Text.readWord?_eq_some_iff]
  exact Text.readWord?_digits n

theorem component_written {mark : String} {designator : Char} (hmark : mark.toList = [designator])
    {number : List Char} {n : UInt32} (h : Text.Spells number n) :
    Component designator (number ++ mark.toList) n := by
  rw [hmark]
  exact .written h

theorem component_component {mark : String} {designator : Char}
    (hmark : mark.toList = [designator]) (n : UInt32) :
    Component designator (component n mark).toList n := by
  unfold component
  split
  · next hzero =>
    subst hzero
    exact .absent
  · rw [String.toList_append]
    exact component_written hmark (spells_natText n)

theorem timePart_timeText (d : Duration) :
    TimePart d.timeText.toList d.hours d.minutes d.seconds := by
  unfold timeText
  cases htime : d.hasTime with
  | false =>
    obtain ⟨hhours, hminutes, hseconds⟩ := hasTime_eq_false_iff.1 htime
    rw [hhours, hminutes, hseconds]
    exact .absent
  | true =>
    -- Where something is set, something is written.
    have hne : (component d.hours "H").toList ++ (component d.minutes "M").toList ++
        (component d.seconds "S").toList ≠ [] := by
      intro hempty
      simp only [List.append_eq_nil_iff] at hempty
      have hzero {n : UInt32} {mark : String} (hmark : mark ≠ "")
          (h : (component n mark).toList = []) : n = 0 := by
        by_contra hn
        simp [component, hn, hmark] at h
      have hnone := hasTime_eq_false_iff.2 ⟨hzero (by decide) hempty.1.1,
        hzero (by decide) hempty.1.2, hzero (by decide) hempty.2⟩
      rw [htime] at hnone
      cases hnone
    simpa using TimePart.written (component_component rfl d.hours)
      (component_component rfl d.minutes) (component_component rfl d.seconds) hne

theorem spells_foldedDays (h : d.foldedDays < 4294967296) :
    Text.Spells (Text.natText d.foldedDays).toList (.ofNat d.foldedDays) := by
  have hspells := spells_natText (.ofNat d.foldedDays)
  rwa [UInt32.toNat_ofNat_of_lt' h] at hspells

theorem written_of_hasWeeksOnly (h : d.hasWeeksOnly = true) : Written d.text.toList d.spelled := by
  obtain ⟨sign, hsign, htext⟩ := d.text_toList
  obtain ⟨-, -, htime⟩ := hasWeeksOnly_iff.1 h
  obtain ⟨hhours, hminutes, hseconds⟩ := hasTime_eq_false_iff.1 htime
  have hbody : d.body.toList = (Text.natText d.weeks.toNat).toList ++ "W".toList ++ [] ++ [] := by
    simp [body, h]
  have hspelled : d.spelled = ⟨d.isNegative, d.weeks, 0, 0, 0, 0⟩ := by
    simp [spelled, h, hhours, hminutes, hseconds]
  rw [htext, hbody, hspelled]
  exact .intro hsign (component_written rfl (spells_natText d.weeks)) .absent .absent (by simp)

theorem exists_days (h : d.hasWeeksOnly = false) (hfits : d.foldedDays < 4294967296) :
    ∃ days, d.body.toList = days ++ d.timeText.toList ∧ d.body.toList ≠ [] ∧
      Component 'D' days (.ofNat d.foldedDays) := by
  by_cases hdays : d.foldedDays = 0
  · rw [hdays]
    cases htime : d.hasTime with
    | false =>
      -- A zero has its days written all the same.
      have hzero : Text.Spells "0".toList 0 :=
        ⟨by simp, by simp, by simp [Text.digitsValue, Text.digitValue]⟩
      refine ⟨_, ?_, ?_, component_written (show "D".toList = ['D'] by rfl) hzero⟩
      · simp [body, h, hdays, htime, timeText]
      · simp [body, h, hdays, htime]
    | true => exact ⟨[], by simp [body, h, hdays, htime], by simp [body, h, hdays, htime, timeText],
        .absent⟩
  · refine ⟨_, ?_, ?_, component_written (show "D".toList = ['D'] by rfl) (spells_foldedDays hfits)⟩
    · simp [body, h, hdays]
    · simp [body, h, hdays]

theorem written_of_days (h : d.hasWeeksOnly = false) (hfits : d.foldedDays < 4294967296) :
    Written d.text.toList d.spelled := by
  obtain ⟨sign, hsign, htext⟩ := d.text_toList
  obtain ⟨days, hbody, hne, hdays⟩ := exists_days h hfits
  have hspelled : d.spelled =
      ⟨d.isNegative, 0, .ofNat d.foldedDays, d.hours, d.minutes, d.seconds⟩ := by
    simp [spelled, h]
  rw [htext, hspelled]
  rw [hbody] at hne ⊢
  exact @Written.intro sign [] days _ _ hsign .absent hdays d.timePart_timeText hne

theorem FitsText.written (h : d.FitsText) : Written d.text.toList d.spelled := by
  cases hweeks : d.hasWeeksOnly with
  | true => exact written_of_hasWeeksOnly hweeks
  | false => exact written_of_days hweeks (h.foldedDays_lt hweeks)

/-! ### What it reads back as -/

theorem isZero_iff : d.isZero = true ↔ d.foldedDays = 0 ∧ d.hasTime = false := by
  simp [isZero, foldedDays_eq_zero_iff]

theorem FitsText.foldedDays_spelled (h : d.FitsText) : d.spelled.foldedDays = d.foldedDays := by
  cases hweeks : d.hasWeeksOnly with
  | true =>
    obtain ⟨-, hdays, -⟩ := hasWeeksOnly_iff.1 hweeks
    simp [foldedDays, spelled, hweeks, hdays]
  | false =>
    have hfolded := UInt32.toNat_ofNat_of_lt' (h.foldedDays_lt hweeks)
    calc d.spelled.foldedDays = (0 : UInt32).toNat * 7 + (UInt32.ofNat d.foldedDays).toNat := by
          rw [foldedDays, spelled, hweeks]
          rfl
      _ = d.foldedDays := by rw [hfolded, UInt32.toNat_zero, Nat.zero_mul, Nat.zero_add]

theorem FitsText.isZero_spelled (h : d.FitsText) : d.spelled.isZero = d.isZero := by
  rw [Bool.eq_iff_iff, isZero_iff, isZero_iff, h.foldedDays_spelled]
  rfl

theorem signed_spelled {magnitude : Nat} (h : d.isZero = true → magnitude = 0) :
    d.spelled.signed magnitude = d.signed magnitude := by
  change (if d.isNegative then -(magnitude : Int) else magnitude) = d.signed magnitude
  unfold signed isNegative
  cases hzero : d.isZero with
  | false => simp
  | true => simp [h hzero]

theorem FitsText.nominalDays_spelled (h : d.FitsText) :
    d.spelled.nominalDays = d.nominalDays := by
  change d.spelled.signed d.spelled.foldedDays = d.signed d.foldedDays
  rw [h.foldedDays_spelled]
  exact signed_spelled fun hzero => (isZero_iff.1 hzero).1

theorem exactSeconds_spelled (d : Duration) : d.spelled.exactSeconds = d.exactSeconds := by
  refine signed_spelled fun hzero => ?_
  obtain ⟨hhours, hminutes, hseconds⟩ := hasTime_eq_false_iff.1 (isZero_iff.1 hzero).2
  simp [spelled, hhours, hminutes, hseconds]

theorem FitsText.isNegative_spelled (h : d.FitsText) : d.spelled.isNegative = d.isNegative := by
  change (d.isNegative && !d.spelled.isZero) = d.isNegative
  rw [h.isZero_spelled, isNegative, Bool.and_assoc, Bool.and_self]

/-! ### Where it does not -/

theorem foldlM_digits {digits : List Char} (h : ∀ c ∈ digits, c.isDigit = true)
    (reading : Reading) : digits.foldlM Reading.next reading =
      .ok { reading with pending := digits.reverse ++ reading.pending } := by
  induction digits generalizing reading with
  | nil => rfl
  | cons c digits ih =>
    have hrest := ih (fun d hd => h d (List.mem_cons_of_mem c hd))
      { reading with pending := c :: reading.pending }
    rw [List.foldlM_cons, Reading.next_of_isDigit (h c List.mem_cons_self), List.reverse_cons,
      List.append_assoc]
    exact hrest

theorem readComponents_tooLarge {n : Nat} (h : 4294967296 ≤ n) (negative : Bool)
    (rest : List Char) :
    readComponents negative (Text.digits n ++ 'D' :: rest) = .error none := by
  have hread : Text.readWord? (Text.digits n) = none := by
    rw [Text.readWord?, Text.readNat?_digits]
    simp [h]
  have hdesignator (reading : Reading) (hpending : reading.pending = (Text.digits n).reverse) :
      reading.next 'D' = .error none := by
    simp [Reading.next, hpending, hread]
  unfold readComponents
  rw [List.foldlM_append, foldlM_digits (List.all_eq_true.1 (Text.all_isDigit_digits n))]
  change (List.foldlM Reading.next _ ('D' :: rest) >>= _) = _
  rw [List.foldlM_cons, hdesignator _ (List.append_nil _)]
  rfl

theorem read_text_of_not_fitsText (h : ¬ d.FitsText) :
    read d.text = .error ⟨.duration, d.text, none⟩ := by
  obtain ⟨sign, hsign, htext⟩ := d.text_toList
  obtain ⟨hnot, hlarge⟩ := not_or.1 h
  have hweeks : d.hasWeeksOnly = false :=
    Bool.eq_false_iff.2 fun hweeks => hnot (hasWeeksOnly_iff.1 hweeks).2
  have hdays : 4294967296 ≤ d.foldedDays := Nat.le_of_not_lt hlarge
  have hbody : d.body.toList = Text.digits d.foldedDays ++ 'D' :: d.timeText.toList := by
    have hne : d.foldedDays ≠ 0 := by omega
    simp [body, hweeks, hne, Text.natText]
  rw [hbody] at htext
  rw [read_eq (htext ▸ cutSign_append hsign _), readComponents_tooLarge hdays]
  rfl

/-- A duration's text reads back as one of the same days, seconds and sign where its weeks
stand alone or its days fit 32 bits with weeks folded in. Any other text is refused. -/
theorem read_text_back (d : Duration) :
    (d.FitsText → ∃ back, read d.text = .ok back ∧ back.nominalDays = d.nominalDays ∧
      back.exactSeconds = d.exactSeconds ∧ back.isNegative = d.isNegative) ∧
    (¬ d.FitsText → read d.text = .error ⟨.duration, d.text, none⟩) := by
  refine ⟨fun h => ?_, read_text_of_not_fitsText⟩
  exact ⟨d.spelled, read_of_written h.written, h.nominalDays_spelled, exactSeconds_spelled d,
    h.isNegative_spelled⟩

/-- Minus one week, two days and five seconds. -/
theorem read_text_back_weekAndDays :
    FitsText ⟨true, 1, 2, 0, 0, 5⟩ ∧ text ⟨true, 1, 2, 0, 0, 5⟩ = "-P9DT5S" ∧
      ∃ back, read "-P9DT5S" = .ok back ∧ back.nominalDays = -9 ∧ back.exactSeconds = -5 ∧
        back.isNegative = true := by
  have hfits : FitsText ⟨true, 1, 2, 0, 0, 5⟩ := by decide
  have htext : text ⟨true, 1, 2, 0, 0, 5⟩ = "-P9DT5S" := by cbv
  exact ⟨hfits, htext, htext ▸ (read_text_back ⟨true, 1, 2, 0, 0, 5⟩).1 hfits⟩

/-- With four days beside them, 613566756 weeks make a number of days that is not read. -/
theorem not_read_text_back_manyWeeks : text ⟨false, 613566756, 4, 0, 0, 0⟩ = "P4294967296D" ∧
    ¬ ∃ back, read (text ⟨false, 613566756, 4, 0, 0, 0⟩) = .ok back ∧
      back.nominalDays = nominalDays ⟨false, 613566756, 4, 0, 0, 0⟩ ∧
      back.exactSeconds = exactSeconds ⟨false, 613566756, 4, 0, 0, 0⟩ ∧
      back.isNegative = isNegative ⟨false, 613566756, 4, 0, 0, 0⟩ := by
  refine ⟨by cbv, ?_⟩
  rintro ⟨back, hread, -⟩
  rw [read_text_of_not_fitsText (by decide)] at hread
  cases hread

end Recurrence.Duration
