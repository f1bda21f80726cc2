import Mathlib
import Recurrence.Proofs.DateTime.Text
import Recurrence.Proofs.Failure
import Recurrence.Proofs.Rule.TimeOfDay

/-! The written forms of dates and times. A date has its digits in eight places and a time
in six, so that a value has one text and a text one value, leap seconds apart. -/
namespace Recurrence
open Calendar

/-- A real date in eight digits, and the day that it names. -/
inductive WrittenDay : List Char → Int → Prop
  | intro {year month day : List Char} {y m d : Nat} (hyear : Text.Numeral 4 year y)
      (hmonth : Text.Numeral 2 month m) (hday : Text.Numeral 2 day d)
      (hreal : Date.IsReal ⟨y, m, d⟩) : WrittenDay (year ++ month ++ day) (Date.toDay ⟨y, m, d⟩)

/-- A time of day in six digits, and the seconds before it. A leap second may be written, and
counts as the second before it. -/
inductive WrittenTime : List Char → Nat → Prop
  | intro {hour minute second : List Char} {h m s : Nat} (hhour : Text.Numeral 2 hour h)
      (hminute : Text.Numeral 2 minute m) (hsecond : Text.Numeral 2 second s) (hh : h ≤ 23)
      (hm : m ≤ 59) (hs : s ≤ 60) :
      WrittenTime (hour ++ minute ++ second) (timeOfDay h m (min s 59))

namespace Calendar

theorem dayOf?_eq_some_iff {year day : Int} {month dayOfMonth : Nat} :
    dayOf? year month dayOfMonth = some day ↔
      Date.IsReal ⟨year, month, dayOfMonth⟩ ∧ Date.toDay ⟨year, month, dayOfMonth⟩ = day := by
  simp [dayOf?]

end Calendar

theorem readDay?_eq_some_iff {cs : List Char} {day : Int} :
    readDay? cs = some day ↔ WrittenDay cs day := by
  constructor
  · intro h
    unfold readDay? at h
    split at h
    · next y1 y2 y3 y4 m1 m2 d1 d2 =>
      simp only [Option.bind_eq_bind, Option.bind_eq_some_iff] at h
      obtain ⟨y, hyear, m, hmonth, d, hday, h⟩ := h
      obtain ⟨hreal, rfl⟩ := dayOf?_eq_some_iff.1 h
      exact .intro (Text.numeral_of_readNat? hyear) (Text.numeral_of_readNat? hmonth)
        (Text.numeral_of_readNat? hday) hreal
    · cases h
  · rintro ⟨hyear, hmonth, hday, hreal⟩
    rw [readDay?_append hyear.length_eq hmonth.length_eq hday.length_eq]
    simp only [hyear.readNat?_eq, hmonth.readNat?_eq, hday.readNat?_eq, Option.bind_some]
    exact dayOf?_eq_some_iff.2 ⟨hreal, rfl⟩

theorem readTime?_eq_some_iff {cs : List Char} {seconds : Nat} :
    readTime? cs = some seconds ↔ WrittenTime cs seconds := by
  constructor
  · intro h
    unfold readTime? at h
    split at h
    · next h1 h2 m1 m2 s1 s2 =>
      simp only [Option.bind_eq_bind, Option.bind_eq_some_iff, Option.ite_none_right_eq_some,
        Option.some.injEq] at h
      obtain ⟨h, hhour, m, hminute, s, hsecond, ⟨hh, hm, hs⟩, rfl⟩ := h
      exact .intro (Text.numeral_of_readNat? hhour) (Text.numeral_of_readNat? hminute)
        (Text.numeral_of_readNat? hsecond) hh hm hs
    · cases h
  · rintro ⟨hhour, hminute, hsecond, hh, hm, hs⟩
    rw [readTime?_append hhour.length_eq hminute.length_eq hsecond.length_eq]
    simp only [hhour.readNat?_eq, hminute.readNat?_eq, hsecond.readNat?_eq, Option.bind_some]
    rw [if_pos ⟨hh, hm, hs⟩]

namespace WrittenDay

variable {cs : List Char} {day : Int}

theorem isDigit (h : WrittenDay cs day) : cs.all Char.isDigit = true := by
  obtain ⟨hyear, hmonth, hday, -⟩ := h
  simp only [List.all_append, List.all_eq_true.2 hyear.isDigit, List.all_eq_true.2 hmonth.isDigit,
    List.all_eq_true.2 hday.isDigit, Bool.and_self]

theorem length_eq (h : WrittenDay cs day) : cs.length = 8 := by
  obtain ⟨hyear, hmonth, hday, -⟩ := h
  simp only [List.length_append, hyear.length_eq, hmonth.length_eq, hday.length_eq]

theorem dateText_toList (h : WrittenDay cs day) : (dateText day).toList = cs := by
  obtain @⟨year, month, dayOfMonth, y, m, d, hyear, hmonth, hday, hreal⟩ := h
  have hdate := dateOf_toDay hreal
  have hy : yearOf (Date.toDay ⟨y, m, d⟩) = y := by rw [← dateOf_year, hdate]
  have hplain : HasPlainYear (Date.toDay ⟨y, m, d⟩) := by
    have := hyear.lt_pow
    unfold HasPlainYear
    omega
  rw [Calendar.dateText_toList hplain, hdate, hy, Int.toNat_natCast, hyear.eq_padded,
    hmonth.eq_padded, hday.eq_padded]

end WrittenDay

namespace WrittenTime

variable {cs : List Char} {seconds : Nat}

theorem isDigit (h : WrittenTime cs seconds) : cs.all Char.isDigit = true := by
  obtain ⟨hhour, hminute, hsecond, -⟩ := h
  simp only [List.all_append, List.all_eq_true.2 hhour.isDigit,
    List.all_eq_true.2 hminute.isDigit, List.all_eq_true.2 hsecond.isDigit, Bool.and_self]

theorem lt_day (h : WrittenTime cs seconds) : seconds < 86400 := by
  obtain ⟨-, -, -, hh, hm, -⟩ := h
  unfold timeOfDay
  omega

end WrittenTime

/-- The digits of a second, where a leap second gives way to the second before it. -/
def clampSecond (second : List Char) : List Char :=
  if second = ['6', '0'] then ['5', '9'] else second

/-- The text of a date or time in which a leap second gives way to the second before it. Seconds
come behind the date, a T, hours and minutes. -/
def clampLeap (cs : List Char) : List Char :=
  cs.take 13 ++ clampSecond ((cs.drop 13).take 2) ++ cs.drop 15

theorem clampLeap_of_length_le {cs : List Char} (h : cs.length ≤ 13) : clampLeap cs = cs := by
  have hnil : clampSecond [] = [] := rfl
  rw [clampLeap, List.take_of_length_le h, List.drop_of_length_le h,
    List.drop_of_length_le (by omega), List.take_nil, hnil, List.append_nil, List.append_nil]

theorem clampLeap_append {first second : List Char} (hfirst : first.length = 13)
    (hsecond : second.length = 2) (mark : List Char) :
    clampLeap (first ++ (second ++ mark)) = first ++ clampSecond second ++ mark := by
  have hlast : (first ++ (second ++ mark)).drop 15 = mark := by
    rw [← List.append_assoc]
    exact List.drop_left' (by rw [List.length_append, hfirst, hsecond])
  rw [clampLeap, hlast, List.take_left' hfirst, List.drop_left' hfirst, List.take_left' hsecond]

theorem numeral_sixty : Text.Numeral 2 ['6', '0'] 60 :=
  ⟨rfl, by simp, by simp [Text.digitsValue, Text.digitValue]⟩

theorem numeral_fiftyNine : Text.Numeral 2 ['5', '9'] 59 :=
  ⟨rfl, by simp, by simp [Text.digitsValue, Text.digitValue]⟩

theorem padded_min_eq_clampSecond {second : List Char} {s : Nat} (h : Text.Numeral 2 second s)
    (hs : s ≤ 60) : Text.padded 2 (min s 59) = clampSecond second := by
  unfold clampSecond
  split
  · next heq =>
    subst heq
    obtain rfl : s = 60 := h.value_eq.symm.trans numeral_sixty.value_eq
    exact numeral_fiftyNine.eq_padded.symm
  · next hne =>
    have hleap : s ≠ 60 := by
      rintro rfl
      exact hne (h.unique numeral_sixty)
    rw [min_eq_left (by omega), h.eq_padded]

theorem wallText_of_written {date time : List Char} {day : Int} {seconds : Nat}
    (hdate : WrittenDay date day) (htime : WrittenTime time seconds) (mark : List Char) :
    (wallText (midnight day + seconds)).toList ++ mark =
      clampLeap (date ++ 'T' :: (time ++ mark)) := by
  have hday := dayOf_midnight_add day seconds htime.lt_day
  have hsecond := (eq_midnight_add_iff htime.lt_day).1 (rfl : midnight day + seconds = _)
  obtain @⟨hour, minute, second, h, m, s, hhour, hminute, hsecond', hh, hm, hs⟩ := htime
  obtain ⟨hhourOf, hminuteOf, hsecondOf⟩ := (timeOfDay_eq_iff hm (by omega) _).1 hsecond.2
  have hfirst : (date ++ 'T' :: (hour ++ minute)).length = 13 := by
    simp only [List.length_append, List.length_cons, hdate.length_eq, hhour.length_eq,
      hminute.length_eq]
  have hparts : date ++ 'T' :: (hour ++ minute ++ second ++ mark) =
      (date ++ 'T' :: (hour ++ minute)) ++ (second ++ mark) := by simp
  rw [hparts, clampLeap_append hfirst hsecond'.length_eq, wallText_toList, hday,
    hdate.dateText_toList, timeText_toList, hhourOf, hminuteOf, hsecondOf, ← hhour.eq_padded,
    ← hminute.eq_padded, padded_min_eq_clampSecond hsecond' hs]
  simp

namespace DateTime

/-- The form of a time that no Z makes UTC: floating without a zone, and local to a zone whose
name is not blank. Blanks at the ends of the name do not count. -/
inductive LocalForm : Option String → Form → Prop
  | floating : LocalForm none .floating
  | zoned {tzid : String} (h : ∃ c ∈ tzid.toList, Text.isBlank c = false) :
      LocalForm (some tzid) (.zoned (Text.trimmed tzid))

/-- A value as it may be written beside an optional zone: a date, or a date and a time with a T
between them, behind which a Z says UTC. -/
inductive Written (tzid : Option String) : List Char → DateTime → Prop
  | date {cs : List Char} {day : Int} (hday : WrittenDay cs day) : Written tzid cs (.date day)
  | utc {date time : List Char} {day : Int} {seconds : Nat} (hday : WrittenDay date day)
      (htime : WrittenTime time seconds) :
      Written tzid (date ++ 'T' :: (time ++ ['Z'])) (.time (midnight day + seconds) .utc)
  | unmarked {date time : List Char} {day : Int} {seconds : Nat} {form : Form}
      (hday : WrittenDay date day) (htime : WrittenTime time seconds)
      (hform : LocalForm tzid form) :
      Written tzid (date ++ 'T' :: time) (.time (midnight day + seconds) form)

variable {s : String} {tzid : Option String} {value : DateTime} {cs : List Char}

theorem readForm?_eq_some_iff {form : Form} : readForm? tzid = some form ↔ LocalForm tzid form := by
  cases tzid with
  | none =>
    constructor
    · rintro ⟨⟩
      exact .floating
    · rintro ⟨⟩
      rfl
  | some tzid =>
    have hblank : (Text.trimmed tzid).isEmpty = true ↔
        ¬ ∃ c ∈ tzid.toList, Text.isBlank c = false := by
      rw [String.isEmpty_iff, Text.trimmed, String.ofList_eq_empty_iff, Text.trim_eq_nil_iff]
      simp
    unfold readForm?
    dsimp only
    split
    · next h =>
      refine ⟨by rintro ⟨⟩, ?_⟩
      intro hform
      cases hform with
      | zoned hsome => exact absurd hsome (hblank.1 h)
    · next h =>
      constructor
      · rintro ⟨⟩
        exact .zoned (not_not.1 (mt hblank.2 h))
      · rintro ⟨-⟩
        rfl

theorem eq_of_cutUtcMark {time : List Char} {isUtc : Bool} (h : cutUtcMark cs = (time, isUtc)) :
    cs = time ++ if isUtc then ['Z'] else [] := by
  unfold cutUtcMark at h
  split at h
  · next hlast =>
    cases h
    exact (List.dropLast_append_getLast? 'Z' hlast).symm
  · cases h
    exact (List.append_nil cs).symm

theorem cutUtcMark_append (cs : List Char) : cutUtcMark (cs ++ ['Z']) = (cs, true) := by
  simp [cutUtcMark]

theorem cutUtcMark_of_isDigit (h : cs.all Char.isDigit = true) : cutUtcMark cs = (cs, false) := by
  unfold cutUtcMark
  rw [if_neg]
  intro hlast
  exact not_mem_of_isDigit h (by decide) (List.mem_of_getLast? hlast)

theorem written_of_readTimed (h : readTimed s tzid = .ok value) : Written tzid s.toList value := by
  unfold readTimed at h
  split at h
  · cases h
  · next date rest hcut =>
    split at h
    · cases h
    · next day hday =>
      rcases hmark : cutUtcMark rest with ⟨time, isUtc⟩
      simp only [hmark] at h
      split at h
      · cases h
      · next seconds htime =>
        rw [Text.eq_of_cut? hcut, eq_of_cutUtcMark hmark]
        have hdate := readDay?_eq_some_iff.1 hday
        have hclock := readTime?_eq_some_iff.1 htime
        cases isUtc with
        | true =>
          cases h
          exact .utc hdate hclock
        | false =>
          simp only [Bool.false_eq_true, if_false] at h
          split at h
          · next form hform =>
            cases h
            rw [if_neg Bool.false_ne_true, List.append_nil]
            exact .unmarked hdate hclock (readForm?_eq_some_iff.1 hform)
          · cases h

theorem readTimed_of_parts {date rest time : List Char} {day : Int} {seconds : Nat}
    {isUtc : Bool} {form : Form} (htext : s.toList = date ++ 'T' :: rest)
    (hday : WrittenDay date day) (hmark : cutUtcMark rest = (time, isUtc))
    (htime : WrittenTime time seconds)
    (hform : (if isUtc then some Form.utc else readForm? tzid) = some form) :
    readTimed s tzid = .ok (.time (midnight day + seconds) form) := by
  have hcut := Text.cut?_append (not_mem_of_isDigit hday.isDigit (c := 'T') (by decide)) rest
  unfold readTimed
  rw [htext, hcut]
  simp only [readDay?_eq_some_iff.2 hday, hmark, readTime?_eq_some_iff.2 htime]
  cases isUtc with
  | true =>
    cases hform
    rfl
  | false =>
    rw [if_neg Bool.false_ne_true] at hform
    rw [if_neg Bool.false_ne_true, hform]

theorem readTimed_of_written (h : Written tzid s.toList value) (htime : value.hasTime = true) :
    readTimed s tzid = .ok value := by
  generalize htext : s.toList = text at h
  cases h with
  | date hday => cases htime
  | utc hday hclock => exact readTimed_of_parts htext hday (cutUtcMark_append _) hclock rfl
  | unmarked hday hclock hform =>
    exact readTimed_of_parts htext hday (cutUtcMark_of_isDigit hclock.isDigit) hclock
      (readForm?_eq_some_iff.2 hform)

theorem contains_of_written (h : Written tzid cs value) : cs.contains 'T' = value.hasTime := by
  cases h with
  | date hday =>
    rw [List.contains_eq_mem, hasTime, decide_eq_false_iff_not]
    exact not_mem_of_isDigit hday.isDigit (by decide)
  | utc hday htime => simp [hasTime]
  | unmarked hday htime hform => simp [hasTime]

theorem written_of_read (h : read s tzid = .ok value) : Written tzid s.toList value := by
  unfold read at h
  split at h
  · exact written_of_readTimed h
  · obtain ⟨day, hread, rfl⟩ := map_eq_ok_iff.1 h
    unfold readDate at hread
    split at hread
    · next found hday =>
      cases hread
      exact .date (readDay?_eq_some_iff.1 hday)
    · cases hread

theorem read_of_written (h : Written tzid s.toList value) : read s tzid = .ok value := by
  rw [read, contains_of_written h]
  cases hkind : value.hasTime with
  | true =>
    rw [if_pos rfl]
    exact readTimed_of_written h hkind
  | false =>
    generalize htext : s.toList = text at h
    cases h with
    | date hday =>
      rw [if_neg Bool.false_ne_true, readDate, htext, readDay?_eq_some_iff.2 hday]
      rfl
    | utc => cases hkind
    | unmarked => cases hkind

theorem read_eq_ok_iff : read s tzid = .ok value ↔ Written tzid s.toList value :=
  ⟨written_of_read, read_of_written⟩

theorem Written.text_toList (h : Written tzid cs value) : value.text.toList = clampLeap cs := by
  cases h with
  | date hday =>
    rw [clampLeap_of_length_le (by rw [hday.length_eq]; decide)]
    exact hday.dateText_toList
  | utc hday htime => exact String.toList_append.trans (wallText_of_written hday htime ['Z'])
  | unmarked hday htime hform =>
    have hwall := wallText_of_written hday htime []
    rw [List.append_nil, List.append_nil] at hwall
    cases hform <;> exact hwall

/-- Whether the name of a zone is there and has no blanks around it. -/
structure IsName (tzid : String) : Prop where
  ne_empty : tzid ≠ ""
  first : ∀ c ∈ tzid.toList.head?, Text.isBlank c = false
  last : ∀ c ∈ tzid.toList.getLast?, Text.isBlank c = false

/-- Whether a value is of a year of four digits and, where it is zoned, names its zone. -/
def IsPlain : DateTime → Prop
  | .date day => HasPlainYear day
  | .time wall form => HasPlainYear (dayOf wall) ∧ ∀ tzid, form = .zoned tzid → IsName tzid

theorem localForm_zoned {tzid : String} (h : IsName tzid) :
    LocalForm (some tzid) (.zoned tzid) := by
  have htrim : Text.trimmed tzid = tzid := by
    rw [Text.trimmed, Text.trim_eq_self h.first h.last, String.ofList_toList]
  have hsome : ∃ c ∈ tzid.toList, Text.isBlank c = false := by
    cases hchars : tzid.toList with
    | nil => exact absurd (String.toList_eq_nil_iff.1 hchars) h.ne_empty
    | cons c cs => exact ⟨c, List.mem_cons_self, h.first c (by rw [hchars, List.head?_cons]; rfl)⟩
  have hform := LocalForm.zoned hsome
  rwa [htrim] at hform

theorem written_text (h : value.IsPlain) : Written value.tzid? value.text.toList value := by
  cases value with
  | date day => exact .date (readDay?_eq_some_iff.1 (readDay?_dateText h))
  | time wall form =>
    obtain ⟨hyear, hname⟩ := h
    have hday := readDay?_eq_some_iff.1 (readDay?_dateText hyear)
    have htime := readTime?_eq_some_iff.1 (readTime?_timeText wall)
    have hlocal {tzid : Option String} {form : Form} (hform : LocalForm tzid form) :
        Written tzid (wallText wall).toList (.time wall form) := by
      have hwall := Written.unmarked hday htime hform
      rwa [midnight_dayOf_add, ← wallText_toList] at hwall
    cases form with
    | floating => exact hlocal .floating
    | utc =>
      have hutc := @Written.utc none _ _ _ _ hday htime
      rw [midnight_dayOf_add, ← List.cons_append, ← List.append_assoc, ← wallText_toList] at hutc
      rwa [show (time wall .utc).text.toList = _ from String.toList_append]
    | zoned tzid => exact hlocal (localForm_zoned (hname tzid rfl))

theorem readTimed_text {wall : Int} {form : Form} (hform : form = .floating ∨ form = .utc)
    (h : HasPlainYear (dayOf wall)) :
    readTimed (time wall form).text none = .ok (time wall form) := by
  have hplain : (time wall form).IsPlain := by
    refine ⟨h, ?_⟩
    rintro tzid rfl
    simp at hform
  have htzid : (time wall form).tzid? = none := by
    rcases hform with rfl | rfl <;> rfl
  exact readTimed_of_written (htzid ▸ written_text hplain) rfl

/-- **Dates and times are read just as they are written.** A text is read as a value if and only if
it is one of the written forms of that value, which say all there is to know of it: its text is
the one read, but for a leap second. And each value of a year of four digits, in whole seconds
and with a proper name for its zone if it is zoned, is read back from its text beside that name. -/
theorem read_inverts_text (s : String) (tzid : Option String) (value : DateTime) :
    (read s tzid = .ok value ↔ Written tzid s.toList value) ∧
      (read s tzid = .ok value → value.text.toList = clampLeap s.toList) ∧
      (value.IsPlain → read value.text value.tzid? = .ok value) :=
  ⟨read_eq_ok_iff, fun h => (written_of_read h).text_toList,
    fun h => read_of_written (written_text h)⟩

/-- The last second of 2016 in Paris, behind which a leap second was to come. -/
def lastOf2016 : DateTime := .time (midnight 17166 + 86399) (.zoned "Europe/Paris")

theorem read_inverts_text_leapSecond :
    read "20161231T235960" (some " Europe/Paris") = .ok lastOf2016 ∧
      lastOf2016.text = "20161231T235959" ∧ lastOf2016.IsPlain ∧
      read "20161231T235959" (some "Europe/Paris") = .ok lastOf2016 := by
  have hread : read "20161231T235960" (some " Europe/Paris") = .ok lastOf2016 := by decide +kernel
  have hplain : lastOf2016.IsPlain := by
    refine ⟨⟨by decide, by decide⟩, ?_⟩
    rintro tzid ⟨⟩
    refine ⟨by decide, fun c hc => ?_, fun c hc => ?_⟩
    · obtain rfl : 'E' = c := Option.some.inj hc
      decide
    · obtain rfl : 's' = c := Option.some.inj hc
      decide
  have hclamp : clampLeap "20161231T235960".toList = "20161231T235959".toList := by decide
  have htext : lastOf2016.text = "20161231T235959" :=
    String.toList_inj.1 (((read_inverts_text _ _ lastOf2016).2.1 hread).trans hclamp)
  have hback := (read_inverts_text "20161231T235960" (some " Europe/Paris") lastOf2016).2.2 hplain
  rw [htext] at hback
  exact ⟨hread, htext, hplain, hback⟩

end DateTime
end Recurrence
