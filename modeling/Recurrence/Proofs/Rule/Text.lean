import Mathlib
import Recurrence.Proofs.DateTime.Grammar
import Recurrence.Proofs.Rule.Checked
import Recurrence.Proofs.Rule.Parts

/-! Rules read back from their text. The parts that a rule is written as are read one after the
other, each into the field it came from, and what is left unsaid is what a pattern takes by
default. Only of a last day the text does not tell whether it was kept as a date-time. -/
namespace Recurrence
open Calendar

namespace Until

/-- Whether a last moment is written in full: a day, or a time that is floating or UTC, of a year
of four digits. -/
def IsPlain : Until → Prop
  | .date day | .dateTime (.date day) => HasPlainYear day
  | .dateTime (.time wall form) => (form = .floating ∨ form = .utc) ∧ HasPlainYear (dayOf wall)

/-- A last moment as it is read back: a day that is kept as a date-time becomes a mere day. -/
def asRead : Until → Until
  | .dateTime (.date day) => .date day
  | last => last

theorem text_asRead (last : Until) : last.asRead.text = last.text := by
  unfold asRead
  split <;> rfl

theorem asRead_eq_self_iff {last : Until} :
    last.asRead = last ↔ ∀ day, last ≠ .dateTime (.date day) := by
  unfold asRead
  split
  · simp
  · next hother => exact iff_of_true rfl hother

end Until

/-- A pattern with its last moment as it is read back. -/
def Pattern.asRead (pattern : Pattern) : Pattern :=
  pattern.withEnding <|
    match pattern.ending with
    | .upTo last => .upTo last.asRead
    | other => other

@[simp] theorem Pattern.count?_asRead (pattern : Pattern) :
    pattern.asRead.count? = pattern.count? := by
  unfold asRead count? withEnding
  cases pattern.ending <;> rfl

@[simp] theorem Pattern.until?_asRead (pattern : Pattern) :
    pattern.asRead.until? = pattern.until?.map Until.asRead := by
  unfold asRead until? withEnding
  cases pattern.ending <;> rfl

theorem Pattern.asRead_eq_self_iff {pattern : Pattern} :
    pattern.asRead = pattern ↔ ∀ day, pattern.until? ≠ some (.dateTime (.date day)) := by
  obtain ⟨frequency, interval, ending, weekStart, lists, pos, inRange, fits⟩ := pattern
  cases ending <;> simp [asRead, withEnding, until?, Until.asRead_eq_self_iff]

namespace Rule

/-- Whether the text of a value is a word that is read as the value. -/
structure ReadsBack {α : Type} (read : List Char → Except ReadKind α) (text : α → String)
    (value : α) : Prop where
  word : Text.IsWord (text value).toList
  read : read (text value).toList = .ok value

section Values

variable {α : Type} {read : List Char → Except ReadKind α} {text : α → String} {values : List α}

theorem readValues_text (hne : values ≠ []) (h : ∀ value ∈ values, ReadsBack read text value) :
    readValues read (",".intercalate (values.map text)).toList = .ok values := by
  have hfields : Text.fields ',' (",".intercalate (values.map text)).toList =
      values.map fun value => (text value).toList := by
    rw [String.toList_intercalate, List.map_map]
    refine Text.fields_intercalate (by simpa using hne) fun part hpart => ?_
    obtain ⟨value, hvalue, rfl⟩ := List.mem_map.1 hpart
    exact (h value hvalue).word.not_mem (by decide)
  rw [readValues, hfields, mapM_eq_ok_iff, List.map_map]
  refine List.map_congr_left fun value hvalue => ?_
  rw [Function.comp_apply, Text.trim_of_isWord (h value hvalue).word]
  exact (h value hvalue).read

theorem not_mem_values (h : ∀ value ∈ values, ReadsBack read text value) :
    ';' ∉ (",".intercalate (values.map text)).toList := by
  rw [String.toList_intercalate, List.map_map]
  refine Text.not_mem_intercalate (by decide) fun part hpart => ?_
  obtain ⟨value, hvalue, rfl⟩ := List.mem_map.1 hpart
  exact (h value hvalue).word.not_mem (by decide)

end Values

theorem readsBack_count {n most : Nat} (h : n ≤ most) (hmost : most ≤ 255) :
    ReadsBack (fun cs => orRule (Text.readUnsigned? 255 cs)) Text.natText n := by
  refine ⟨Text.isWord_natText n, ?_⟩
  simp only [Text.natText, String.toList_ofList, Text.readUnsigned?_digits (h.trans hmost)]
  rfl

theorem readsBack_place {i least last : Int} {most : Nat} (h : CountsWithin most i)
    (hlow : least ≤ -most) (hhigh : most ≤ last) :
    ReadsBack (fun cs => orRule (Text.readSigned? least last cs)) Text.intText i := by
  obtain ⟨-, hi⟩ := h
  refine ⟨Text.isWord_intText i, ?_⟩
  simp only [Text.readSigned?_intText (show least ≤ i by omega) (show i ≤ last by omega)]
  rfl

theorem readsBack_day {day : WeekdayNum} (h : ∀ n ∈ day.ordinal, CountsWithin 53 n) :
    ReadsBack readWeekdayNum WeekdayNum.text day := by
  obtain ⟨ordinal, weekday⟩ := day
  have hword : Text.IsWord weekday.text.toList := by
    cases weekday <;> simp [Weekday.text, Text.IsWord, Text.isWordChar]
  have hlength : weekday.text.toList.length = 2 := by cases weekday <;> rfl
  cases ordinal with
  | none =>
    refine ⟨hword, ?_⟩
    simp [readWeekdayNum, WeekdayNum.text, hlength]
  | some n =>
    obtain ⟨-, hn⟩ := h n rfl
    have htext : (WeekdayNum.text ⟨some n, weekday⟩).toList =
        (Text.intText n).toList ++ weekday.text.toList := String.toList_append
    have hcut : (WeekdayNum.text ⟨some n, weekday⟩).toList.length - 2 =
        (Text.intText n).toList.length := by
      rw [htext, List.length_append, hlength, Nat.add_sub_cancel]
    refine ⟨htext ▸ (Text.isWord_intText n).append hword, ?_⟩
    have hne : (Text.intText n).toList ≠ [] := by
      rw [Text.intText_toList]
      split <;> simp [Text.digits_ne_nil]
    unfold readWeekdayNum
    rw [hcut, htext, List.take_left, List.drop_left, Weekday.read?_text]
    simp only [List.isEmpty_iff, hne, if_false,
      Text.readSigned?_intText (show -128 ≤ n by omega) (show n ≤ 127 by omega)]
    rfl

theorem readsBack_lastDay {day : Int} (h : HasPlainYear day) :
    ReadsBack readUntil Until.text (.date day) := by
  have hdigits := isDigit_dateText h
  have hT : (dateText day).toList.contains 'T' = false := by
    rw [List.contains_eq_mem, decide_eq_false_iff_not]
    exact not_mem_of_isDigit hdigits (by decide)
  refine ⟨Text.isWord_of_isDigit hdigits, ?_⟩
  simp only [readUntil, Until.text, hT, DateTime.readDate, String.toList_ofList,
    readDay?_dateText h]
  rfl

theorem readsBack_until {last : Until} (h : last.IsPlain) :
    ReadsBack readUntil Until.text last.asRead := by
  match last, h with
  | .date day, h => exact readsBack_lastDay h
  | .dateTime (.date day), h => exact readsBack_lastDay h
  | .dateTime (.time wall form), ⟨hform, hyear⟩ =>
    change ReadsBack readUntil Until.text (.dateTime (.time wall form))
    obtain ⟨mark, hmark, htext⟩ := DateTime.exists_text_toList wall hform
    have hT : (DateTime.time wall form).text.toList.contains 'T' = true := by
      rw [List.contains_eq_mem, decide_eq_true_eq, htext]
      exact List.mem_append_right _ List.mem_cons_self
    refine ⟨?_, ?_⟩
    · rw [Until.text, htext]
      refine (Text.isWord_of_isDigit (isDigit_dateText hyear)).append ?_
      refine List.forall_mem_cons.2 ⟨rfl, ?_⟩
      exact (Text.isWord_of_isDigit (isDigit_timeText wall)).append hmark
    · simp only [readUntil, Until.text, hT, if_true, String.ofList_toList,
        DateTime.readTimed_text hform hyear]
      rfl

section Parts

/-- Whether whole parts of text, read into a rule one after the other, give the next one. -/
inductive Reads : Rule → List String → Rule → Prop
  | nil (rule : Rule) : Reads rule [] rule
  | cons {rule middle next : Rule} {part : String} {parts : List String} (hne : part.toList ≠ [])
      (hwhole : ';' ∉ part.toList) (hpart : rule.readPiece part.toList = .ok middle)
      (hparts : Reads middle parts next) : Reads rule (part :: parts) next

variable {rule middle next : Rule} {parts others : List String}

theorem Reads.append (hparts : rule.Reads parts middle) (hothers : middle.Reads others next) :
    rule.Reads (parts ++ others) next := by
  induction hparts with
  | nil => exact hothers
  | cons hne hwhole hpart _ ih => exact .cons hne hwhole hpart (ih hothers)

theorem Reads.whole (h : rule.Reads parts next) :
    ∀ part ∈ parts.map String.toList, part ≠ [] ∧ ';' ∉ part := by
  induction h with
  | nil => simp
  | cons hne hwhole _ _ ih => exact List.forall_mem_cons.2 ⟨⟨hne, hwhole⟩, ih⟩

theorem Reads.foldlM (h : rule.Reads parts next) :
    (parts.map String.toList).foldlM readPiece rule = .ok next := by
  induction h with
  | nil => rfl
  | cons _ _ hpart _ ih => rw [List.map_cons, List.foldlM_cons, hpart]; exact ih

/-- Each key is read by its name, and no name ends a part or its name early. -/
theorem read?_of_mem_keys : ∀ entry ∈ keys, Key.read? entry.1.toList = some entry.2 ∧
    '=' ∉ entry.1.toList ∧ ';' ∉ entry.1.toList := by decide

variable {name : String} {key : Key}

theorem reads_singleton (hkey : (name, key) ∈ keys) {text : String} (htext : ';' ∉ text.toList)
    (hread : rule.readPart key text.toList = .ok next) :
    rule.Reads [name ++ "=" ++ text] next := by
  obtain ⟨hname, hequals, hsemicolon⟩ := read?_of_mem_keys _ hkey
  have hpart : (name ++ "=" ++ text).toList = name.toList ++ '=' :: text.toList := by simp
  refine .cons ?_ ?_ ?_ (.nil next)
  · simp
  · rw [hpart, List.mem_append, List.mem_cons]
    rintro (hmem | hmem | hmem)
    · exact hsemicolon hmem
    · cases hmem
    · exact htext hmem
  · simp only [readPiece, hpart, Text.cut?_append hequals, hname]
    exact hread

theorem reads_part {α : Type} {text : α → String} {value : Option α} (hkey : (name, key) ∈ keys)
    (hnone : value = none → next = rule)
    (hsome : ∀ a, value = some a → ';' ∉ (text a).toList ∧
      rule.readPart key (text a).toList = .ok next) :
    rule.Reads (part name (value.map text)) next := by
  cases value with
  | none =>
    obtain rfl := hnone rfl
    exact .nil next
  | some a =>
    obtain ⟨hwhole, hread⟩ := hsome a rfl
    exact reads_singleton hkey hwhole hread

theorem reads_frequency (h : rule.frequency = none) (frequency : Option Frequency) :
    rule.Reads (part "FREQ" (frequency.map Frequency.text)) { rule with frequency } := by
  refine reads_part (show ("FREQ", Key.frequency) ∈ keys by decide) ?_ ?_
  · rintro rfl
    rw [← h]
  · rintro f rfl
    refine ⟨by cases f <;> decide, ?_⟩
    simp only [readPart, Frequency.read?_text]

theorem readWord?_natText (n : UInt32) : Text.readWord? (Text.natText n.toNat).toList = some n := by
  rw [Text.natText, String.toList_ofList, Text.readWord?_digits]

theorem reads_interval (h : rule.interval = none) (interval : Option UInt32) :
    rule.Reads (part "INTERVAL" (interval.map fun n => Text.natText n.toNat))
      { rule with interval } := by
  refine reads_part (show ("INTERVAL", Key.interval) ∈ keys by decide) ?_ ?_
  · rintro rfl
    rw [← h]
  · rintro n rfl
    refine ⟨(Text.isWord_natText n.toNat).not_mem (by decide), ?_⟩
    simp only [readPart, readWord?_natText]
    rfl

theorem reads_endsAt (h : rule.endsAt = none) (hcount : rule.count = none) {endsAt : Option Until}
    (hplain : ∀ last ∈ endsAt, last.IsPlain) :
    rule.Reads (part "UNTIL" (endsAt.map Until.text))
      { rule with endsAt := endsAt.map Until.asRead } := by
  refine reads_part (show ("UNTIL", Key.endsAt) ∈ keys by decide) ?_ ?_
  · rintro rfl
    rw [Option.map_none, ← h]
  · rintro last rfl
    have hlast := readsBack_until (hplain last rfl)
    rw [← last.text_asRead]
    refine ⟨hlast.word.not_mem (by decide), ?_⟩
    simp only [readPart, hcount, Option.isSome_none, hlast.read]
    rfl

theorem reads_count (h : rule.count = none) {count : Option UInt32}
    (hone : rule.endsAt = none ∨ count = none) :
    rule.Reads (part "COUNT" (count.map fun n => Text.natText n.toNat)) { rule with count } := by
  refine reads_part (show ("COUNT", Key.count) ∈ keys by decide) ?_ ?_
  · rintro rfl
    rw [← h]
  · rintro n rfl
    refine ⟨(Text.isWord_natText n.toNat).not_mem (by decide), ?_⟩
    simp only [readPart, hone.resolve_right (by simp), Option.isSome_none, readWord?_natText]
    rfl

theorem reads_weekStart (h : rule.weekStart = none) (weekStart : Option Weekday) :
    rule.Reads (part "WKST" (weekStart.map Weekday.text)) { rule with weekStart } := by
  refine reads_part (show ("WKST", Key.weekStart) ∈ keys by decide) ?_ ?_
  · rintro rfl
    rw [← h]
  · rintro weekday rfl
    refine ⟨by cases weekday <;> decide, ?_⟩
    simp only [readPart, Weekday.read?_text]

/-- A list is read into its place in a rule that does not have it yet. -/
theorem reads_listPart {α : Type} {read : List Char → Except ReadKind α} {text : α → String}
    {values : List α} (set : List α → ByLists → ByLists) (hkey : (name, key) ∈ keys)
    (hread : ∀ cs, rule.readPart key cs = (readValues read cs).map fun vs => rule.setLists (set vs))
    (hempty : set [] rule.lists = rule.lists)
    (hvalues : ∀ value ∈ values, ReadsBack read text value) :
    rule.Reads (listPart name (values.map text)) (rule.setLists (set values)) := by
  cases values with
  | nil =>
    rw [setLists, hempty]
    exact .nil rule
  | cons value others =>
    refine reads_singleton hkey (not_mem_values hvalues) ?_
    rw [hread, readValues_text (by simp) hvalues]
    rfl

theorem reads_lists (hempty : rule.lists = .empty) {lists : ByLists} (hrange : lists.InRange) :
    rule.Reads (listPart "BYSECOND" (lists.seconds.map Text.natText) ++
      (listPart "BYMINUTE" (lists.minutes.map Text.natText) ++
      (listPart "BYHOUR" (lists.hours.map Text.natText) ++
      (listPart "BYDAY" (lists.days.map WeekdayNum.text) ++
      (listPart "BYMONTHDAY" (lists.monthDays.map Text.intText) ++
      (listPart "BYYEARDAY" (lists.yearDays.map Text.intText) ++
      (listPart "BYWEEKNO" (lists.weekNumbers.map Text.intText) ++
      (listPart "BYMONTH" (lists.months.map Text.natText) ++
      listPart "BYSETPOS" (lists.positions.map Text.intText)))))))))
      { rule with lists } := by
  obtain ⟨frequency, interval, endsAt, count, weekStart, none⟩ := rule
  obtain rfl : none = .empty := hempty
  -- after each list, the rule read so far is put together again
  refine (reads_listPart (fun vs lists => { lists with seconds := vs })
    (show ("BYSECOND", Key.seconds) ∈ keys by decide) (fun _ => rfl) rfl
    fun v hv => readsBack_count (hrange.seconds v hv) (by decide)).append ?_
  dsimp only [setLists, ByLists.empty]
  refine (reads_listPart (fun vs lists => { lists with minutes := vs })
    (show ("BYMINUTE", Key.minutes) ∈ keys by decide) (fun _ => rfl) rfl
    fun v hv => readsBack_count (hrange.minutes v hv) (by decide)).append ?_
  dsimp only [setLists]
  refine (reads_listPart (fun vs lists => { lists with hours := vs })
    (show ("BYHOUR", Key.hours) ∈ keys by decide) (fun _ => rfl) rfl
    fun v hv => readsBack_count (hrange.hours v hv) (by decide)).append ?_
  dsimp only [setLists]
  refine (reads_listPart (fun vs lists => { lists with days := vs })
    (show ("BYDAY", Key.days) ∈ keys by decide) (fun _ => rfl) rfl
    fun v hv => readsBack_day (hrange.days v hv)).append ?_
  dsimp only [setLists]
  refine (reads_listPart (fun vs lists => { lists with monthDays := vs })
    (show ("BYMONTHDAY", Key.monthDays) ∈ keys by decide) (fun _ => rfl) rfl
    fun v hv => readsBack_place (hrange.monthDays v hv) (by decide) (by decide)).append ?_
  dsimp only [setLists]
  refine (reads_listPart (fun vs lists => { lists with yearDays := vs })
    (show ("BYYEARDAY", Key.yearDays) ∈ keys by decide) (fun _ => rfl) rfl
    fun v hv => readsBack_place (hrange.yearDays v hv) (by decide) (by decide)).append ?_
  dsimp only [setLists]
  refine (reads_listPart (fun vs lists => { lists with weekNumbers := vs })
    (show ("BYWEEKNO", Key.weekNumbers) ∈ keys by decide) (fun _ => rfl) rfl
    fun v hv => readsBack_place (hrange.weekNumbers v hv) (by decide) (by decide)).append ?_
  dsimp only [setLists]
  refine (reads_listPart (fun vs lists => { lists with months := vs })
    (show ("BYMONTH", Key.months) ∈ keys by decide) (fun _ => rfl) rfl
    fun v hv => readsBack_count (hrange.months v hv).2 (by decide)).append ?_
  dsimp only [setLists]
  exact reads_listPart (fun vs lists => { lists with positions := vs })
    (show ("BYSETPOS", Key.positions) ∈ keys by decide) (fun _ => rfl) rfl
    fun v hv => readsBack_place (hrange.positions v hv) (by decide) (by decide)

end Parts

/-- The rule as its text says it: an interval of one is not said, nor whether a last day is kept
as a date-time. -/
def said (rule : Rule) : Rule :=
  { rule with
    interval := rule.interval.filter (· ≠ 1)
    endsAt := rule.endsAt.map Until.asRead }

/-- Whether a rule has no more than one end, and that written in full. -/
structure EndsPlainly (rule : Rule) : Prop where
  one : rule.endsAt = none ∨ rule.count = none
  plain : ∀ last ∈ rule.endsAt, last.IsPlain

variable {rule : Rule}

theorem reads_parts (hrange : rule.lists.InRange) (hends : rule.EndsPlainly) :
    blank.Reads rule.parts rule.said := by
  simp only [parts, List.append_assoc]
  refine (reads_frequency rfl rule.frequency).append ?_
  refine (reads_interval rfl _).append ?_
  refine (reads_endsAt rfl rfl hends.plain).append ?_
  refine (reads_count rfl ?_).append ?_
  · exact hends.one.imp_left fun hnone => by rw [hnone, Option.map_none]
  refine (reads_weekStart rfl rule.weekStart).append ?_
  exact reads_lists rfl hrange

theorem exists_parts_eq {frequency : Frequency} (h : rule.frequency = some frequency) :
    ∃ others, rule.parts = ("FREQ=" ++ frequency.text) :: others := by
  simp only [parts, List.append_assoc, h]
  exact ⟨_, rfl⟩

theorem pieces_text {next : Rule} {frequency : Frequency} (h : rule.frequency = some frequency)
    (hreads : blank.Reads rule.parts next) :
    pieces rule.text.toList = rule.parts.map String.toList := by
  have htext : rule.text.toList = [';'].intercalate (rule.parts.map String.toList) :=
    String.toList_intercalate
  rw [htext]
  refine pieces_intercalate hreads.whole ?_
  -- the name of the property does not stand in front
  obtain ⟨others, hparts⟩ := exists_parts_eq h
  obtain ⟨rest, hrest⟩ := Text.exists_intercalate_cons_eq ';'
    ("FREQ=" ++ frequency.text).toList (others.map String.toList)
  rw [hparts, List.map_cons, hrest, String.toList_append, List.append_assoc]
  rfl

theorem read_text_said {frequency : Frequency} (h : rule.frequency = some frequency)
    (hrange : rule.lists.InRange) (hends : rule.EndsPlainly) :
    read rule.text = .ok rule.said := by
  have hreads := reads_parts hrange hends
  rw [read, pieces_text h hreads, hreads.foldlM]
  rfl

end Rule

namespace Pattern

theorem read_text_asRead {pattern : Pattern} (h : pattern.Made)
    (huntil : ∀ last ∈ pattern.until?, last.IsPlain) :
    Pattern.read pattern.text = .ok pattern.asRead := by
  have hends : pattern.toRule.EndsPlainly := by
    refine ⟨?_, huntil⟩
    simp only [toRule, until?, count?]
    cases pattern.ending <;> simp
  have hread := Rule.read_text_said rfl pattern.inRange hends
  have hrule : ofRule pattern.toRule.said = .ok pattern.asRead := by
    refine ofRule_eq_ok rfl ?_ pattern.count?_asRead.symm pattern.until?_asRead.symm ?_ rfl
      h.distinct
    · simp only [Rule.said, toRule, Option.filter_some]
      split <;> simp_all [asRead, withEnding]
    · simp only [Rule.said, toRule]
      split <;> simp_all [asRead, withEnding]
  rw [read, text, hread]
  exact orInvalid_eq_ok_iff.2 hrule

/-- **A pattern survives its text.** However a pattern comes about, where its last moment, if it
has one, is a day or a time in whole seconds that is floating or UTC, of a year of four digits,
its text is read as the same pattern, but for a last day that is kept as a date-time. -/
theorem read_text {pattern : Pattern} (h : pattern.Made)
    (huntil : ∀ last ∈ pattern.until?, last.IsPlain) :
    Pattern.read pattern.text = .ok pattern.asRead ∧
      (pattern.asRead = pattern ↔ ∀ day, pattern.until? ≠ some (.dateTime (.date day))) :=
  ⟨read_text_asRead h huntil, asRead_eq_self_iff⟩

/-- A rule that says some things twice: the last Friday and Mondays of each second month, weeks
from Sunday, up to a moment in UTC. -/
def monthEnds : Rule where
  frequency := some .monthly
  interval := some 2
  endsAt := some (.dateTime (.time (midnight 20000 + 28800) .utc))
  count := none
  weekStart := some .sunday
  lists := { ByLists.empty with
    hours := [17, 8, 17]
    days := [⟨some (-1), .friday⟩, ⟨none, .monday⟩, ⟨some (-1), .friday⟩]
    monthDays := [-1, 15, -31]
    positions := [1, -366, 1] }

theorem read_text_monthEnds : ∃ pattern, ofRule monthEnds = .ok pattern ∧
    pattern.lists.hours = [17, 8] ∧ Pattern.read pattern.text = .ok pattern := by
  refine ⟨_, rfl, rfl, ?_⟩
  obtain ⟨hread, hsame⟩ := read_text (.ofRule (show ofRule monthEnds = _ from rfl)) (by
    intro last hlast
    obtain rfl := Option.some.inj hlast
    exact ⟨.inr rfl, by decide, by decide⟩)
  rwa [hsame.2 (by rintro day ⟨⟩)] at hread

/-- Every day up to the first of January 1970, which is kept as a date-time. -/
def upToNewYear : Rule where
  frequency := some .daily
  interval := none
  endsAt := some (.dateTime (.date 0))
  count := none
  weekStart := none
  lists := .empty

/-- A last day that is kept as a date-time is read back as a mere day, which is another end. -/
theorem not_read_text_upToNewYear : ∃ pattern other, ofRule upToNewYear = .ok pattern ∧
    pattern.until? = some (.dateTime (.date 0)) ∧ (∀ last ∈ pattern.until?, last.IsPlain) ∧
    Pattern.read pattern.text = .ok other ∧ other.until? = some (.date 0) ∧ other ≠ pattern := by
  have hplain : ∀ last ∈ some (Until.dateTime (.date 0)), last.IsPlain := by
    rintro _ ⟨⟩
    exact ⟨by decide, by decide⟩
  exact ⟨_, _, rfl, rfl, hplain,
    read_text_asRead (.ofRule (show ofRule upToNewYear = _ from rfl)) hplain, rfl,
    fun heq => asRead_eq_self_iff.1 heq 0 rfl⟩

end Pattern
end Recurrence
