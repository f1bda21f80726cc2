import Recurrence.Duration
import Recurrence.Offset
import Recurrence.Rule.Basic
import Recurrence.Text.Quoted
/-!
Causes of failure and their wording. Text that cannot be read, values that break a constraint,
zones that cannot be used and rules that cannot be evaluated are four families; `Failure` is
their sum.
-/
namespace Recurrence

/-- A constraint that a value breaks. -/
inductive InvalidValue where
  | noSuchDate (year : Int) (month day : Nat)
  | noSuchDateTime (year : Int) (month day hour minute second : Nat)
  | blankZone
  | sumOutOfRange (value : DateTime) (duration : Duration)
  | mixedSigns (parts : List Int)
  | componentTooLarge (part : Int)
  | elapsedTooLarge (seconds : Int)
  | periodMixesKinds (start stop : DateTime)
  | periodMixesForms (start stop : DateTime)
  | periodEndsFirst (start stop : DateTime)
  | periodNegative (duration : Duration)
  | periodOfDate (start : DateTime) (duration : Duration)
  | windowEndsFirst (start stop : Int)
  | noFrequency
  | zeroInterval
  | countAndUntil
  | listValue (part value : String)
  | ordinalNeedsLongUnit (day : WeekdayNum) (frequency : Frequency)
  | weekNumberNeedsYear (frequency : Frequency)
  | ordinalWithWeekNumber (day : WeekdayNum)
deriving DecidableEq

/-- An integer filled up with zeros to a width that counts its sign. -/
def signPaddedText (width : Nat) (i : Int) : String :=
  if i < 0 then "-" ++ Text.paddedText (width - 1) i.natAbs else Text.paddedText width i.natAbs

/-- A date as given, real or not. -/
def givenDateText (year : Int) (month day : Nat) : String :=
  signPaddedText 4 year ++ "-" ++ Text.paddedText 2 month ++ "-" ++ Text.paddedText 2 day

/-- A count of seconds as an elapsed time. -/
def elapsedText (seconds : Int) : String :=
  (if seconds < 0 then "-PT" else "PT") ++ Text.natText seconds.natAbs ++ "S"

def InvalidValue.message : InvalidValue → String
  | noSuchDate year month day => "invalid date " ++ givenDateText year month day
  | noSuchDateTime year month day hour minute second =>
    "invalid date-time " ++ givenDateText year month day ++ "T" ++ Text.paddedText 2 hour ++ ":" ++
      Text.paddedText 2 minute ++ ":" ++ Text.paddedText 2 second
  | blankZone => "TZID must not be empty"
  | sumOutOfRange value duration => s!"{value.text} + {duration.text} is out of range"
  | mixedSigns parts =>
    "duration components must share one sign: [" ++ ", ".intercalate (parts.map Text.intText) ++ "]"
  | componentTooLarge part => s!"duration component {Text.intText part} is too large"
  | elapsedTooLarge seconds => s!"elapsed time {elapsedText seconds} is too large"
  | periodMixesKinds start stop =>
    s!"period {start.text}/{stop.text} mixes DATE and DATE-TIME values"
  | periodMixesForms start stop => s!"period {start.text}/{stop.text} mixes time zone modes"
  | periodEndsFirst start stop => s!"period end {stop.text} is before start {start.text}"
  | periodNegative duration => s!"period duration {duration.text} is negative"
  | periodOfDate start duration =>
    s!"period starting on DATE {start.text} cannot last {duration.text}"
  | windowEndsFirst start stop =>
    "time range end " ++ Calendar.readableText stop ++ " UTC precedes start " ++
      Calendar.readableText start ++ " UTC"
  | noFrequency => "RRULE requires FREQ"
  | zeroInterval => "RRULE INTERVAL must be at least 1"
  | countAndUntil => "RRULE COUNT and UNTIL are mutually exclusive"
  | listValue part value => s!"RRULE {part} value {value} is out of range"
  | ordinalNeedsLongUnit day frequency =>
    s!"RRULE BYDAY value {day.text} needs FREQ=MONTHLY or FREQ=YEARLY, not {frequency.text}"
  | weekNumberNeedsYear frequency => s!"RRULE BYWEEKNO needs FREQ=YEARLY, not {frequency.text}"
  | ordinalWithWeekNumber day =>
    s!"RRULE BYDAY value {day.text} cannot be combined with BYWEEKNO"

/-- An invalid value as it is reported. -/
def InvalidValue.report (error : InvalidValue) : String := "Validation error: " ++ error.message

/-- What a text was to be read as, or which rule of its form it broke. -/
inductive ReadKind where
  | date
  | time
  | dateTime
  | duration
  | period
  | rule
  | frequency
  | weekday
  | offset
  | untilWithCount
deriving DecidableEq

def ReadKind.message : ReadKind → String
  | date => "invalid date format"
  | time => "invalid time format"
  | dateTime => "invalid date-time format"
  | duration => "invalid duration format"
  | period => "invalid period format"
  | rule => "invalid recurrence rule"
  | frequency => "invalid frequency"
  | weekday => "invalid weekday"
  | offset => "invalid UTC offset format"
  | untilWithCount => "UNTIL and COUNT are mutually exclusive"

/-- What more can be said about a text that cannot be read. -/
inductive ReadDetail where
  | blankZone
  | negativeZero
  | unexpectedDesignator (designator : Char)
  | designatorsOutOfOrder
  | constraint (error : InvalidValue)
deriving DecidableEq

def ReadDetail.message : ReadDetail → String
  | blankZone => "TZID must not be empty"
  | negativeZero => "-0000 is not a valid offset"
  | unexpectedDesignator designator => "unexpected designator '" ++ designator.toString ++ "'"
  | designatorsOutOfOrder => "designators out of order"
  | constraint error => error.report

/-- A text that cannot be read. -/
structure ReadError where
  kind : ReadKind
  input : String
  detail : Option ReadDetail
deriving DecidableEq

def ReadError.message (error : ReadError) : String :=
  s!"{error.kind.message} in {Text.quoted error.input}" ++
    match error.detail with
    | some detail => ": " ++ detail.message
    | none => ""

/-- A zone that cannot be used, or values that no zone makes comparable. -/
inductive ZoneError where
  | unknownZone (tzid : String)
  | invalidOffset (tzid : String)
  | unrepresentable (wall : Int)
  | unrepresentableAt (wall : Int) (offset : Offset)
  | incomparable (left right : DateTime)
deriving DecidableEq

def ZoneError.message : ZoneError → String
  | unknownZone tzid => "Unknown timezone: " ++ tzid
  | invalidOffset tzid => "Invalid UTC offset: " ++ tzid
  | unrepresentable wall => "Invalid datetime: " ++ Calendar.readableText wall
  | unrepresentableAt wall offset =>
    s!"Invalid datetime: {Calendar.readableText wall} at offset {offset.text}"
  | incomparable left right => s!"Values cannot be compared: {left.text} and {right.text}"

/-- A rule that cannot be evaluated from its anchor, or that seems to have no further instance. -/
inductive EvaluationError where
  | subDailyFromDate (frequency : Frequency)
  | emptySteps (limit : UInt32)
  | timedUntilOnDate (endsAt : DateTime)
deriving DecidableEq

def EvaluationError.message : EvaluationError → String
  | subDailyFromDate frequency => s!"{frequency.text} recurrence requires a DATE-TIME anchor"
  | emptySteps limit =>
    s!"No recurrence candidate within {Text.natText limit.toNat} consecutive steps"
  | timedUntilOnDate endsAt => s!"UNTIL {endsAt.text} is a DATE-TIME but the anchor is a DATE"

inductive Failure where
  | unreadable (error : ReadError)
  | invalid (error : InvalidValue)
  | zone (error : ZoneError)
  | evaluation (error : EvaluationError)
deriving DecidableEq

def Failure.message : Failure → String
  | unreadable error => "Parse error: " ++ error.message
  | invalid error => error.report
  | zone error => "Time zone error: " ++ error.message
  | evaluation error => "Expansion error: " ++ error.message

/-- A computation on zones as one that may fail for any cause. -/
def orZone (result : Except ZoneError α) : Except Failure α := result.mapError .zone

/-- A check of a value as one that may fail for any cause. -/
def orInvalid (result : Except InvalidValue α) : Except Failure α := result.mapError .invalid

/-- A reading as one that may fail for any cause. -/
def orUnreadable (result : Except ReadError α) : Except Failure α := result.mapError .unreadable

end Recurrence
