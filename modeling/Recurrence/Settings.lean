import Recurrence.Text.Decimal
import Recurrence.Text.Blank
/-!
Settings of a program that expands recurrences: how long to look for a next instance, and what to
log. They are read from environment variables over defaults, and then checked.
-/
namespace Recurrence

/-- The steps without a candidate that are tolerated unless set otherwise. -/
def defaultMaxEmptySteps : UInt32 := 1000

structure Settings where
  maxEmptySteps : UInt32
  logLevel : String
deriving DecidableEq, Inhabited

namespace Settings

/-- Why settings cannot be used. -/
inductive Error where
  | noEmptySteps
  | blankLogLevel
  /-- A variable holds no value of its kind. -/
  | unreadable (name : String)
deriving DecidableEq

def Error.message : Error → String
  | noEmptySteps => "Configuration error: expansion.max_empty_steps must be at least 1"
  | blankLogLevel => "Validation error: logging.level must not be blank"
  | unreadable name => "Configuration error: " ++ name ++ " cannot be read"

def defaults : Settings := ⟨defaultMaxEmptySteps, "info"⟩

/-- Refuses settings that allow no step, and a log level that is blank. -/
def validate (settings : Settings) : Except Error Unit :=
  if settings.maxEmptySteps = 0 then .error .noEmptySteps
  else if (Text.trim settings.logLevel.toList).isEmpty then .error .blankLogLevel
  else .ok ()

def stepsVariable : String := "SUNDIAL_EXPANSION__MAX_EMPTY_STEPS"
def levelVariable : String := "SUNDIAL_LOGGING__LEVEL"

/-- The value of a variable, unless it is empty. -/
def valueOf? (environment : List (String × String)) (name : String) : Option String :=
  (environment.lookup name).filter (· ≠ "")

/-- The settings of an environment, checked. -/
def load (environment : List (String × String)) : Except Error Settings := do
  let maxEmptySteps ← match valueOf? environment stepsVariable with
    | none => pure defaults.maxEmptySteps
    | some value =>
      match Text.readSigned? 0 4294967295 value.toList with
      | some steps => pure (UInt32.ofNat steps.toNat)
      | none => throw (.unreadable stepsVariable)
  let logLevel := (valueOf? environment levelVariable).getD defaults.logLevel
  let settings : Settings := ⟨maxEmptySteps, logLevel⟩
  settings.validate
  return settings

end Settings
end Recurrence
