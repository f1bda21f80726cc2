import Recurrence.Zone.SystemZone
import Recurrence.Zone.Tables.America
import Recurrence.Zone.Tables.Asia
import Recurrence.Zone.Tables.Europe
import Recurrence.Zone.Tables.Oceania
/-!
The database of zones that is built in, with the names of the time zone database and those of
Windows.
-/
namespace Recurrence.Zone.Atlas

/-- Zones by their exact names, of which several can share a table. -/
def zones : List (String × OffsetTable) :=
  [("America/Chicago", Tables.chicago),
   ("America/Denver", Tables.denver),
   ("America/Los_Angeles", Tables.losAngeles),
   ("America/New_York", Tables.newYork),
   ("America/Panama", Tables.panama),
   ("America/Sao_Paulo", Tables.saoPaulo),
   ("Asia/Calcutta", Tables.kolkata),
   ("Asia/Jerusalem", Tables.jerusalem),
   ("Asia/Kolkata", Tables.kolkata),
   ("Asia/Shanghai", Tables.shanghai),
   ("Asia/Tokyo", Tables.tokyo),
   ("Australia/Lord_Howe", Tables.lordHowe),
   ("Australia/Sydney", Tables.sydney),
   ("EST", Tables.panama),
   ("EST5EDT", Tables.newYork),
   ("Etc/GMT", .constant 0),
   ("Etc/GMT+5", .constant (-18000)),
   ("Etc/UTC", .constant 0),
   ("Europe/Berlin", Tables.berlin),
   ("Europe/Kiev", Tables.kyiv),
   ("Europe/Kyiv", Tables.kyiv),
   ("Europe/London", Tables.london),
   ("Europe/Paris", Tables.paris),
   ("GMT", .constant 0),
   ("GMT0", .constant 0),
   ("Greenwich", .constant 0),
   ("Israel", Tables.jerusalem),
   ("Pacific/Apia", Tables.apia),
   ("UCT", .constant 0),
   ("US/Eastern", Tables.newYork),
   ("UTC", .constant 0),
   ("Zulu", .constant 0)]

/-- The usual names of zones that Windows names. -/
def windowsNames : List (String × String) :=
  [("AUS Eastern Standard Time", "Australia/Sydney"),
   ("Central Standard Time", "America/Chicago"),
   ("China Standard Time", "Asia/Shanghai"),
   ("E. South America Standard Time", "America/Sao_Paulo"),
   ("Eastern Standard Time", "America/New_York"),
   ("GMT Standard Time", "Europe/London"),
   ("India Standard Time", "Asia/Kolkata"),
   ("Israel Standard Time", "Asia/Jerusalem"),
   ("Mountain Standard Time", "America/Denver"),
   ("Pacific Standard Time", "America/Los_Angeles"),
   ("Romance Standard Time", "Europe/Paris"),
   ("Samoa Standard Time", "Pacific/Apia"),
   ("Tokyo Standard Time", "Asia/Tokyo"),
   ("W. Europe Standard Time", "Europe/Berlin")]

/-- The usual names of zones that have older ones as well. -/
def olderNames : List (String × String) :=
  [("Asia/Calcutta", "Asia/Kolkata"),
   ("Europe/Kiev", "Europe/Kyiv"),
   ("GMT", "Etc/GMT"),
   ("GMT0", "Etc/GMT"),
   ("Greenwich", "Etc/GMT"),
   ("Israel", "Asia/Jerusalem"),
   ("UCT", "Etc/UTC"),
   ("US/Eastern", "America/New_York"),
   ("UTC", "Etc/UTC"),
   ("Zulu", "Etc/UTC")]

/-- The names that are usual themselves. -/
def usualNames : List String :=
  ["America/Chicago", "America/Denver", "America/Los_Angeles", "America/New_York",
   "America/Panama", "America/Sao_Paulo", "Asia/Jerusalem", "Asia/Kolkata", "Asia/Shanghai",
   "Asia/Tokyo", "Australia/Lord_Howe", "Australia/Sydney", "Etc/GMT", "Etc/GMT+5", "Etc/UTC",
   "Europe/Berlin", "Europe/Kyiv", "Europe/London", "Europe/Paris", "Pacific/Apia"]

/-- The usual name of a name spelled in any case. -/
def canonical? (name : String) : Option String :=
  let spelled := Text.upper name.toList
  ((usualNames.map fun usual => (usual, usual)) ++ olderNames).findSome? fun (known, usual) =>
    if Text.upper known.toList = spelled then some usual else none

def database : Database where
  zone? name := (zones.lookup name).map fun table => ⟨name, table⟩
  foreign? name := windowsNames.lookup name
  canonical? := canonical?

end Recurrence.Zone.Atlas
