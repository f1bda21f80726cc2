import Recurrence.Text.Blank
import Recurrence.Text.Fields
import Recurrence.Zone.OffsetTable
/-!
Zones that need no description: fixed offsets, whose identifiers spell the offset out, and zones
of a database, which are found by name. A database also knows the names that other calendars give
to its zones, and spellings of names in any case.
-/
namespace Recurrence.Zone

/-- A zone of a database. -/
structure NamedZone where
  name : String
  table : OffsetTable

inductive SystemZone where
  | fixed (name : String) (offset : Offset)
  | named (zone : NamedZone)

namespace SystemZone

def name : SystemZone → String
  | fixed name _ => name
  | named zone => zone.name

/-- The offset in effect at an instant. -/
def offsetAt : SystemZone → Int → Offset
  | fixed _ offset => fun _ => offset
  | named zone => zone.table.offsetAt

/-- The instant of a reading. -/
def toUtc : SystemZone → Int → Except ZoneError Int
  | fixed _ offset => utcUnder offset
  | named zone => utcOf zone.table.offsetAt zone.table.offsets

/-- The reading of an instant. -/
def toLocal (zone : SystemZone) : Int → Int := localOf zone.offsetAt

def clock (zone : SystemZone) : Clock := ⟨zone.toUtc, zone.toLocal⟩

/-- The transitions from `start` up to `stop`. -/
def transitions (zone : SystemZone) (start stop : Int) : List Transition :=
  match zone with
  | fixed _ _ => []
  | named zone => changes zone.table.offsetAt start stop

/-- The sign, negative for a minus, and the rest of what follows UTC in an identifier. -/
def offsetPart? (name : List Char) : Option (Bool × List Char) :=
  match name with
  | u :: t :: c :: sign :: rest =>
    if Text.upper [u, t, c] = ['U', 'T', 'C'] then
      if sign = '+' then some (false, rest) else if sign = '-' then some (true, rest) else none
    else none
  | _ => none

/-- The hours and the minutes of H, HH, HHMM, H:M or HH:MM. -/
def cutHours (cs : List Char) : List Char × List Char :=
  match Text.cut? ':' cs with
  | some parts => parts
  | none =>
    match cs with
    | [h1, h2, m1, m2] => ([h1, h2], [m1, m2])
    | _ => (cs, ['0'])

/-- The offset of hours and minutes of at most two digits each, the hours below 24. -/
def readOffset? (negative : Bool) (cs : List Char) : Option Offset :=
  let (hours, minutes) := cutHours cs
  if 2 < hours.length || 2 < minutes.length then none
  else do
    let hours ← Text.readNat? hours
    let minutes ← Text.readNat? minutes
    if 23 < hours then none else Offset.ofHoursMinutes? negative hours minutes

/-- The zone of an identifier that spells its offset out, if it is of that kind. -/
def ofOffsetName? (tzid : String) : Option (Except ZoneError SystemZone) :=
  let name := Text.trim tzid.toList
  if Text.upper name = ['U', 'T', 'C'] then some (.ok (fixed "UTC" .utc))
  else
    (offsetPart? name).map fun (negative, rest) =>
      match readOffset? negative rest with
      | some offset => .ok (fixed (String.ofList name) offset)
      | none => .error (.invalidOffset tzid)

end SystemZone

/-- A collection of zones by name. -/
structure Database where
  /-- The zone of an exact name. -/
  zone? : String → Option NamedZone
  /-- The usual name of a zone that another calendar system names. -/
  foreign? : String → Option String
  /-- The usual name of a name spelled in any case. -/
  canonical? : String → Option String

namespace Database

/-- The beginnings that some programs put before the name of a zone. -/
def vendorPrefaces : List String := ["/mozilla.org/", "/softwarestudio.org/"]

/-- A name without a vendor's beginning. -/
def withoutVendor (name : String) : String :=
  match vendorPrefaces.findSome? fun preface => Text.after? preface.toList name.toList with
  | some rest => String.ofList rest
  | none => name

/-- The name under which a zone may be found, for a name under which it is not. -/
def normalize (database : Database) (name : String) : String :=
  let bare := withoutVendor name
  match database.foreign? bare with
  | some known => known
  | none => (database.canonical? bare).getD bare

/-- The zone of a name, as it stands or normalized. -/
def find? (database : Database) (name : String) : Option NamedZone :=
  database.zone? name <|> database.zone? (database.normalize name)

/-- The zone of an identifier, where no zones are described. -/
def resolve (database : Database) (tzid : String) : Except ZoneError SystemZone :=
  match SystemZone.ofOffsetName? tzid with
  | some result => result
  | none =>
    match database.find? (Text.trimmed tzid) with
    | some zone => .ok (.named zone)
    | none => .error (.unknownZone tzid)

/-- The clocks of a database. -/
def clocks (database : Database) : Clocks := fun tzid =>
  (database.resolve tzid).map SystemZone.clock

end Database
end Recurrence.Zone
