import Recurrence.Zone.Observance
import Recurrence.Zone.SystemZone
/-!
Zones by identifier. A resolver knows a database and the described zones that were registered
with it, which come before the database. It remembers what it found in the database; `lookup` is
what it answers, and `resolve` also gives the resolver that has remembered it.
-/
namespace Recurrence
open Zone

/-- A time zone. -/
inductive TimeZone where
  | system (zone : SystemZone)
  | described (zone : VTimezone)

namespace TimeZone

def name : TimeZone → String
  | system zone => zone.name
  | described zone => zone.tzid

/-- The offset in effect at an instant. The clocks are those of zones that rules of a described
zone name. -/
def offsetAt (clocks : Clocks) : TimeZone → Int → Offset
  | system zone => zone.offsetAt
  | described zone => zone.offsetAt clocks

/-- The instant of a reading. -/
def toUtc (clocks : Clocks) : TimeZone → Int → Except ZoneError Int
  | system zone => zone.toUtc
  | described zone => zone.toUtc clocks

/-- The reading of an instant. -/
def toLocal (clocks : Clocks) : TimeZone → Int → Int
  | system zone => zone.toLocal
  | described zone => zone.toLocal clocks

def clock (clocks : Clocks) (zone : TimeZone) : Clock := ⟨zone.toUtc clocks, zone.toLocal clocks⟩

/-- The transitions from `start` up to `stop`. -/
def transitions (clocks : Clocks) (zone : TimeZone) (start stop : Int) : List Transition :=
  match zone with
  | system zone => zone.transitions start stop
  | described zone => zone.transitions clocks start stop

/-- The greatest offset in effect from `start` up to `stop`. -/
def maxOffset (clocks : Clocks) (zone : TimeZone) (start stop : Int) : Offset :=
  ((zone.transitions clocks start stop).map Transition.after).foldl Offset.max
    (zone.offsetAt clocks start)

end TimeZone

structure Resolver where
  database : Database
  /-- The registered zones, the latest first. -/
  registered : List VTimezone
  /-- The zones found in the database before, by identifier. -/
  remembered : List (String × NamedZone)

namespace Resolver

def empty (database : Database) : Resolver := ⟨database, [], []⟩

/-- The resolver that knows one more described zone, in place of one with the same identifier. -/
def register (resolver : Resolver) (zone : VTimezone) : Resolver :=
  { resolver with registered := zone :: resolver.registered }

/-- The registered zone of an identifier. -/
def registered? (resolver : Resolver) (tzid : String) : Option VTimezone :=
  resolver.registered.find? (·.tzid = tzid)

/-- The zone of an identifier, and the resolver that remembers it. -/
def resolve (resolver : Resolver) (tzid : String) : Except ZoneError TimeZone × Resolver :=
  match SystemZone.ofOffsetName? tzid with
  | some result => (result.map .system, resolver)
  | none =>
    let name := Text.trimmed tzid
    match resolver.registered? name with
    | some zone => (.ok (.described zone), resolver)
    | none =>
      match resolver.remembered.lookup name with
      | some zone => (.ok (.system (.named zone)), resolver)
      | none =>
        match resolver.database.find? name with
        | some zone =>
          (.ok (.system (.named zone)),
            { resolver with remembered := (name, zone) :: resolver.remembered })
        | none => (.error (.unknownZone tzid), resolver)

/-- The zone of an identifier. -/
def lookup (resolver : Resolver) (tzid : String) : Except ZoneError TimeZone :=
  (resolver.resolve tzid).1

/-- The clocks of the zones that a resolver knows. -/
def clocks (resolver : Resolver) : Clocks := fun tzid =>
  (resolver.lookup tzid).map fun zone => zone.clock resolver.database.clocks

end Resolver
end Recurrence
