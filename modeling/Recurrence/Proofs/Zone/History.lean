import Mathlib
import Recurrence.Proofs.Zone.Clock
import Recurrence.Zone.Atlas

/-! What a resolver remembers never shows in its answers. They depend on the zones
registered before, the latest of each identifier first, and on the database, but not on
what was asked in between. -/
namespace Recurrence

namespace Zone.SystemZone

/-- Whether an identifier has the shape of an offset: UTC, or UTC and a sign in front, in either
case. What follows the sign need not be an offset. -/
def HasOffsetShape (tzid : String) : Prop :=
  Text.upper tzid.toList = ['U', 'T', 'C'] ∨
    Text.upper (tzid.toList.take 3) = ['U', 'T', 'C'] ∧
      ∃ sign rest, tzid.toList.drop 3 = sign :: rest ∧ (sign = '+' ∨ sign = '-')

theorem offsetPart?_eq_none_iff {name : List Char} : offsetPart? name = none ↔
    ¬ (Text.upper (name.take 3) = ['U', 'T', 'C'] ∧
      ∃ sign rest, name.drop 3 = sign :: rest ∧ (sign = '+' ∨ sign = '-')) := by
  match name with
  | [] | [_] | [_, _] | [_, _, _] => simp [offsetPart?]
  | u :: t :: c :: sign :: rest =>
    by_cases hutc : Text.upper [u, t, c] = ['U', 'T', 'C']
    · by_cases hplus : sign = '+'
      · simp [offsetPart?, hutc, hplus]
      · by_cases hminus : sign = '-'
        · simp [offsetPart?, hutc, hminus]
        · simp [offsetPart?, hutc, hplus, hminus]
    · simp [offsetPart?, hutc]

theorem ofOffsetName?_eq_none_iff {tzid : String} (htrim : Text.trimmed tzid = tzid) :
    ofOffsetName? tzid = none ↔ ¬ HasOffsetShape tzid := by
  have hchars : Text.trim tzid.toList = tzid.toList := by
    rw [← String.toList_ofList (l := Text.trim tzid.toList)]
    exact congrArg String.toList htrim
  unfold ofOffsetName? HasOffsetShape
  rw [hchars, not_or, ← offsetPart?_eq_none_iff]
  by_cases hutc : Text.upper tzid.toList = ['U', 'T', 'C']
  · simp [hutc]
  · simp [hutc]

end Zone.SystemZone

namespace Resolver
open Zone

/-- What a resolver is called for. -/
inductive Call where
  | register (zone : VTimezone)
  | resolve (tzid : String)

/-- The resolver behind a call. -/
def call (resolver : Resolver) : Call → Resolver
  | .register zone => resolver.register zone
  | .resolve tzid => (resolver.resolve tzid).2

/-- The resolver behind calls, one after the other. -/
def run (resolver : Resolver) (calls : List Call) : Resolver := calls.foldl call resolver

/-- The zones that calls register, in order. -/
def registrations (calls : List Call) : List VTimezone :=
  calls.filterMap fun
    | .register zone => some zone
    | .resolve _ => none

/-- A resolver that has been called for nothing but to register some zones. -/
def knowingAll (database : Database) (zones : List VTimezone) : Resolver :=
  zones.foldl register (empty database)

theorem foldl_register (zones : List VTimezone) (resolver : Resolver) :
    zones.foldl register resolver =
      { resolver with registered := zones.reverse ++ resolver.registered } := by
  induction zones generalizing resolver with
  | nil => rfl
  | cons zone zones ih => simp [ih, register]

theorem lookup_eq (resolver : Resolver) (tzid : String) : resolver.lookup tzid =
    match SystemZone.ofOffsetName? tzid with
    | some result => result.map .system
    | none =>
      match resolver.registered? (Text.trimmed tzid) with
      | some zone => .ok (.described zone)
      | none =>
        match resolver.remembered.lookup (Text.trimmed tzid) <|>
            resolver.database.find? (Text.trimmed tzid) with
        | some zone => .ok (.system (.named zone))
        | none => .error (.unknownZone tzid) := by
  unfold lookup resolve
  cases SystemZone.ofOffsetName? tzid with
  | some result => rfl
  | none =>
    dsimp only
    cases resolver.registered? (Text.trimmed tzid) with
    | some zone => rfl
    | none =>
      dsimp only
      cases resolver.remembered.lookup (Text.trimmed tzid) with
      | some zone => rfl
      | none => cases hfind : resolver.database.find? (Text.trimmed tzid) <;> rfl

theorem resolve_snd (resolver : Resolver) (tzid : String) :
    (resolver.resolve tzid).2 = resolver ∨ ∃ name zone, resolver.database.find? name = some zone ∧
      (resolver.resolve tzid).2 =
        { resolver with remembered := (name, zone) :: resolver.remembered } := by
  unfold resolve
  split
  · exact .inl rfl
  · dsimp only
    split
    · exact .inl rfl
    · split
      · exact .inl rfl
      · split
        · next zone hfind => exact .inr ⟨_, zone, hfind, rfl⟩
        · exact .inl rfl

/-- Whether all that a resolver remembers is what its database answers. -/
def Faithful (resolver : Resolver) : Prop :=
  ∀ name zone, resolver.remembered.lookup name = some zone →
    resolver.database.find? name = some zone

theorem Faithful.lookup_eq {resolver : Resolver} (h : resolver.Faithful) (tzid : String) :
    resolver.lookup tzid = { resolver with remembered := [] }.lookup tzid := by
  have hsame : (resolver.remembered.lookup (Text.trimmed tzid) <|>
      resolver.database.find? (Text.trimmed tzid)) =
        resolver.database.find? (Text.trimmed tzid) := by
    cases hlookup : resolver.remembered.lookup (Text.trimmed tzid) with
    | some zone => exact (h _ zone hlookup).symm
    | none => rfl
  rw [Resolver.lookup_eq, Resolver.lookup_eq, hsame]
  rfl

/-- A call adds the zone that it registers, and leaves a resolver faithful. -/
theorem Faithful.call {resolver : Resolver} (h : resolver.Faithful) (one : Call) :
    (resolver.call one).Faithful ∧ ∃ remembered, resolver.call one =
      ⟨resolver.database, (registrations [one]).reverse ++ resolver.registered, remembered⟩ := by
  cases one with
  | register zone => exact ⟨h, resolver.remembered, rfl⟩
  | resolve tzid =>
    rcases resolver.resolve_snd tzid with hsame | ⟨name, zone, hfind, hmore⟩
    · refine ⟨?_, resolver.remembered, hsame⟩
      change (resolver.resolve tzid).2.Faithful
      rwa [hsame]
    · refine ⟨?_, _, hmore⟩
      change (resolver.resolve tzid).2.Faithful
      rw [hmore]
      intro other found hlookup
      -- What is remembered anew is what the database has just answered.
      rw [List.lookup_cons] at hlookup
      split at hlookup
      · next heq =>
        obtain rfl := eq_of_beq heq
        cases hlookup
        exact hfind
      · exact h other found hlookup

theorem Faithful.run {resolver : Resolver} (h : resolver.Faithful) (calls : List Call) :
    (resolver.run calls).Faithful ∧ ∃ remembered, resolver.run calls =
      ⟨resolver.database, (registrations calls).reverse ++ resolver.registered, remembered⟩ := by
  induction calls generalizing resolver with
  | nil => exact ⟨h, resolver.remembered, rfl⟩
  | cons one calls ih =>
    obtain ⟨hone, _, heq⟩ := h.call one
    obtain ⟨hcalls, remembered, hrun⟩ := ih hone
    refine ⟨hcalls, remembered, hrun.trans ?_⟩
    have hsplit : registrations (one :: calls) = registrations [one] ++ registrations calls :=
      List.filterMap_append (l := [one])
    rw [heq, hsplit, List.reverse_append, List.append_assoc]

theorem faithful_empty (database : Database) : (empty database).Faithful :=
  fun _ _ hlookup => nomatch hlookup

/-- Whatever a resolver was called for, it answers as one that only the registrations
among the calls were made with. Of the zones registered under an identifier that does not
have the shape of an offset it gives the latest, whatever the database knows by that name and
even where it has given that before. -/
theorem resolve_run (database : Database) (calls : List Call) (tzid : String) :
    (((empty database).run calls).resolve tzid).1 =
      ((knowingAll database (registrations calls)).resolve tzid).1 ∧
    (Text.trimmed tzid = tzid → ¬ SystemZone.HasOffsetShape tzid →
      ∀ earlier zone later, registrations calls = earlier ++ zone :: later → zone.tzid = tzid →
        (∀ other ∈ later, other.tzid ≠ tzid) →
          (((empty database).run calls).resolve tzid).1 = .ok (.described zone)) := by
  obtain ⟨hfaithful, remembered, hrun⟩ := (faithful_empty database).run calls
  have hfresh : knowingAll database (registrations calls) =
      ⟨database, (registrations calls).reverse ++ [], []⟩ := foldl_register _ _
  have hknown : ((empty database).run calls).lookup tzid =
      (knowingAll database (registrations calls)).lookup tzid := by
    rw [hfaithful.lookup_eq, hrun, hfresh]
    rfl
  refine ⟨hknown, fun htrim hname earlier zone later hsplit htzid hlatest => ?_⟩
  have hfound : (knowingAll database (registrations calls)).registered? tzid = some zone := by
    rw [hfresh, registered?, hsplit, List.find?_eq_some_iff_append]
    refine ⟨by simpa using htzid, later.reverse, earlier.reverse, by simp, fun other ho => ?_⟩
    simpa using hlatest other (List.mem_reverse.1 ho)
  change ((empty database).run calls).lookup tzid = _
  rw [hknown, lookup_eq, (SystemZone.ofOffsetName?_eq_none_iff htrim).2 hname, htrim, hfound]

/-- A zone under a name of the database, but with one offset. -/
def constantParis (offset : Offset) : VTimezone :=
  ⟨"Europe/Paris", [⟨.standard, 0, offset, offset, none, [], none⟩]⟩

/-- A name is asked for, then described twice and asked for in between. -/
def parisTwice : List Call :=
  [.resolve "Europe/Paris", .register (constantParis .utc), .resolve " Europe/Paris",
   .register (constantParis .hourAhead), .register ⟨"Elsewhere", []⟩]

theorem resolve_run_parisTwice :
    Text.trimmed "Europe/Paris" = "Europe/Paris" ∧ ¬ SystemZone.HasOffsetShape "Europe/Paris" ∧
    (((empty Atlas.database).run parisTwice).resolve "Europe/Paris").1 =
      .ok (.described (constantParis .hourAhead)) := by
  have htrim : Text.trimmed "Europe/Paris" = "Europe/Paris" := by decide
  have hname : ¬ SystemZone.HasOffsetShape "Europe/Paris" := by
    rw [← SystemZone.ofOffsetName?_eq_none_iff htrim]
    rfl
  refine ⟨htrim, hname, ?_⟩
  exact (resolve_run Atlas.database parisTwice "Europe/Paris").2 htrim hname
    [constantParis .utc] _ [⟨"Elsewhere", []⟩] rfl rfl (by decide)

end Resolver
end Recurrence
