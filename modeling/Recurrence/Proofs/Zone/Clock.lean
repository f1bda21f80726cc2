import Mathlib
import Recurrence.Zone.Resolver

/-! What the clocks of a resolver have in common. An offset is shorter than a
day, so a reading and its instant are less than a day apart. -/
namespace Recurrence
open Calendar Zone

/-- Whether readings and their instants are less than a day apart. -/
def Clock.IsNear (clock : Clock) : Prop :=
  ∀ wall instant, clock.toUtc wall = .ok instant → wall - 86400 < instant ∧ instant < wall + 86400

theorem Offset.hour_within_day : -86400 < (3600 : Int) ∧ (3600 : Int) < 86400 := by decide

/-- An hour ahead of UTC. -/
def Offset.hourAhead : Offset := ⟨3600, hour_within_day⟩

namespace Zone

theorem utcUnder_eq_ok_iff {offset : Offset} {wall instant : Int} :
    utcUnder offset wall = .ok instant ↔
      instant = wall - offset.seconds ∧ Representable instant := by
  unfold utcUnder
  cases hm : move? wall (-offset.seconds) with
  | none =>
    simp only [reduceCtorEq, false_iff, not_and]
    rintro rfl hr
    have := move?_eq_some_iff.2 ⟨Int.sub_eq_add_neg, hr⟩
    simp [hm] at this
  | some target =>
    obtain ⟨rfl, hr⟩ := move?_eq_some_iff.1 hm
    simp only [Except.ok.injEq, Int.sub_eq_add_neg]
    constructor
    · rintro rfl
      exact ⟨rfl, hr⟩
    · rintro ⟨rfl, -⟩
      rfl

theorem utcOf_eq_ok {offsetAt : Int → Offset} {offsets : List Offset} {wall instant : Int}
    (h : utcOf offsetAt offsets wall = .ok instant) :
    ∃ offset : Offset, instant = wall - offset.seconds ∧ Representable instant := by
  unfold utcOf at h
  split at h
  · next found hf =>
    obtain rfl := Except.ok.inj h
    have hmem := List.min?_mem hf
    obtain ⟨offset, -, ho⟩ := List.mem_filterMap.1 hmem
    obtain ⟨hm, -⟩ := Option.filter_eq_some_iff.1 ho
    obtain ⟨rfl, hr⟩ := move?_eq_some_iff.1 hm
    exact ⟨offset, by omega, hr⟩
  · split at h
    · exact ⟨_, utcUnder_eq_ok_iff.1 h⟩
    · simp at h

theorem near_of_offset {wall instant : Int}
    (h : ∃ offset : Offset, instant = wall - offset.seconds ∧ Representable instant) :
    wall - 86400 < instant ∧ instant < wall + 86400 := by
  obtain ⟨offset, rfl, -⟩ := h
  have := offset.within_day
  omega

end Zone

theorem TimeZone.clock_isNear (clocks : Clocks) (zone : TimeZone) : (zone.clock clocks).IsNear := by
  intro wall instant h
  apply near_of_offset
  cases zone with
  | system zone =>
    cases zone with
    | fixed name offset => exact ⟨offset, utcUnder_eq_ok_iff.1 h⟩
    | named zone => exact utcOf_eq_ok h
  | described zone => exact utcOf_eq_ok h

theorem Resolver.clocks_eq_ok_iff {resolver : Resolver} {tzid : String} {clock : Clock} :
    resolver.clocks tzid = .ok clock ↔
      ∃ zone, resolver.lookup tzid = .ok zone ∧ zone.clock resolver.database.clocks = clock := by
  unfold clocks
  cases resolver.lookup tzid <;> simp [Except.map]

theorem Resolver.clocks_isNear {resolver : Resolver} {tzid : String} {clock : Clock}
    (h : resolver.clocks tzid = .ok clock) : clock.IsNear := by
  unfold clocks at h
  cases hz : resolver.lookup tzid with
  | error error => simp [hz, Except.map] at h
  | ok zone =>
    simp only [hz, Except.map, Except.ok.injEq] at h
    exact h ▸ zone.clock_isNear _

end Recurrence
