import Mathlib
import Recurrence.Zone.Atlas
import Recurrence.Proofs.Zone.Spaced

/-! Readings back to instants. A reading that some instants show goes back to the
first of them. A reading that none shows is skipped by a change of the offset, and
goes back to the instant it would be without that change. -/
namespace Recurrence
open Calendar Zone

/-- Whether a change of the offset skips a reading: the offset before would reach it
at the change or later, the offset after has left it behind. -/
structure Zone.Skips (offsetAt : Int → Offset) (change wall : Int) : Prop where
  before : change + (offsetAt (change - 1)).seconds ≤ wall
  after : wall < change + (offsetAt change).seconds

/-- The instants that show a reading. -/
def Clock.shownAt (clock : Clock) (wall : Int) : Set Int :=
  {instant | Representable instant ∧ clock.toLocal instant = wall}

namespace Zone.Skips

variable {offsetAt : Int → Offset} {change wall : Int} (hskips : Zone.Skips offsetAt change wall)
include hskips

theorem near : wall - 86400 < change ∧ change < wall + 86400 := by
  have := hskips.before
  have := hskips.after
  have := (offsetAt (change - 1)).within_day
  have := (offsetAt change).within_day
  omega

theorem ne : offsetAt (change - 1) ≠ offsetAt change := by
  intro heq
  have hbefore := hskips.before
  have hafter := hskips.after
  rw [heq] at hbefore
  omega

variable (hs : Zone.IsSpaced offsetAt) (hlow : firstSecond + 172800 ≤ wall)
  (hhigh : wall ≤ lastSecond - 172800)
include hs hlow hhigh

theorem offsetAt_dayBefore : offsetAt (wall - 86400) = offsetAt (change - 1) := by
  have hnear := hskips.near
  refine (hs (wall - 86400) (change - 1) change ?_ ?_ (by omega) (by omega)
    (by omega)).resolve_right hskips.ne
  all_goals
    unfold Representable
    omega

theorem offsetAt_moved :
    offsetAt (wall - (offsetAt (change - 1)).seconds) = offsetAt change := by
  have hnear := hskips.near
  have hbefore := hskips.before
  have hafter := hskips.after
  have hday := (offsetAt (change - 1)).within_day
  have hday' := (offsetAt change).within_day
  refine ((hs (change - 1) change _ ?_ ?_ (by omega) (by omega)
    (by omega)).resolve_left hskips.ne).symm
  all_goals
    unfold Representable
    omega

end Zone.Skips

namespace Clock.Shows

variable {clock : Clock} {offsetAt : Int → Offset} (h : clock.Shows offsetAt) {wall : Int}
  (hlow : firstSecond + 172800 ≤ wall) (hhigh : wall ≤ lastSecond - 172800)
include h hlow hhigh

/-- Two days inside the calendar a reading is shown under the offset in effect. -/
theorem mem_shownAt_iff {instant : Int} : instant ∈ clock.shownAt wall ↔
    Representable instant ∧ instant + (offsetAt instant).seconds = wall := by
  have hnear := (offsetAt instant).within_day
  by_cases hr : Representable (instant + (offsetAt instant).seconds)
  · rw [shownAt, Set.mem_ofPred_eq, h.toLocal_eq_add hr]
  · rw [shownAt, Set.mem_ofPred_eq, h.toLocal_eq_self hr]
    unfold Representable at *
    omega

theorem toUtc_inside : ∃ instant, clock.toUtc wall = .ok instant := by
  have hnear := (offsetAt (wall - 86400)).within_day
  apply h.toUtc_ok
  all_goals
    unfold Representable
    omega

/-- A reading that is shown stands for the first instant that shows it. -/
theorem toUtc_isLeast (hfirst : clock.TakesFirst offsetAt) (hshown : (clock.shownAt wall).Nonempty) :
    ∃ first, clock.toUtc wall = .ok first ∧ IsLeast (clock.shownAt wall) first := by
  obtain ⟨first, hto⟩ := h.toUtc_inside hlow hhigh
  have hleast : ∀ instant ∈ clock.shownAt wall,
      first ≤ instant ∧ first + (offsetAt first).seconds = wall := by
    intro instant hmem
    obtain ⟨hr, heq⟩ := (h.mem_shownAt_iff hlow hhigh).1 hmem
    rw [← heq]
    exact hfirst instant first hr (heq.symm ▸ hto)
  obtain ⟨instant, hmem⟩ := hshown
  refine ⟨first, hto, (h.mem_shownAt_iff hlow hhigh).2 ⟨(h.of_toUtc hto).1, ?_⟩, fun other hother => ?_⟩
  · exact (hleast instant hmem).2
  · exact (hleast other hother).1

variable (hnone : clock.shownAt wall = ∅)
include hnone

/-- A reading that is not shown stands for what it is under the offset of a day
before. -/
theorem toUtc_eq_dayBefore :
    clock.toUtc wall = .ok (wall - (offsetAt (wall - 86400)).seconds) := by
  obtain ⟨instant, hto⟩ := h.toUtc_inside hlow hhigh
  obtain ⟨hr, seen, -, heq, hseen⟩ := h.of_toUtc hto
  rcases hseen with rfl | rfl
  · have hmem : seen ∈ clock.shownAt wall := (h.mem_shownAt_iff hlow hhigh).2 ⟨hr, by omega⟩
    rw [hnone] at hmem
    exact hmem.elim
  · rw [hto, heq]

theorem exists_skips : ∃ change, Zone.Skips offsetAt change wall := by
  have hbefore := (offsetAt (wall - 86400)).within_day
  have hafter := (offsetAt (wall + 86400)).within_day
  obtain ⟨change, ⟨hle, hpast⟩, hleast⟩ := Int.exists_least_of_bdd
    (P := fun instant => wall - 86400 ≤ instant ∧ wall < instant + (offsetAt instant).seconds)
    ⟨wall - 86400, fun _ hp => hp.1⟩ ⟨wall + 86400, by omega, by omega⟩
  have hlast := hleast (wall + 86400) ⟨by omega, by omega⟩
  have hlate : wall - 86400 < change := by
    refine lt_of_le_of_ne hle ?_
    rintro rfl
    omega
  have hnotPast : ¬ wall < change - 1 + (offsetAt (change - 1)).seconds := by
    intro hp
    have := hleast (change - 1) ⟨by omega, hp⟩
    omega
  have hunshown : change - 1 + (offsetAt (change - 1)).seconds ≠ wall := by
    intro heq
    have hmem : change - 1 ∈ clock.shownAt wall := by
      refine (h.mem_shownAt_iff hlow hhigh).2 ⟨?_, heq⟩
      unfold Representable
      omega
    rw [hnone] at hmem
    exact hmem
  exact ⟨change, by omega, hpast⟩

/-- A skipped reading goes back under the offset before the change, and is shown
moved past the gap. -/
theorem toUtc_of_skips (hs : Zone.IsSpaced offsetAt) {change : Int}
    (hskips : Zone.Skips offsetAt change wall) :
    clock.toUtc wall = .ok (wall - (offsetAt (change - 1)).seconds) ∧
      clock.toLocal (wall - (offsetAt (change - 1)).seconds) =
        wall + ((offsetAt change).seconds - (offsetAt (change - 1)).seconds) := by
  have hmoved := hskips.offsetAt_moved hs hlow hhigh
  have hday := (offsetAt (change - 1)).within_day
  have hday' := (offsetAt change).within_day
  constructor
  · rw [h.toUtc_eq_dayBefore hlow hhigh hnone, hskips.offsetAt_dayBefore hs hlow hhigh]
  · rw [h.toLocal_eq_add, hmoved]
    · ring
    · rw [hmoved]
      unfold Representable
      omega

end Clock.Shows

namespace Zone.VTimezone

/-- A zone that changes its offset once. -/
def changingOnce (wall : Int) (before after : Offset) : VTimezone where
  tzid := "Once"
  observances := [⟨.standard, wall, before, after, none, [], none⟩]

theorem offsetAt_changingOnce (clocks : Clocks) {wall onset : Int} {before after : Offset}
    (honset : move? wall (-before.seconds) = some onset) :
    (changingOnce wall before after).offsetAt clocks =
      fun instant => if onset ≤ instant then after else before := by
  funext instant
  exact @offsetAt_of_once clocks (changingOnce wall before after) _ onset rfl honset rfl rfl instant

/-- Two days inside the calendar a described zone takes a reading back to the first
instant that shows it, and a skipped one to where it is shown moved past the gap. -/
theorem toUtc_inverts (clocks : Clocks) (zone : VTimezone) {wall : Int}
    (hlow : firstSecond + 172800 ≤ wall) (hhigh : wall ≤ lastSecond - 172800) :
    ((∃ instant, Representable instant ∧ zone.toLocal clocks instant = wall) →
      ∃ first, zone.toUtc clocks wall = .ok first ∧
        IsLeast {instant | Representable instant ∧ zone.toLocal clocks instant = wall} first) ∧
    ((¬ ∃ instant, Representable instant ∧ zone.toLocal clocks instant = wall) →
      Zone.IsSpaced (zone.offsetAt clocks) →
      (∃ change, Zone.Skips (zone.offsetAt clocks) change wall) ∧
      ∀ change, Zone.Skips (zone.offsetAt clocks) change wall →
        zone.toUtc clocks wall = .ok (wall - (zone.offsetAt clocks (change - 1)).seconds) ∧
        zone.toLocal clocks (wall - (zone.offsetAt clocks (change - 1)).seconds) =
          wall + ((zone.offsetAt clocks change).seconds -
            (zone.offsetAt clocks (change - 1)).seconds)) := by
  have hshows := (TimeZone.described zone).clock_shows clocks
  have hfirst := (TimeZone.described zone).clock_takesFirst clocks
  constructor
  · intro hshown
    exact hshows.toUtc_isLeast hlow hhigh hfirst hshown
  · intro hunshown hs
    have hnone : ((TimeZone.described zone).clock clocks).shownAt wall = ∅ :=
      Set.not_nonempty_iff_eq_empty.1 hunshown
    exact ⟨hshows.exists_skips hlow hhigh hnone,
      fun change hskips => hshows.toUtc_of_skips hlow hhigh hnone hs hskips⟩

/-- The hour from 02:00 is repeated. -/
def repeatingHour : VTimezone := changingOnce 10800 .hourAhead .utc

/-- The hour from 02:00 is skipped. -/
def skippingHour : VTimezone := changingOnce 7200 .utc .hourAhead

theorem offsetAt_repeatingHour (clocks : Clocks) : repeatingHour.offsetAt clocks =
    fun instant => if 7200 ≤ instant then .utc else .hourAhead :=
  offsetAt_changingOnce clocks (by decide)

theorem offsetAt_skippingHour (clocks : Clocks) : skippingHour.offsetAt clocks =
    fun instant => if 7200 ≤ instant then .hourAhead else .utc :=
  offsetAt_changingOnce clocks (by decide)

theorem isSpaced_repeatingHour (clocks : Clocks) : Zone.IsSpaced (repeatingHour.offsetAt clocks) := by
  rw [offsetAt_repeatingHour]
  exact isSpaced_of_once _ _ _

theorem isSpaced_skippingHour (clocks : Clocks) : Zone.IsSpaced (skippingHour.offsetAt clocks) := by
  rw [offsetAt_skippingHour]
  exact isSpaced_of_once _ _ _

/-- The reading 02:30 where its hour is repeated and where it is skipped. -/
theorem toUtc_inverts_halfPastTwo :
    (∃ first, repeatingHour.toUtc Atlas.database.clocks 9000 = .ok first ∧ first = 5400 ∧
      IsLeast {instant | Representable instant ∧
        repeatingHour.toLocal Atlas.database.clocks instant = 9000} first) ∧
    skippingHour.toUtc Atlas.database.clocks 9000 = .ok 9000 ∧
    skippingHour.toLocal Atlas.database.clocks 9000 = 12600 := by
  have hlow : firstSecond + 172800 ≤ 9000 := by decide
  have hhigh : 9000 ≤ lastSecond - 172800 := by decide
  constructor
  · obtain ⟨first, hto, hleast⟩ := (toUtc_inverts Atlas.database.clocks repeatingHour hlow hhigh).1
      ⟨5400, by decide, by rw [toLocal, offsetAt_repeatingHour]; decide⟩
    refine ⟨first, hto, ?_, hleast⟩
    rw [toUtc, offsetAt_repeatingHour] at hto
    exact Except.ok.inj (hto.symm.trans rfl)
  · have hat := offsetAt_skippingHour Atlas.database.clocks
    have hs : Zone.IsSpaced (skippingHour.offsetAt Atlas.database.clocks) := by
      rw [hat]
      exact isSpaced_of_once _ _ _
    have hskips : Zone.Skips (skippingHour.offsetAt Atlas.database.clocks) 7200 9000 := by
      rw [hat]
      exact ⟨by decide, by decide⟩
    have hunshown : ¬ ∃ instant, Representable instant ∧
        skippingHour.toLocal Atlas.database.clocks instant = 9000 := by
      rintro ⟨instant, hmem⟩
      obtain ⟨-, heq⟩ := ((shows Atlas.database.clocks _).mem_shownAt_iff hlow hhigh).1 hmem
      rw [hat] at heq
      dsimp only [Offset.utc, Offset.hourAhead] at heq
      split at heq <;> dsimp only at heq <;> omega
    have hall := ((toUtc_inverts Atlas.database.clocks skippingHour hlow hhigh).2 hunshown hs).2
      7200 hskips
    rw [hat] at hall
    exact hall

end Zone.VTimezone
end Recurrence
