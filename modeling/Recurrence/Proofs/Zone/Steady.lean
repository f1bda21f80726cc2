import Mathlib
import Recurrence.Proofs.Zone.Clock

/-! Clocks by the offset in effect. A reading is taken under the offset that it
shows or, where it is skipped, under that of a day before; what this comes to
depends on how far offsets differ. -/
namespace Recurrence
open Calendar Zone

/-- Whether a clock shows UTC under an offset that changes in time. -/
structure Clock.Shows (clock : Clock) (offsetAt : Int → Offset) : Prop where
  toLocal_eq : clock.toLocal = localOf offsetAt
  of_toUtc : ∀ {wall instant}, clock.toUtc wall = .ok instant → Representable instant ∧
    ∃ seen, Representable seen ∧ instant = wall - (offsetAt seen).seconds ∧
      (seen = instant ∨ seen = wall - 86400)
  toUtc_ok : ∀ {wall}, Representable (wall - 86400) →
    Representable (wall - (offsetAt (wall - 86400)).seconds) → ∃ instant, clock.toUtc wall = .ok instant
  toUtc_le : ∀ {wall instant later}, clock.toUtc wall = .ok instant → instant ≤ later →
    Representable later → ∃ earlier ≤ later,
      clock.toUtc (later + (offsetAt later).seconds) = .ok earlier

namespace Zone

theorem firstInstant?_eq_some {offsetAt : Int → Offset} {offsets : List Offset} {wall instant : Int}
    (h : firstInstant? offsetAt offsets wall = some instant) :
    Representable instant ∧ instant = wall - (offsetAt instant).seconds := by
  obtain ⟨offset, -, ho⟩ := List.mem_filterMap.1 (List.min?_mem h)
  obtain ⟨hmove, hat⟩ := Option.filter_eq_some_iff.1 ho
  obtain ⟨hinstant, hr⟩ := move?_eq_some_iff.1 hmove
  rw [decide_eq_true_eq] at hat
  exact ⟨hr, by rw [hat]; omega⟩

theorem firstInstant?_le {offsetAt : Int → Offset} {offsets : List Offset} {instant : Int}
    (hr : Representable instant) (hmem : offsetAt instant ∈ offsets) : ∃ first ≤ instant,
      firstInstant? offsetAt offsets (instant + (offsetAt instant).seconds) = some first := by
  have hfound : instant ∈ offsets.filterMap fun offset =>
      (move? (instant + (offsetAt instant).seconds) (-offset.seconds)).filter
        fun found => offsetAt found = offset := by
    refine List.mem_filterMap.2 ⟨_, hmem, Option.filter_eq_some_iff.2 ⟨?_, by simp⟩⟩
    exact move?_eq_some_iff.2 ⟨by omega, hr⟩
  unfold firstInstant?
  obtain ⟨first, hfirst⟩ : ∃ first, List.min? _ = some first :=
    Option.isSome_iff_exists.1 (List.isSome_min?_of_mem hfound)
  exact ⟨first, (List.min?_eq_some_iff.1 hfirst).2 instant hfound, hfirst⟩

section UtcOf

variable {offsetAt : Int → Offset} {offsets : List Offset} {wall instant : Int}

theorem of_utcOf (h : utcOf offsetAt offsets wall = .ok instant) : Representable instant ∧
    ∃ seen, Representable seen ∧ instant = wall - (offsetAt seen).seconds ∧
      (seen = instant ∨ seen = wall - 86400) := by
  unfold utcOf at h
  split at h
  · next first hf =>
    cases h
    obtain ⟨hr, heq⟩ := firstInstant?_eq_some hf
    exact ⟨hr, _, hr, heq, .inl rfl⟩
  · split at h
    · next before hb =>
      obtain ⟨heq, hr⟩ := utcUnder_eq_ok_iff.1 h
      obtain ⟨rfl, hbefore⟩ := move?_eq_some_iff.1 hb
      exact ⟨hr, _, hbefore, heq, .inr (by unfold secondsPerDay; omega)⟩
    · cases h

theorem exists_utcOf (hbefore : Representable (wall - 86400))
    (hr : Representable (wall - (offsetAt (wall - 86400)).seconds)) :
    ∃ instant, utcOf offsetAt offsets wall = .ok instant := by
  unfold utcOf
  cases firstInstant? offsetAt offsets wall with
  | some first => exact ⟨first, rfl⟩
  | none =>
    rw [show move? wall (-secondsPerDay) = some (wall - 86400) from
      move?_eq_some_iff.2 ⟨by unfold secondsPerDay; omega, hbefore⟩]
    exact ⟨_, utcUnder_eq_ok_iff.2 ⟨rfl, hr⟩⟩

theorem utcOf_le (hr : Representable instant) (hmem : offsetAt instant ∈ offsets) :
    ∃ earlier ≤ instant,
      utcOf offsetAt offsets (instant + (offsetAt instant).seconds) = .ok earlier := by
  obtain ⟨first, hle, hfirst⟩ := firstInstant?_le hr hmem
  refine ⟨first, hle, ?_⟩
  rw [utcOf, hfirst]

theorem shows_utcOf (hmem : ∀ instant, offsetAt instant ∈ offsets) :
    Clock.Shows ⟨utcOf offsetAt offsets, localOf offsetAt⟩ offsetAt where
  toLocal_eq := rfl
  of_toUtc := of_utcOf
  toUtc_ok := exists_utcOf
  toUtc_le _ _ hr := utcOf_le hr (hmem _)

end UtcOf

theorem shows_fixed (name : String) (offset : Offset) :
    (SystemZone.fixed name offset).clock.Shows fun _ => offset where
  toLocal_eq := rfl
  of_toUtc h := by
    obtain ⟨heq, hr⟩ := utcUnder_eq_ok_iff.1 h
    exact ⟨hr, _, hr, heq, .inl rfl⟩
  toUtc_ok _ hr := ⟨_, utcUnder_eq_ok_iff.2 ⟨rfl, hr⟩⟩
  toUtc_le {_ _ later} _ _ hr :=
    ⟨later, le_rfl, utcUnder_eq_ok_iff.2 ⟨by omega, hr⟩⟩

theorem OffsetTable.secondsAt_mem (current : Int) (changes : List (Int × Int)) (instant : Int) :
    secondsAt current changes instant ∈ current :: changes.map (·.2) := by
  induction changes generalizing current with
  | nil => exact List.mem_cons_self
  | cons change rest ih =>
    unfold secondsAt
    split
    · exact List.mem_cons_of_mem _ (ih change.2)
    · exact List.mem_cons_self

theorem OffsetTable.offsetAt_mem (table : OffsetTable) (instant : Int) :
    table.offsetAt instant ∈ table.offsets := by
  apply List.mem_map_of_mem
  rw [List.mem_eraseDups]
  exact secondsAt_mem _ _ _

theorem VTimezone.mem_of_foldl_later {onsets : List (Int × Observance)}
    {best : Option (Int × Observance)} {onset : Int × Observance}
    (h : onsets.foldl later best = some onset) : best = some onset ∨ onset ∈ onsets := by
  induction onsets generalizing best with
  | nil => exact .inl h
  | cons first rest ih =>
    rcases ih h with hbest | hmem
    · cases best with
      | none =>
        cases hbest
        exact .inr List.mem_cons_self
      | some best =>
        simp only [later] at hbest
        split at hbest
        · cases hbest
          exact .inr List.mem_cons_self
        · exact .inl hbest
    · exact .inr (List.mem_cons_of_mem _ hmem)

theorem VTimezone.mem_of_observanceAt? {clocks : Clocks} {zone : VTimezone} {moment : Moment}
    {o : Observance} (h : zone.observanceAt? clocks moment = some o) : o ∈ zone.observances := by
  obtain ⟨onset, honset, rfl⟩ := Option.map_eq_some_iff.1 h
  rcases mem_of_foldl_later honset with hnone | hmem
  · cases hnone
  · obtain ⟨o, ho, hlatest⟩ := List.mem_filterMap.1 hmem
    obtain ⟨_, -, rfl⟩ := Option.map_eq_some_iff.1 hlatest
    exact ho

theorem VTimezone.mem_of_earliest? {observances : List Observance} {o : Observance}
    (h : earliest? observances = some o) : o ∈ observances := by
  induction observances generalizing o with
  | nil => cases h
  | cons first rest ih =>
    unfold earliest? at h
    split at h
    · next other ho =>
      split at h
      · cases h
        exact List.mem_cons_self
      · cases h
        exact List.mem_cons_of_mem _ (ih ho)
    · cases h
      exact List.mem_cons_self

theorem VTimezone.earliest?_cons (first : Observance) (rest : List Observance) :
    ∃ o, earliest? (first :: rest) = some o := by
  unfold earliest?
  split
  · split <;> exact ⟨_, rfl⟩
  · exact ⟨_, rfl⟩

theorem VTimezone.offsetAt_mem {clocks : Clocks} {zone : VTimezone} (h : zone.observances ≠ [])
    (instant : Int) : zone.offsetAt clocks instant ∈ zone.offsets := by
  unfold offsets
  rw [List.mem_eraseDups, List.mem_flatMap]
  unfold offsetAt offsetAtMoment
  cases ho : zone.observanceAt? clocks instant with
  | some o => exact ⟨o, mem_of_observanceAt? ho, by simp⟩
  | none =>
    obtain ⟨first, rest, hcons⟩ := List.exists_cons_of_ne_nil h
    obtain ⟨o, he⟩ := earliest?_cons first rest
    rw [hcons, he]
    exact ⟨o, mem_of_earliest? he, by simp⟩

/-- Without observances a zone shows UTC, from its second day on. -/
theorem VTimezone.shows_of_nil (clocks : Clocks) {zone : VTimezone} (h : zone.observances = []) :
    Clock.Shows ⟨zone.toUtc clocks, zone.toLocal clocks⟩ (zone.offsetAt clocks) := by
  have hat : ∀ instant, zone.offsetAt clocks instant = .utc := by
    intro instant
    simp [offsetAt, offsetAtMoment, observanceAt?, h, earliest?]
  have hto : ∀ wall instant, zone.toUtc clocks wall = .ok instant ↔
      Representable (wall - 86400) ∧ instant = wall ∧ Representable instant := by
    intro wall instant
    have hnone : firstInstant? (zone.offsetAt clocks) [] wall = none := rfl
    rw [toUtc, show zone.offsets = [] by simp [offsets, h], utcOf, hnone]
    by_cases hb : Representable (wall - 86400)
    · have hmove : move? wall (-secondsPerDay) = some (wall - 86400) :=
        move?_eq_some_iff.2 ⟨by unfold secondsPerDay; omega, hb⟩
      simp [hmove, hat, utcUnder_eq_ok_iff, hb, Offset.utc]
    · have hmove : move? wall (-secondsPerDay) = none := if_neg hb
      simp [hmove, hb]
  refine ⟨rfl, of_utcOf, exists_utcOf, fun {wall instant later} hi hle hr => ⟨later, le_rfl, ?_⟩⟩
  obtain ⟨hb, rfl, -⟩ := (hto _ _).1 hi
  have hutc : Offset.utc.seconds = 0 := rfl
  refine (hto _ _).2 ?_
  rw [hat, hutc, add_zero]
  unfold Representable at *
  exact ⟨by omega, rfl, hr⟩

theorem VTimezone.shows (clocks : Clocks) (zone : VTimezone) :
    Clock.Shows ⟨zone.toUtc clocks, zone.toLocal clocks⟩ (zone.offsetAt clocks) := by
  by_cases h : zone.observances = []
  · exact zone.shows_of_nil clocks h
  · exact shows_utcOf (offsetAt_mem h)

end Zone

theorem TimeZone.clock_shows (clocks : Clocks) (zone : TimeZone) :
    (zone.clock clocks).Shows (zone.offsetAt clocks) := by
  cases zone with
  | system zone =>
    cases zone with
    | fixed name offset => exact shows_fixed name offset
    | named zone => exact shows_utcOf zone.table.offsetAt_mem
  | described zone => exact zone.shows clocks

/-- Whether offsets differ by a day at most and stay the same for two days at
each end of the calendar. -/
structure Zone.IsSteady (offsetAt : Int → Offset) : Prop where
  spread : ∀ one other, Representable one → Representable other →
    (offsetAt one).seconds ≤ (offsetAt other).seconds + 86400
  early : ∀ instant, Representable instant → instant ≤ firstSecond + 172800 →
    offsetAt instant = offsetAt firstSecond
  late : ∀ instant, Representable instant → lastSecond - 172800 ≤ instant →
    offsetAt instant = offsetAt lastSecond

/-- A clock that shows UTC under offsets that differ by a day at most. -/
def Clock.IsSteady (clock : Clock) : Prop :=
  ∃ offsetAt, clock.Shows offsetAt ∧ Zone.IsSteady offsetAt

/-- Whether a clock, a day and more after a reading, shows no earlier date than
the reading stands for. -/
def Clock.KeepsDates (clock : Clock) : Prop :=
  ∀ wall instant later, clock.toUtc wall = .ok instant → wall + 86400 ≤ later →
    Representable later → dayOf (clock.toLocal instant) ≤ dayOf (clock.toLocal later)

namespace Clock.Shows

variable {clock : Clock} {offsetAt : Int → Offset} (h : clock.Shows offsetAt)
include h

theorem toLocal_eq_add {instant : Int} (hr : Representable (instant + (offsetAt instant).seconds)) :
    clock.toLocal instant = instant + (offsetAt instant).seconds := by
  rw [h.toLocal_eq, localOf, move?_eq_some_iff.2 ⟨rfl, hr⟩, Option.getD_some]

theorem toLocal_eq_self {instant : Int}
    (hr : ¬ Representable (instant + (offsetAt instant).seconds)) :
    clock.toLocal instant = instant := by
  rw [h.toLocal_eq, localOf, move?, if_neg hr, Option.getD_none]

theorem representable_toLocal {instant : Int} (hr : Representable instant) :
    Representable (clock.toLocal instant) := by
  by_cases hshown : Representable (instant + (offsetAt instant).seconds)
  · rwa [h.toLocal_eq_add hshown]
  · rwa [h.toLocal_eq_self hshown]

variable (hs : Zone.IsSteady offsetAt)
include hs

theorem toUtc_spread {wall wall' instant instant' : Int} (hi : clock.toUtc wall = .ok instant)
    (hi' : clock.toUtc wall' = .ok instant') : instant' - instant ≤ wall' - wall + 86400 := by
  obtain ⟨-, seen, hseen, rfl, -⟩ := h.of_toUtc hi
  obtain ⟨-, seen', hseen', rfl, -⟩ := h.of_toUtc hi'
  have := hs.spread seen seen' hseen hseen'
  omega

theorem toUtc_toLocal_add {instant later seconds : Int} (hr : Representable instant)
    (hi : clock.toUtc (clock.toLocal instant + seconds) = .ok later) :
    later ≤ instant + seconds + 86400 := by
  obtain ⟨-, seen, hseen, heq, -⟩ := h.of_toUtc hi
  by_cases hshown : Representable (instant + (offsetAt instant).seconds)
  · have := hs.spread instant seen hr hseen
    rw [h.toLocal_eq_add hshown] at heq
    omega
  · have := (offsetAt seen).within_day
    rw [h.toLocal_eq_self hshown] at heq
    omega

theorem toUtc_toLocal_le {wall instant later : Int} (hi : clock.toUtc wall = .ok instant)
    (hw : firstSecond ≤ wall) (hle : instant ≤ later) (hr : Representable later) :
    ∃ earlier ≤ later, clock.toUtc (clock.toLocal later) = .ok earlier := by
  by_cases hshown : Representable (later + (offsetAt later).seconds)
  · rw [h.toLocal_eq_add hshown]
    exact h.toUtc_le hi hle hr
  have hday := (offsetAt later).within_day
  have hend : firstSecond + 345600 ≤ lastSecond := by decide
  rw [h.toLocal_eq_self hshown]
  unfold Representable at hshown hr
  by_cases hlate : lastSecond - 86400 ≤ later
  · -- Past the last reading the offset of the calendar's end counts.
    have hlast : ∀ instant, firstSecond ≤ instant ∧ instant ≤ lastSecond →
        lastSecond - 172800 ≤ instant → offsetAt instant = offsetAt later := by
      intro instant hinstant hnear
      rw [hs.late instant hinstant hnear, hs.late later hr (by omega)]
    have hbefore := hlast (later - 86400) (by omega) (by omega)
    obtain ⟨earlier, he⟩ : ∃ earlier, clock.toUtc later = .ok earlier := by
      apply h.toUtc_ok
      · unfold Representable
        omega
      · rw [hbefore]
        unfold Representable
        omega
    obtain ⟨hearlier, seen, hseen, heq, hsame⟩ := h.of_toUtc he
    refine ⟨earlier, ?_, he⟩
    have hnear := (offsetAt seen).within_day
    have := hlast seen hseen (by rcases hsame with rfl | rfl <;> omega)
    rw [this] at heq
    omega
  · -- Before the first reading there is no instant of a reading.
    have hfirst : ∀ instant, firstSecond ≤ instant ∧ instant ≤ lastSecond →
        instant ≤ firstSecond + 172800 → offsetAt instant = offsetAt later := by
      intro instant hinstant hnear
      rw [hs.early instant hinstant hnear, hs.early later hr (by omega)]
    obtain ⟨hinstant, seen, hseen, heq, hsame⟩ := h.of_toUtc hi
    have hnear := (offsetAt seen).within_day
    have := hfirst seen hseen (by rcases hsame with rfl | rfl <;> omega)
    rw [this] at heq
    omega

theorem exists_toUtc {wall instant days : Int} (hi : clock.toUtc wall = .ok instant)
    (hw : firstSecond ≤ wall) (hdays : 0 ≤ days)
    (hend : instant + days * 86400 + 86400 ≤ lastSecond) :
    ∃ later, clock.toUtc (wall + days * 86400) = .ok later := by
  by_cases hzero : days = 0
  · rw [hzero, zero_mul, add_zero]
    exact ⟨instant, hi⟩
  obtain ⟨hinstant, seen, hseen, heq, -⟩ := h.of_toUtc hi
  have hnear := (offsetAt seen).within_day
  unfold Representable at hinstant
  have hbefore : Representable (wall + days * 86400 - 86400) := by
    unfold Representable
    omega
  have hspread := hs.spread seen _ hseen hbefore
  have hnear' := (offsetAt (wall + days * 86400 - 86400)).within_day
  refine h.toUtc_ok hbefore ?_
  unfold Representable
  omega

end Clock.Shows
end Recurrence
