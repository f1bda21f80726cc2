import Mathlib
import Recurrence.Proofs.Occurrence.SetAlgebra

/-! How far occurrences reach. The end by which a stream judges whether one
reaches into its window is the end of the period that it gives, and nothing that
rules bring in before they are looked at reaches so far. -/
namespace Recurrence
open Calendar

/-- The place where a period ends. -/
def Period.stopKey (clocks : Clocks) (period : Period) : Except Failure TimelineKey := do
  let last ← period.effectiveEnd clocks
  orZone (last.key clocks)

/-- Whether a period that starts at a place reaches into a window. -/
def Period.reaches (clocks : Clocks) (window : Window) (key : TimelineKey) (period : Period) :
    Bool :=
  (period.stopKey clocks).toOption.any (window.overlaps key)

namespace Window

variable {window : Window} {key stop : TimelineKey}

/-- A window of the calendar that does not end before it starts. -/
structure IsProper (window : Window) : Prop where
  start : ∀ first ∈ window.start, Representable first
  ordered : ∀ first ∈ window.start, ∀ last ∈ window.stop, first ≤ last

theorem isPast_eq_false_of_overlaps (h : window.overlaps key stop = true) :
    window.isPast key = false := by
  unfold overlaps at h
  unfold isPast
  cases hw : window.stop with
  | none => rfl
  | some last =>
    simp only [hw, Option.all_some, Bool.and_eq_true, decide_eq_true_eq] at h
    simpa using h.1

theorem isPast_mono {other : TimelineKey} (hle : key ≤ other) (h : window.isPast key = true) :
    window.isPast other = true := by
  have hinstant := TimelineKey.instant_le_of_le hle
  unfold isPast at *
  simp only [Option.any_eq_true, decide_eq_true_eq] at *
  obtain ⟨last, hl, hpast⟩ := h
  exact ⟨last, hl, hpast.trans hinstant⟩

theorem overlaps_eq_false {first : Int} (hw : first ∈ window.start) (hstart : key.instant < first)
    (hstop : stop.instant ≤ first) : window.overlaps key stop = false := by
  rw [Option.mem_def] at hw
  unfold overlaps
  rw [hw, Option.all_some, Bool.and_eq_false_iff]
  right
  split
  · exact decide_eq_false (not_lt.2 hstop)
  · exact decide_eq_false (not_le.2 hstart)

theorem overlaps_of_le {other : TimelineKey} (hstop : stop.instant ≤ key.instant)
    (hother : other.instant ≤ key.instant) :
    window.overlaps key stop = window.overlaps key other := by
  unfold overlaps
  simp only [not_lt.2 hstop, not_lt.2 hother, if_false]

end Window

namespace RecurrenceSet

variable {clocks : Clocks} {set : RecurrenceSet} {window : Window} {clock : Option Clock}
  {found : Instance} {stop : TimelineKey}

theorem totalSeconds_nonneg (set : RecurrenceSet) : 0 ≤ set.duration.totalSeconds := by
  obtain ⟨hdays, hseconds, -⟩ := Period.of_durationError? set.duration_ok
  unfold Duration.totalSeconds
  omega

theorem mem_of_resumeAt? {start : Int} (h : start ∈ set.resumeAt? window) :
    start + set.duration.totalSeconds + 86400 ∈ window.start := by
  obtain ⟨first, hfirst, hmove⟩ := Option.bind_eq_some_iff.1 h
  obtain ⟨rfl, -⟩ := move?_eq_some_iff.1 hmove
  unfold secondsPerDay
  rw [hfirst, Option.mem_def, Option.some.injEq]
  omega

/-- An instance of the kind that a set has on its clock. -/
structure Suits (set : RecurrenceSet) (clock : Option Clock) (found : Instance) : Prop where
  placed : found.Placed clock
  form : found.value.form = set.start.form
  hasTime : found.value.hasTime = set.start.hasTime

theorem Suits.durationError? (h : set.Suits clock found) :
    Period.durationError? found.value set.duration = none :=
  Period.durationError?_congr h.hasTime set.duration_ok

theorem suits_start {place : TimelineKey} (hA : set.start.InCalendar)
    (hclock : set.start.clock? clocks = .ok clock) (hkey : set.start.keyBy clock = .ok place) :
    set.Suits clock ⟨set.start, place⟩ :=
  ⟨.of_keyBy hclock hA hkey, rfl, rfl⟩

theorem RecursIn.suits {patterns : List Pattern} (h : set.RecursIn clocks window patterns found)
    (hA : set.start.InCalendar) (hclock : set.start.clock? clocks = .ok clock) :
    set.Suits clock found := by
  obtain ⟨plan, _, _, hopens, -, hf, -⟩ := h.exists_wall hA
  refine ⟨h.placed hA hclock, ?_, h.hasTime hA⟩
  rw [Plan.form_of_instanceAt hf, hopens.anchor_eq]

theorem Opens.suits {stream : Occurrences} (h : set.Opens clocks window stream)
    (hA : set.start.InCalendar) (hmem : Candidate.generated found ∈ stream.offers) :
    set.Suits stream.clock found := by
  have hgenerated : found ∈ stream.generated.flatMap Instances.all := by
    simpa [Occurrences.offers] using hmem
  rcases (h.mem_generated_iff found).1 hgenerated with rfl | hrecurs
  · exact suits_start hA h.clock_eq h.startKey_eq
  · exact hrecurs.suits hA h.clock_eq

section Clock

variable (hclock : set.start.clock? clocks = .ok clock)
include hclock

theorem endOf_eq_ok_iff (h : set.Suits clock found) : set.endOf clocks found = .ok stop ↔
    ∃ last, found.value.addBy clock set.duration = .ok last ∧ last.keyBy clock = .ok stop := by
  have hfound : found.value.clock? clocks = .ok clock := (DateTime.clock?_congr h.form).trans hclock
  unfold endOf
  rw [DateTime.add_eq_addBy hfound, bind_eq_ok_iff]
  refine exists_congr fun last => and_congr_right fun hlast => ?_
  have hlast : last.clock? clocks = .ok clock :=
    (DateTime.clock?_congr (DateTime.form_of_addBy hlast)).trans hfound
  rw [orZone_eq_ok_iff, DateTime.key_eq_keyBy hlast]

variable (hs : ∀ c ∈ clock, c.IsSteady)
include hs

theorem Suits.reaches_lasting (h : set.Suits clock found) (he : set.endOf clocks found = .ok stop) :
    (Period.lasting found.value set.duration).reaches clocks window found.key =
      window.overlaps found.key stop := by
  have hfound : found.value.clock? clocks = .ok clock := (DateTime.clock?_congr h.form).trans hclock
  unfold Period.reaches Period.stopKey Period.effectiveEnd Period.lasting
  cases hz : set.duration.isZero with
  | false =>
    have hsame : (found.value.add clocks set.duration >>= fun last => orZone (last.key clocks)) =
        .ok stop := he
    simp only [Bool.false_eq_true, if_false]
    rw [hsame]
    rfl
  | true =>
    obtain ⟨last, hlast, hstop⟩ := (endOf_eq_ok_iff hclock h).1 he
    obtain ⟨hle, own, hown, hle'⟩ := h.placed.end_le_of_isZero hs hz hlast hstop
    simp only [if_true, bind, Except.bind]
    rw [DateTime.key_eq_keyBy hfound, hown]
    exact Window.overlaps_of_le hle' hle

/-- An instance from before the rules are looked at ends before the window. -/
theorem Suits.early (h : set.Suits clock found) (hw : window.IsProper)
    (hearly : ¬ set.LooksAt window found.key) : ∃ stop,
      set.endOf clocks found = .ok stop ∧ window.overlaps found.key stop = false := by
  unfold LooksAt at hearly
  push Not at hearly
  obtain ⟨start, hstart, hlt⟩ := hearly
  have hfirst := mem_of_resumeAt? hstart
  have hlast := (hw.start _ hfirst).2
  have htotal := set.totalSeconds_nonneg
  obtain ⟨last, stop, hadd, hkey⟩ := h.placed.exists_end hs h.durationError? (by omega)
  have hle := h.placed.end_le hs h.durationError? hadd hkey
  refine ⟨stop, (endOf_eq_ok_iff hclock h).2 ⟨last, hadd, hkey⟩, ?_⟩
  apply Window.overlaps_eq_false hfirst
  · omega
  · omega

end Clock

theorem mem_added_of_placed {one : Added} {placed : List Added}
    (h : one ∈ firstAtEach (placed.mergeSort fun a b => a.start ≤ b.start)) : one ∈ placed :=
  (List.mergeSort_perm placed _).mem_iff.1 ((sublist_firstAtEach _).subset h)

theorem stopKey_of_place {period : Period} {one : Added} (h : set.place clocks period = .ok one) :
    one.period.stopKey clocks = .ok one.stop := by
  unfold place at h
  simp only [bind_eq_ok_iff, pure_eq_ok_iff, orZone_eq_ok_iff] at h
  obtain ⟨start, -, last, hlast, stop, hstop, rfl⟩ := h
  unfold Period.stopKey
  simp only [bind_eq_ok_iff, orZone_eq_ok_iff]
  exact ⟨last, hlast, hstop⟩

theorem Opens.reaches_added {stream : Occurrences} {window' : Window}
    (h : set.Opens clocks window' stream) {one : Added} (hmem : one ∈ stream.added) :
    one.period.reaches clocks window one.start = window.overlaps one.start one.stop := by
  obtain ⟨placed, hplaced, hadded⟩ := h.added
  rw [hadded] at hmem
  obtain ⟨period, -, hplace⟩ := (mem_of_map_eq_ok hplaced).1 (mem_added_of_placed hmem)
  unfold Period.reaches
  rw [stopKey_of_place hplace]
  rfl

/-- An occurrence reaches as far as the end by which a stream judges it. -/
theorem Opens.reaches_of_build {stream : Occurrences} {window' : Window}
    (h : set.Opens clocks window' stream) (ho : stream.ordinal = 0) (hA : set.start.InCalendar)
    (hs : ∀ clock ∈ stream.clock, clock.IsSteady) {candidate : Candidate} {occurrence : Occurrence}
    (hmem : candidate ∈ stream.offers) (hb : stream.build candidate = .ok (occurrence, stop)) :
    occurrence.period.reaches clocks window occurrence.key =
      window.overlaps candidate.key stop := by
  cases candidate with
  | generated found =>
    have hsuits := h.suits hA hmem
    rw [h.build_generated ho hsuits.form, map_eq_ok_iff] at hb
    obtain ⟨_, he, heq⟩ := hb
    cases heq
    exact hsuits.reaches_lasting h.clock_eq hs he
  | declared one =>
    have hone : one ∈ stream.added := by simpa [Occurrences.offers] using hmem
    rw [h.build_declared ho] at hb
    cases hb
    exact h.reaches_added hone

end RecurrenceSet
end Recurrence
