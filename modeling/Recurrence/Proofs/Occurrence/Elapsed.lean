import Mathlib
import Recurrence.Proofs.Occurrence.Window
import Recurrence.Proofs.Rule.Zoned
import Recurrence.Proofs.Zone.Inverse

/-! Windows and elapsed time. An occurrence that lasts some hours reaches into a
window up to the first instant that reads like its end. That is the end itself
unless the clock has shown its reading before, where an hour is repeated. -/
namespace Recurrence
open Calendar Zone

namespace Clock.Shows

variable {clock : Clock} {offsetAt : Int → Offset} (h : clock.Shows offsetAt) {instant : Int}
  (hlow : firstSecond + 259200 ≤ instant) (hhigh : instant ≤ lastSecond - 259200)
include h hlow hhigh

theorem toLocal_inside : instant ∈ clock.shownAt (clock.toLocal instant) ∧
    clock.toLocal instant = instant + (offsetAt instant).seconds ∧
    firstSecond + 172800 ≤ clock.toLocal instant ∧ clock.toLocal instant ≤ lastSecond - 172800 := by
  have hnear := (offsetAt instant).within_day
  have hr : Representable instant := by
    unfold Representable
    omega
  have hlocal : Representable (instant + (offsetAt instant).seconds) := by
    unfold Representable
    omega
  have hadd := h.toLocal_eq_add hlocal
  exact ⟨⟨hr, rfl⟩, hadd, by omega, by omega⟩

theorem toUtc_toLocal_isLeast (hfirst : clock.TakesFirst offsetAt) : ∃ first,
    clock.toUtc (clock.toLocal instant) = .ok first ∧
      IsLeast (clock.shownAt (clock.toLocal instant)) first := by
  obtain ⟨hmem, -, hlow', hhigh'⟩ := h.toLocal_inside hlow hhigh
  exact h.toUtc_isLeast hlow' hhigh' hfirst ⟨instant, hmem⟩

/-- The first instant that shows what another does is that itself unless it repeats a
reading. -/
theorem eq_of_isLeast_shownAt (honce : ¬ Zone.Repeats offsetAt instant) {first : Int}
    (hleast : IsLeast (clock.shownAt (clock.toLocal instant)) first) : first = instant := by
  obtain ⟨hmem, hadd, hlow', hhigh'⟩ := h.toLocal_inside hlow hhigh
  obtain ⟨hr, hreads⟩ := (h.mem_shownAt_iff hlow' hhigh').1 hleast.1
  rcases eq_or_lt_of_le (hleast.2 hmem) with heq | hlt
  · exact heq
  · exact absurd ⟨first, hlt, hr, hreads.trans hadd⟩ honce

end Clock.Shows

/-- An instance that lasts some seconds ends at the first instant that reads like the
one so many seconds after its place. -/
theorem Instance.Placed.exists_exactEnd {clock : Clock} {offsetAt : Int → Offset}
    {found : Instance} (h : found.Placed (some clock)) (hshows : clock.Shows offsetAt)
    (hfirst : clock.TakesFirst offsetAt) (hs : Zone.IsSpaced offsetAt)
    (htime : found.value.hasTime = true) {duration : Duration} (hdays : duration.nominalDays = 0)
    (hseconds : 0 ≤ duration.exactSeconds) (hlow : firstSecond + 259200 ≤ found.key.instant)
    (hhigh : found.key.instant + duration.exactSeconds ≤ lastSecond - 259200) :
    ∃ last first, found.value.addBy (some clock) duration = .ok last ∧
      last.keyBy (some clock) = .ok ⟨first, true⟩ ∧
      IsLeast (clock.shownAt (clock.toLocal (found.key.instant + duration.exactSeconds))) first := by
  cases h with
  | date clock h => cases htime
  | @zoned clock wall shown instant tzid h hi hshown =>
    dsimp only at hlow hhigh ⊢
    have hlow' : firstSecond + 259200 ≤ instant + duration.exactSeconds := by omega
    obtain ⟨first, hto, hleast⟩ := hshows.toUtc_toLocal_isLeast hlow' hhigh hfirst
    have hback : clock.toUtc shown = .ok instant := by
      rcases hshown with rfl | rfl
      · exact hshows.toUtc_toLocal hfirst hs hi (by omega) (by omega)
      · exact hi
    have hrshown : Representable shown := by
      obtain ⟨-, seen, -, heq, -⟩ := hshows.of_toUtc hback
      have := (offsetAt seen).within_day
      unfold Representable
      omega
    have hr : Representable (instant + duration.exactSeconds) := by
      unfold Representable
      omega
    refine ⟨.time (clock.toLocal (instant + duration.exactSeconds)) (.zoned tzid), first,
      DateTime.addBy_zoned.2 ?_, map_eq_ok_iff.2 ⟨first, hto, rfl⟩, hleast⟩
    rw [hdays, zero_mul, add_zero]
    exact ⟨hrshown, instant, hback, hr, rfl⟩

theorem Window.overlaps_eq_true_iff {window : Window} {key stop : TimelineKey}
    (hlt : key.instant < stop.instant) : window.overlaps key stop = true ↔
      (∀ last ∈ window.stop, key.instant < last) ∧
        ∀ first ∈ window.start, first < stop.instant := by
  unfold overlaps
  simp only [Bool.and_eq_true, Option.all_eq_true, if_pos hlt, decide_eq_true_eq, Option.mem_def]

namespace RecurrenceSet

/-- Whether a set has no occurrences but those of its start and its rules. -/
structure IsPlain (set : RecurrenceSet) : Prop where
  added : set.added = []
  excluded : set.excluded = []
  exclusionRules : set.exclusionRules = []

section Plain

variable {clocks : Clocks} {set : RecurrenceSet} {window : Window} {stream : Occurrences}
  (hplain : set.IsPlain) (h : set.Opens clocks window stream)
include hplain h

theorem Opens.added_of_isPlain : stream.added = [] := by
  obtain ⟨placed, hplaced, hadded⟩ := h.added
  rw [hplain.added] at hplaced
  obtain rfl : placed = [] := List.map_eq_nil_iff.1 hplaced.symm
  rw [hadded]
  exact List.eq_nil_iff_forall_not_mem.2 fun _ hmem => nomatch mem_added_of_placed hmem

theorem Opens.exists_generated {candidate : Candidate} (hv : stream.Visits candidate) :
    ∃ found, candidate = .generated found := by
  have hmem := (Candidate.of_last? hv.last).1
  rw [Occurrences.offers, h.added_of_isPlain hplain, List.map_nil, List.append_nil] at hmem
  obtain ⟨found, -, rfl⟩ := List.mem_map.1 hmem
  exact ⟨found, rfl⟩

theorem Opens.visits_generated_iff (hA : set.start.InCalendar) {found : Instance} :
    stream.Visits (.generated found) ↔
      (set.RecursIn clocks window set.rules found ∨ found = ⟨set.start, stream.startKey⟩ ∧
        ∀ other, set.RecursIn clocks window set.rules other → other.key ≠ found.key) ∧
      window.isPast found.key = false := by
  have hkept : stream.isTaken found.key = false := by
    apply Bool.eq_false_iff.2
    rw [ne_eq, h.isTaken_iff, hplain.excluded]
    rintro ⟨_, hmem, -⟩
    cases hmem
  have hfree : ¬ stream.Excludes found.key := by
    rw [h.excludes_iff, hplain.exclusionRules]
    rintro ⟨_, ⟨_, hmem, -⟩, -⟩
    cases hmem
  have hends : stream.endsBefore found.key = window.isPast found.key := by
    rw [Occurrences.endsBefore, h.window_eq, h.cutoff_eq, Option.any_none, Bool.or_false]
  rw [Occurrences.visits_iff, Candidate.key, h.last?_eq_generated_iff hA,
    h.added_of_isPlain hplain, hends]
  simp [hkept, hfree]

theorem Opens.mem_successes_iff (hA : set.start.InCalendar) (ho : stream.ordinal = 0)
    {occurrence : Occurrence} : occurrence ∈ successes stream.toList ↔
      ∃ found stop, stream.Visits (.generated found) ∧ set.endOf clocks found = .ok stop ∧
        window.overlaps found.key stop = true ∧
          set.occurrenceAt clocks found.key (.lasting found.value set.duration) = occurrence := by
  -- A generated candidate is built where it has an end, and only then.
  have hbuild : ∀ found, stream.Visits (.generated found) → ∀ stop,
      stream.build (.generated found) = .ok (occurrence, stop) ↔
        set.endOf clocks found = .ok stop ∧
          set.occurrenceAt clocks found.key (.lasting found.value set.duration) = occurrence := by
    intro found hv stop
    rw [h.build_generated ho (h.suits hA (Candidate.of_last? hv.last).1).form, map_eq_ok_iff]
    simp only [Prod.mk.injEq]
    constructor
    · rintro ⟨_, hend, hsame, rfl⟩
      exact ⟨hend, hsame⟩
    · rintro ⟨hend, hsame⟩
      exact ⟨stop, hend, hsame, rfl⟩
  rw [Occurrences.mem_successes_toList h.ordered, ← h.window_eq]
  constructor
  · rintro ⟨candidate, hv, hout⟩
    obtain ⟨found, rfl⟩ := h.exists_generated hplain hv
    obtain ⟨stop, hb, hover⟩ := Occurrences.outcome_eq_ok_iff.1 hout
    obtain ⟨hend, hsame⟩ := (hbuild found hv stop).1 hb
    exact ⟨found, stop, hv, hend, hover, hsame⟩
  · rintro ⟨found, stop, hv, hend, hover, hsame⟩
    exact ⟨_, hv, Occurrences.outcome_eq_ok_iff.2 ⟨stop, (hbuild found hv stop).2 ⟨hend, hsame⟩,
      hover⟩⟩

end Plain

section Beside

variable {resolver : Resolver} {set : RecurrenceSet} {window : Window} {whole part : Occurrences}
variable (hplain : set.IsPlain) (hA : set.start.InCalendar)
  (h : set.Opens resolver.clocks .unbounded whole) (h' : set.Opens resolver.clocks window part)

include h in
theorem Opens.startKey_lt : whole.startKey.instant < set.start.wall + 86400 := by
  have hclock := h.clock_eq
  have hkey := h.startKey_eq
  cases hs : set.start with
  | date day =>
    rw [hs] at hkey
    rw [← Except.ok.inj hkey]
    exact Int.lt_add_of_pos_right _ (by decide)
  | time wall form =>
    rw [hs] at hclock hkey
    cases form with
    | zoned tzid =>
      obtain ⟨clock, hc, hsome⟩ := map_eq_ok_iff.1 hclock
      rw [← hsome] at hkey
      obtain ⟨instant, hi, heq⟩ := map_eq_ok_iff.1 hkey
      rw [← heq]
      exact (Resolver.clocks_isNear hc wall instant hi).2
    | _ =>
      rw [← Except.ok.inj hkey]
      exact Int.lt_add_of_pos_right _ (by decide)

include hA h in
theorem recurs_of_key_start {patterns : List Pattern} {found : Instance}
    (hf : set.RecursIn resolver.clocks window patterns found)
    (hk : found.key = whole.startKey) : set.RecursIn resolver.clocks .unbounded patterns found := by
  have hlook := hf.looksAt hA
  obtain ⟨pattern, hp, run, hrun, hmem⟩ := recursIn_iff_between.1 hf
  obtain ⟨hcursor, hopens⟩ := Run.opens hrun
  have hearly : ∀ start ∈ set.resumeAt? window, start < run.plan.anchor.wall + 86400 := by
    intro start hs
    have hle := hlook start hs
    have hlt := h.startKey_lt
    rw [hk] at hle
    rw [hopens.anchor_eq]
    omega
  refine recursIn_iff_between.2 ⟨pattern, hp, run, hrun, ?_⟩
  exact Run.mem_of_mem_between_early (hopens.canonical hA) hcursor hopens.resume_eq
    hopens.horizon_eq hearly hmem

include hplain hA h h' in
/-- What the whole stream visits is visited in a window that it does not come
behind, if the rules are looked at there. -/
theorem visits_part {found : Instance} (hw : window.IsProper)
    (hv : whole.Visits (.generated found)) (hlook : set.LooksAt window found.key)
    (hpast : window.isPast found.key = false) : part.Visits (.generated found) := by
  have hopen := ordered_resumeAt? set hw
  rw [h.visits_generated_iff hplain hA] at hv
  rw [h'.visits_generated_iff hplain hA]
  refine ⟨?_, hpast⟩
  rcases hv.1 with hr | ⟨rfl, hnone⟩
  · exact .inl (recursIn_window hA hopen hr hlook hpast)
  · refine .inr ⟨by rw [h'.startKey_congr h], fun other hother hk => ?_⟩
    exact hnone other (recurs_of_key_start hA h hother hk) hk

include hplain hA h h' in
/-- An occurrence that the whole stream has is one of the window as well exactly if
it reaches into that. -/
theorem mem_part_iff {found : Instance} {stop : TimelineKey} (ho : part.ordinal = 0)
    (hw : window.IsProper) (hv : whole.Visits (.generated found))
    (hend : set.endOf resolver.clocks found = .ok stop)
    (hreach : window.overlaps found.key stop = true → set.LooksAt window found.key) :
    set.occurrenceAt resolver.clocks found.key (.lasting found.value set.duration) ∈
      successes part.toList ↔ window.overlaps found.key stop = true := by
  rw [h'.mem_successes_iff hplain hA ho]
  constructor
  · rintro ⟨other, stop', hv', hend', hover, hsame⟩
    have hkey : other.key = found.key := congrArg Occurrence.key hsame
    have hvalue : other.value = found.value := congrArg (·.period.start) hsame
    obtain rfl : other = found := by
      cases other
      cases found
      exact congrArg₂ _ hvalue hkey
    rw [hend, Except.ok.injEq] at hend'
    rw [hend']
    exact hover
  · intro hover
    have hv' := visits_part hplain hA h h' hw hv (hreach hover)
      (Window.isPast_eq_false_of_overlaps hover)
    exact ⟨found, stop, hv', hend, hover, rfl⟩

end Beside

theorem Opens.exists_visits_start {clocks : Clocks} {set : RecurrenceSet} {whole : Occurrences}
    (hplain : set.IsPlain) (h : set.Opens clocks .unbounded whole) :
    ∃ found, whole.Visits (.generated found) ∧ found.key = whole.startKey := by
  have hkept : ¬ set.Removes clocks whole.startKey := by
    unfold Removes Recurs
    rw [hplain.excluded, hplain.exclusionRules]
    simp
  obtain ⟨candidate, hv, hk⟩ := (h.includes_iff _).1 ⟨.inl h.key_start, hkept⟩
  obtain ⟨found, rfl⟩ := h.exists_generated hplain hv
  exact ⟨found, hv, hk⟩

section Exact

variable {resolver : Resolver} {set : RecurrenceSet} {window : Window} {found : Instance}

theorem looksAt_of_overlaps {key stop : TimelineKey}
    (hstop : stop.instant ≤ key.instant + set.duration.totalSeconds)
    (hover : window.overlaps key stop = true) : set.LooksAt window key := by
  intro start hs
  have hfirst := mem_of_resumeAt? hs
  have htotal := set.totalSeconds_nonneg
  by_contra hearly
  have hout : window.overlaps key stop = false :=
    Window.overlaps_eq_false hfirst (by omega) (by omega)
  rw [hover] at hout
  cases hout

theorem Suits.exists_exactEnd {clocks : Clocks} {clock : Clock} {offsetAt : Int → Offset}
    (h : set.Suits (some clock) found) (hclock : set.start.clock? clocks = .ok (some clock))
    (hshows : clock.Shows offsetAt) (hfirst : clock.TakesFirst offsetAt)
    (hs : Zone.IsSpaced offsetAt) (htime : set.start.hasTime = true)
    (hdays : set.duration.nominalDays = 0) (hlow : firstSecond + 259200 ≤ found.key.instant)
    (hhigh : found.key.instant + set.duration.exactSeconds ≤ lastSecond - 259200) : ∃ first,
      set.endOf clocks found = .ok ⟨first, true⟩ ∧ IsLeast (clock.shownAt
        (clock.toLocal (found.key.instant + set.duration.exactSeconds))) first := by
  obtain ⟨-, hseconds, -⟩ := Period.of_durationError? set.duration_ok
  obtain ⟨last, first, hlast, hkey, hleast⟩ := h.placed.exists_exactEnd hshows hfirst hs
    (h.hasTime.trans htime) hdays hseconds hlow hhigh
  exact ⟨first, (endOf_eq_ok_iff hclock h).2 ⟨last, hlast, hkey⟩, hleast⟩

end Exact

/-- A plain set whose occurrences last some hours, on the clock of a zone that changes
its offset two days apart or more, has in a window those occurrences of its whole
stream that reach into it up to the first instant that reads like their end. That is
on elapsed time where the end does not repeat a reading, as none does under one
offset. Occurrences three days from the ends of the calendar are meant. -/
theorem occurrences_elapsed {resolver : Resolver} {tzid : String} {zone : TimeZone}
    (hzone : resolver.lookup tzid = .ok zone)
    (hs : Zone.IsSpaced (zone.offsetAt resolver.database.clocks)) {set : RecurrenceSet}
    {wall : Int} (hstart : set.start = .time wall (.zoned tzid)) (hwall : Representable wall)
    (hplain : set.IsPlain) (hdays : set.duration.nominalDays = 0)
    (hseconds : 0 < set.duration.exactSeconds) {window : Window} (hw : window.IsProper)
    {whole : Occurrences} (hwhole : set.occurrences resolver.clocks .unbounded = .ok whole) :
    let clock := zone.clock resolver.database.clocks
    let offsetAt := zone.offsetAt resolver.database.clocks
    ∃ part, set.occurrences resolver.clocks window = .ok part ∧
      ((∀ one other, offsetAt one = offsetAt other) →
        ∀ instant, ¬ Zone.Repeats offsetAt instant) ∧
      ∀ occurrence ∈ successes whole.toList,
        let start := occurrence.key.instant
        let stop := start + set.duration.exactSeconds
        firstSecond + 259200 ≤ start → stop ≤ lastSecond - 259200 →
          (∃ first, IsLeast (clock.shownAt (clock.toLocal stop)) first ∧
            (occurrence ∈ successes part.toList ↔
              window.overlaps occurrence.key ⟨first, true⟩ = true)) ∧
          (¬ Zone.Repeats offsetAt stop →
            (occurrence ∈ successes part.toList ↔
              (∀ last ∈ window.stop, start < last) ∧ ∀ first ∈ window.start, first < stop)) := by
  intro clock offsetAt
  have hclock : set.start.clock? resolver.clocks = .ok (some clock) := by
    rw [hstart]
    simp only [DateTime.clock?, DateTime.form, Resolver.clocks, hzone]
    rfl
  have hA : set.start.InCalendar := hstart ▸ hwall
  have hshows : clock.Shows offsetAt := zone.clock_shows _
  have hfirst : clock.TakesFirst offsetAt := zone.clock_takesFirst _
  obtain ⟨part, hpart⟩ := exists_occurrences hwhole window
  obtain ⟨hopens, ho⟩ := opens hwhole
  obtain ⟨hopens', ho'⟩ := opens hpart
  refine ⟨part, hpart, fun hconst => not_repeats_of_const hconst, fun occurrence hmem => ?_⟩
  obtain ⟨found, _, hv, -, -, rfl⟩ := (hopens.mem_successes_iff hplain hA ho).1 hmem
  intro start stop hlow hhigh
  change firstSecond + 259200 ≤ found.key.instant at hlow
  change found.key.instant + set.duration.exactSeconds ≤ lastSecond - 259200 at hhigh
  have hsome : whole.clock = some clock := Except.ok.inj (hopens.clock_eq.symm.trans hclock)
  have hsuits := hsome ▸ hopens.suits hA (Candidate.of_last? hv.last).1
  have htime : set.start.hasTime = true := by
    rw [hstart]
    rfl
  obtain ⟨first, hend, hleast⟩ :=
    hsuits.exists_exactEnd hclock hshows hfirst hs htime hdays hlow hhigh
  -- The end is the first instant that reads so, and therefore no later than elapsed time says.
  have hlasts : first ≤ found.key.instant + set.duration.totalSeconds := by
    rw [Duration.totalSeconds, hdays, zero_mul, zero_add]
    exact hleast.2 (hshows.toLocal_inside (by omega) hhigh).1
  have hiff := mem_part_iff hplain hA hopens hopens' ho' hw hv hend (looksAt_of_overlaps hlasts)
  refine ⟨⟨first, hleast, hiff⟩, fun honce => ?_⟩
  obtain rfl := hshows.eq_of_isLeast_shownAt (by omega) hhigh honce hleast
  exact hiff.trans (Window.overlaps_eq_true_iff (Int.lt_add_of_pos_right _ hseconds))

/-- A resolver that knows a zone with a repeated hour. -/
def resolverRepeating : Resolver :=
  (Resolver.empty Atlas.database).register VTimezone.repeatingHour

/-- The clock of that zone. -/
def clockRepeating : Clock :=
  (TimeZone.described VTimezone.repeatingHour).clock resolverRepeating.database.clocks

/-- An event of two hours, every day from a reading in that zone on. -/
def twoHoursFrom (wall : Int) : RecurrenceSet where
  uid := "event"
  start := .time wall (.zoned "Once")
  duration := ⟨false, 0, 0, 2, 0, 0⟩
  rules := [.ofFrequency .daily]
  exclusionRules := []
  added := []
  excluded := []
  replaces := none
  duration_ok := rfl

section TwoHours

theorem isPlain_twoHoursFrom (wall : Int) : (twoHoursFrom wall).IsPlain := ⟨rfl, rfl, rfl⟩

theorem exactSeconds_twoHoursFrom (wall : Int) :
    (twoHoursFrom wall).duration.exactSeconds = 7200 := by
  simp [twoHoursFrom, Duration.exactSeconds, Duration.signed]

theorem clock?_twoHoursFrom (wall : Int) :
    (twoHoursFrom wall).start.clock? resolverRepeating.clocks = .ok (some clockRepeating) := rfl

variable {wall instant : Int} (hi : clockRepeating.toUtc wall = .ok instant)
include hi

theorem exists_occurrences_twoHoursFrom : ∃ whole,
    (twoHoursFrom wall).occurrences resolverRepeating.clocks .unbounded = .ok whole := by
  have hclock : resolverRepeating.clocks "Once" = .ok clockRepeating := rfl
  obtain ⟨run, hrun⟩ : ∃ run, Run.start resolverRepeating.clocks (.ofFrequency .daily)
      (.time wall (.zoned "Once")) = .ok run := by
    obtain ⟨_, -, hrun⟩ := Run.exists_start_zoned hclock
      (show (Pattern.ofFrequency .daily).ending = .never from rfl) wall
    exact ⟨_, hrun⟩
  have hrules : (twoHoursFrom wall).rules.mapM
      ((twoHoursFrom wall).runIn resolverRepeating.clocks .unbounded) = .ok [run] := by
    rw [mapM_eq_ok_iff]
    exact congrArg (fun one => [one]) ((runIn_unbounded _ _ _).trans hrun)
  unfold occurrences occurrencesAt
  simp only [bind_eq_ok_iff, pure_eq_ok_iff, orZone_eq_ok_iff]
  exact ⟨_, _, clock?_twoHoursFrom wall, ⟨instant, true⟩, map_eq_ok_iff.2 ⟨instant, hi, rfl⟩, [run], hrules, [], rfl,
    [], rfl, [], rfl, rfl⟩

/-- The event happens first at its start, and ends where its end is first shown. -/
theorem exists_visits_twoHoursFrom (hlow : firstSecond + 259200 ≤ instant)
    (hhigh : instant + 7200 ≤ lastSecond - 259200) : ∃ whole found first,
    (twoHoursFrom wall).occurrences resolverRepeating.clocks .unbounded = .ok whole ∧
    whole.Visits (.generated found) ∧ found.key = ⟨instant, true⟩ ∧
    (twoHoursFrom wall).endOf resolverRepeating.clocks found = .ok ⟨first, true⟩ ∧
    IsLeast (clockRepeating.shownAt (clockRepeating.toLocal (instant + 7200))) first := by
  obtain ⟨whole, hwhole⟩ := exists_occurrences_twoHoursFrom hi
  obtain ⟨hopens, ho⟩ := opens hwhole
  obtain ⟨found, hv, hk⟩ := hopens.exists_visits_start (isPlain_twoHoursFrom wall)
  have hsome : whole.clock = some clockRepeating :=
    Except.ok.inj (hopens.clock_eq.symm.trans (clock?_twoHoursFrom wall))
  have hkey : found.key = ⟨instant, true⟩ := by
    have hstart := hopens.startKey_eq
    rw [hsome] at hstart
    obtain ⟨_, hi', heq⟩ := map_eq_ok_iff.1 hstart
    obtain rfl := Except.ok.inj (hi.symm.trans hi')
    rw [hk, heq]
  have hA : (twoHoursFrom wall).start.InCalendar := by
    have hnear := TimeZone.clock_isNear _ _ wall instant hi
    change Representable wall
    unfold Representable
    omega
  obtain ⟨first, hend, hleast⟩ := Suits.exists_exactEnd
    (hsome ▸ hopens.suits hA (Candidate.of_last? hv.last).1) (clock?_twoHoursFrom wall)
    (TimeZone.clock_shows _ _) (TimeZone.clock_takesFirst _ _) (VTimezone.isSpaced_repeatingHour _) rfl rfl
    (by rw [hkey]; exact hlow) (by rw [hkey, exactSeconds_twoHoursFrom]; exact hhigh)
  rw [hkey, exactSeconds_twoHoursFrom] at hleast
  exact ⟨whole, found, first, hwhole, hv, hkey, hend, hleast⟩

end TwoHours

/-- The hours of a day from an instant on. -/
def dayFrom (start : Int) : Window := ⟨some start, some (start + 86400)⟩

theorem isProper_dayFrom {start : Int} (h : Representable start) : (dayFrom start).IsProper := by
  refine ⟨?_, ?_⟩
  · rintro _ ⟨⟩
    exact h
  · rintro _ ⟨⟩ _ ⟨⟩
    exact Int.le_add_of_nonneg_right (by decide)

theorem offsetAt_resolverRepeating : (TimeZone.described VTimezone.repeatingHour).offsetAt
    resolverRepeating.database.clocks = fun instant => if 7200 ≤ instant then .utc else .hourAhead :=
  VTimezone.offsetAt_repeatingHour _

/-- The event from midnight on is over before the hour repeats, and the window from an
hour later on has it. -/
theorem occurrences_elapsed_midnight : ∃ whole part occurrence,
    (twoHoursFrom 0).occurrences resolverRepeating.clocks .unbounded = .ok whole ∧
    (twoHoursFrom 0).occurrences resolverRepeating.clocks (dayFrom 0) = .ok part ∧
    occurrence ∈ successes whole.toList ∧ occurrence.key.instant = -3600 ∧
    occurrence ∈ successes part.toList := by
  have hi : clockRepeating.toUtc 0 = .ok (-3600) := by
    change VTimezone.repeatingHour.toUtc resolverRepeating.database.clocks 0 = _
    rw [VTimezone.toUtc, VTimezone.offsetAt_repeatingHour]
    rfl
  obtain ⟨whole, found, first, hwhole, hv, hkey, hend, -⟩ :=
    exists_visits_twoHoursFrom hi (by decide) (by decide)
  obtain ⟨part, hpart, -, hall⟩ := occurrences_elapsed
    (show resolverRepeating.lookup "Once" = .ok (.described VTimezone.repeatingHour) from rfl)
    (VTimezone.isSpaced_repeatingHour _) (show (twoHoursFrom 0).start = .time 0 (.zoned "Once") from rfl)
    (by decide) (isPlain_twoHoursFrom 0) rfl (by decide)
    (show (dayFrom 0).IsProper from isProper_dayFrom (by decide)) hwhole
  obtain ⟨hopens, ho⟩ := opens hwhole
  have hA : (twoHoursFrom 0).start.InCalendar := show Representable 0 by decide
  have hmem := (hopens.mem_successes_iff (isPlain_twoHoursFrom 0) hA ho).2
    ⟨found, _, hv, hend, rfl, rfl⟩
  have hstart : found.key.instant = -3600 := by rw [hkey]
  have honce : ¬ Zone.Repeats ((TimeZone.described VTimezone.repeatingHour).offsetAt
      resolverRepeating.database.clocks) 3600 := by
    rw [offsetAt_resolverRepeating]
    rintro ⟨earlier, hlt, -, heq⟩
    dsimp only at heq
    rw [if_neg (by omega), if_neg (by omega)] at heq
    omega
  have hiff := hall _ hmem
  simp only [occurrenceAt, hstart, exactSeconds_twoHoursFrom] at hiff
  refine ⟨whole, part, _, hwhole, hpart, hmem, hstart, ?_⟩
  refine ((hiff (by decide) (by decide)).2 honce).2 ⟨?_, ?_⟩
  · rintro _ ⟨⟩
    decide
  · rintro _ ⟨⟩
    decide

/-- The event from 01:30 on lasts until the second 02:30, but the window from the
second 02:00 on does not have it. -/
theorem not_occurrences_elapsed_repeated : ∃ whole part occurrence,
    resolverRepeating.lookup "Once" = .ok (.described VTimezone.repeatingHour) ∧
    Zone.IsSpaced (VTimezone.repeatingHour.offsetAt resolverRepeating.database.clocks) ∧
    (twoHoursFrom 5400).IsPlain ∧ (twoHoursFrom 5400).duration.nominalDays = 0 ∧
    (twoHoursFrom 5400).duration.exactSeconds = 7200 ∧
    (twoHoursFrom 5400).occurrences resolverRepeating.clocks .unbounded = .ok whole ∧
    (twoHoursFrom 5400).occurrences resolverRepeating.clocks (dayFrom 7200) = .ok part ∧
    occurrence ∈ successes whole.toList ∧ occurrence.key.instant = 1800 ∧
    occurrence ∉ successes part.toList := by
  have hi : clockRepeating.toUtc 5400 = .ok 1800 := by
    change VTimezone.repeatingHour.toUtc resolverRepeating.database.clocks 5400 = _
    rw [VTimezone.toUtc, VTimezone.offsetAt_repeatingHour]
    rfl
  obtain ⟨whole, found, first, hwhole, hv, hkey, hend, hleast⟩ :=
    exists_visits_twoHoursFrom hi (by decide) (by decide)
  obtain ⟨part, hpart⟩ := exists_occurrences hwhole (dayFrom 7200)
  obtain ⟨hopens, ho⟩ := opens hwhole
  obtain ⟨hopens', ho'⟩ := opens hpart
  have hplain := isPlain_twoHoursFrom 5400
  have hA : (twoHoursFrom 5400).start.InCalendar := show Representable 5400 by decide
  have hproper : (dayFrom 7200).IsProper := isProper_dayFrom (by decide)
  -- The second 02:30 reads like the first, at which the event is taken to end.
  have hfirst : first ≤ 5400 := by
    refine hleast.2 ⟨by decide, ?_⟩
    change VTimezone.repeatingHour.toLocal resolverRepeating.database.clocks 5400 =
      VTimezone.repeatingHour.toLocal resolverRepeating.database.clocks 9000
    rw [VTimezone.toLocal, VTimezone.toLocal, VTimezone.offsetAt_repeatingHour]
    decide
  have hout : (dayFrom 7200).overlaps found.key ⟨first, true⟩ = false := by
    refine Window.overlaps_eq_false (show 7200 ∈ (dayFrom 7200).start from rfl) ?_ ?_
    · rw [hkey]
      decide
    · change first ≤ 7200
      omega
  refine ⟨whole, part, _, rfl, VTimezone.isSpaced_repeatingHour _, hplain, rfl, rfl, hwhole, hpart,
    (hopens.mem_successes_iff hplain hA ho).2 ⟨found, _, hv, hend, rfl, rfl⟩, ?_, ?_⟩
  · change found.key.instant = 1800
    rw [hkey]
  · rw [mem_part_iff hplain hA hopens hopens' ho' hproper hv hend, hout]
    · exact Bool.false_ne_true
    · intro hover
      rw [hout] at hover
      cases hover

end RecurrenceSet
end Recurrence
