import Mathlib
import Recurrence.Proofs.Occurrence.Elapsed
import Recurrence.Proofs.Occurrence.Restrict
import Recurrence.Proofs.Zone.Onsets

/-! A single start taken away. What a stream shows as the start of an occurrence stands
for the place where the stream has it, even if the reading that a rule came to is
skipped; so taking that start away takes away just this occurrence. -/
namespace Recurrence
open Calendar Zone

/-- The set without what starts at a value. -/
def RecurrenceSet.excluding (set : RecurrenceSet) (value : DateTime) : RecurrenceSet :=
  { set with excluded := set.excluded ++ [value] }

/-- An occurrence as it is in another set. -/
def Occurrence.ofSet (set : RecurrenceSet) (occurrence : Occurrence) : Occurrence :=
  { occurrence with set }

namespace Occurrences

/-- The stream without what starts at a value that has a place. -/
def excluding (own : Occurrences) (value : DateTime) (key : TimelineKey) : Occurrences :=
  { own with set := own.set.excluding value, excluded := own.excluded ++ [key] }

theorem visits_excluding (own : Occurrences) (value : DateTime) (key : TimelineKey)
    (candidate : Candidate) : (own.excluding value key).Visits candidate ↔
      own.Visits candidate ∧ decide (candidate.key ≠ key) = true := by
  have htaken : (own.excluding value key).isTaken candidate.key = false ↔
      own.isTaken candidate.key = false ∧ decide (candidate.key ≠ key) = true := by
    simp [isTaken, excluding]
    tauto
  rw [visits_iff, visits_iff, htaken]
  constructor
  · rintro ⟨hlast, hstarts, ⟨hkept, hne⟩, hfree⟩
    exact ⟨⟨hlast, hstarts, hkept, hfree⟩, hne⟩
  · rintro ⟨⟨hlast, hstarts, hkept, hfree⟩, hne⟩
    exact ⟨hlast, hstarts, ⟨hkept, hne⟩, hfree⟩

theorem successes_excluding {own : Occurrences} (ho : own.Ordered) (value : DateTime)
    (key : TimelineKey) : successes (own.excluding value key).toList =
      ((successes own.toList).filter fun occurrence => occurrence.key ≠ key).map
        (Occurrence.ofSet (own.set.excluding value)) := by
  have ho' : (own.excluding value key).Ordered := ⟨ho.generated, ho.added, ho.exclusionRules⟩
  refine successes_of_visits ho ho' (fun other => other ≠ key) (visits_excluding own value key)
    fun candidate => ?_
  apply outcome_map
  · intro period id place
    rfl
  all_goals rfl

end Occurrences

/-- An element of a list with ascending keys parts what lies before it from what lies
behind. -/
theorem exists_split_of_ascending {occurrences : List Occurrence} {occurrence : Occurrence}
    (h : occurrences.Pairwise (·.key < ·.key)) (hmem : occurrence ∈ occurrences) :
    ∃ before after, occurrences = before ++ occurrence :: after ∧
      occurrences.filter (fun other => other.key ≠ occurrence.key) = before ++ after := by
  obtain ⟨before, after, rfl⟩ := List.append_of_mem hmem
  refine ⟨before, after, rfl, ?_⟩
  obtain ⟨-, hrest, hbefore⟩ := List.pairwise_append.1 h
  have hafter := (List.pairwise_cons.1 hrest).1
  rw [List.filter_append, List.filter_cons, if_neg (by simp)]
  congr 1
  · exact List.filter_eq_self.2 fun other ho => by
      simpa using (hbefore other ho occurrence List.mem_cons_self).ne
  · exact List.filter_eq_self.2 fun other ho => by simpa using (hafter other ho).ne'

namespace RecurrenceSet

variable {clocks : Clocks} {set : RecurrenceSet} {window : Window} {stream : Occurrences}

/-- The stream of the set without a start is its stream without the place of that. -/
theorem occurrencesAt_excluding {ordinal : Nat} {value : DateTime} {key : TimelineKey}
    (h : set.occurrencesAt clocks window ordinal = .ok stream) (hkey : value.key clocks = .ok key) :
    (set.excluding value).occurrencesAt clocks window ordinal =
      .ok (stream.excluding value key) := by
  unfold occurrencesAt at h ⊢
  simp only [bind_eq_ok_iff, pure_eq_ok_iff, orZone_eq_ok_iff, mapM_eq_ok_iff] at h ⊢
  obtain ⟨clock, hclock, startKey, hstart, rules, hrules, exclusionRules, hexclusion, placed,
    hplaced, excluded, hexcluded, rfl⟩ := h
  refine ⟨clock, hclock, startKey, hstart, rules, hrules, exclusionRules, hexclusion, placed,
    hplaced, excluded ++ [key], ?_, rfl⟩
  simp only [excluding, List.map_append, hexcluded, List.map_cons, List.map_nil, hkey]
  rfl

theorem RecursIn.exists_instanceAt {patterns : List Pattern} {found : Instance}
    (h : set.RecursIn clocks window patterns found) : ∃ (plan : Plan) (wall : Int),
      plan.anchor = set.start ∧ set.start.clock? clocks = .ok plan.clock ∧
        plan.instanceAt wall = .ok found := by
  obtain ⟨pattern, -, run, hrun, hf⟩ := recursIn_iff_between.1 h
  obtain ⟨hcursor, hopens⟩ := Run.opens hrun
  obtain ⟨step, hbetween, -⟩ := Run.between_eq hcursor hopens.resume_eq hopens.horizon_eq
    (set.resumeAt? window) window.stop
  rw [hbetween] at hf
  obtain ⟨wall, hwall⟩ := Plan.exists_wall_of_mem_items hf
  exact ⟨_, wall, hopens.anchor_eq, hopens.clock_eq, hwall⟩

/-- The value of an instance stands for its place if what the clock shows there does. -/
theorem key_of_instanceAt {plan : Plan} {wall : Int} {found : Instance}
    (hclock : plan.anchor.clock? clocks = .ok plan.clock) (h : plan.instanceAt wall = .ok found)
    (hback : ∀ clock, plan.clock = some clock → clock.toUtc wall = .ok found.key.instant →
      clock.toUtc (clock.toLocal found.key.instant) = .ok found.key.instant) :
    found.value.key clocks = .ok found.key := by
  have hform := Plan.form_of_instanceAt h
  rw [DateTime.key_eq_keyBy ((DateTime.clock?_congr hform).trans hclock)]
  unfold Plan.instanceAt at h
  split at h
  · obtain rfl := Except.ok.inj h
    rfl
  · next form clock hanchor hsome =>
    -- The value shows the instant of the reading, not the reading itself.
    obtain ⟨instant, hto, rfl⟩ := map_eq_ok_iff.1 h
    rw [hanchor] at hclock
    rw [hsome] at hclock
    obtain ⟨tzid, rfl, -⟩ := DateTime.clock?_eq_some_iff.1 hclock
    rw [hsome]
    exact map_eq_ok_iff.2 ⟨instant, hback clock hsome hto, rfl⟩
  · next form hanchor hnone =>
    obtain rfl := Except.ok.inj h
    rw [hnone]
    cases form <;> rfl

theorem Opens.key_of_mem_added (h : set.Opens clocks window stream) {one : Added}
    (hmem : one ∈ stream.added) : one.period.start.key clocks = .ok one.start := by
  obtain ⟨placed, hplaced, hadded⟩ := h.added
  rw [hadded] at hmem
  obtain ⟨period, -, hplace⟩ := (mem_of_map_eq_ok hplaced).1 (mem_added_of_placed hmem)
  obtain ⟨hperiod, hkey⟩ := of_place hplace
  rw [hperiod, extended_start]
  exact hkey

/-- Whether the zone of the start of a set, if it has one, changes its offset at most once
in two days. -/
def IsSpaced (resolver : Resolver) (set : RecurrenceSet) : Prop :=
  ∀ tzid zone, set.start.form = .zoned tzid → resolver.lookup tzid = .ok zone →
    Zone.IsSpaced (zone.offsetAt resolver.database.clocks)

theorem Opens.key_of_mem_generated {resolver : Resolver}
    (h : set.Opens resolver.clocks window stream) (hs : set.IsSpaced resolver) {found : Instance}
    (hmem : found ∈ stream.generated.flatMap Instances.all) (hinside : IsInside 2 found.key.instant) :
    found.value.key resolver.clocks = .ok found.key := by
  rcases (h.mem_generated_iff found).1 hmem with rfl | hrecurs
  · exact h.key_start
  obtain ⟨plan, wall, hanchor, hclock, hwall⟩ := hrecurs.exists_instanceAt
  refine key_of_instanceAt (hanchor ▸ hclock) hwall fun clock hsome hto => ?_
  rw [hsome] at hclock
  obtain ⟨tzid, hform, hzone⟩ := DateTime.clock?_eq_some_iff.1 hclock
  obtain ⟨zone, hlookup, rfl⟩ := Resolver.clocks_eq_ok_iff.1 hzone
  unfold IsInside at hinside
  exact (zone.clock_shows _).toUtc_toLocal (zone.clock_takesFirst _) (hs tzid zone hform hlookup) hto
    (by omega) (by omega)

theorem Opens.key_of_outcome {resolver : Resolver}
    (h : set.Opens resolver.clocks window stream) (hs : set.IsSpaced resolver)
    {candidate : Candidate} {occurrence : Occurrence} (hmem : candidate ∈ stream.offers)
    (hout : stream.outcome candidate = some (.ok occurrence))
    (hinside : IsInside 2 occurrence.key.instant) :
    occurrence.period.start.key resolver.clocks = .ok occurrence.key := by
  obtain ⟨stop, hbuild, -⟩ := Occurrences.outcome_eq_ok_iff.1 hout
  rcases List.mem_append.1 hmem with hgenerated | hdeclared
  · obtain ⟨found, hfound, rfl⟩ := List.mem_map.1 hgenerated
    simp only [Occurrences.build, bind_eq_ok_iff, pure_eq_ok_iff] at hbuild
    obtain ⟨_, -, _, -, _, rfl, heq⟩ := hbuild
    obtain rfl := (Prod.mk.inj heq).1
    exact h.key_of_mem_generated hs hfound hinside
  · obtain ⟨one, hone, rfl⟩ := List.mem_map.1 hdeclared
    obtain rfl := (Prod.mk.inj (Except.ok.inj hbuild)).1
    exact h.key_of_mem_added hone

/-- An occurrence is taken away by the start that it shows, and nothing else with it. -/
theorem occurrences_excluding {resolver : Resolver} {whole : Occurrences} {occurrence : Occurrence}
    (hs : set.IsSpaced resolver) (hwhole : set.occurrences resolver.clocks window = .ok whole)
    (hmem : occurrence ∈ successes whole.toList) (hinside : IsInside 2 occurrence.key.instant) :
    ∃ part before after,
      (set.excluding occurrence.period.start).occurrences resolver.clocks window = .ok part ∧
      successes whole.toList = before ++ occurrence :: after ∧
      successes part.toList =
        (before ++ after).map (Occurrence.ofSet (set.excluding occurrence.period.start)) := by
  obtain ⟨hopens, -⟩ := opens hwhole
  obtain ⟨candidate, hv, hout⟩ := (Occurrences.mem_successes_toList hopens.ordered occurrence).1 hmem
  have hkey := hopens.key_of_outcome hs (Candidate.of_last? hv.last).1 hout hinside
  obtain ⟨before, after, hsplit, hfilter⟩ :=
    exists_split_of_ascending (Occurrences.pairwise_successes hopens.ordered) hmem
  refine ⟨_, before, after, occurrencesAt_excluding hwhole hkey, hsplit, ?_⟩
  rw [Occurrences.successes_excluding hopens.ordered, hfilter, hopens.set_eq]

/-- The event from the repeated 02:30 on, without its first day. -/
theorem occurrences_excluding_repeated : ∃ whole occurrence part before after,
    (twoHoursFrom 9000).occurrences resolverRepeating.clocks .unbounded = .ok whole ∧
    occurrence.key.instant = 5400 ∧
    ((twoHoursFrom 9000).excluding occurrence.period.start).occurrences resolverRepeating.clocks
      .unbounded = .ok part ∧
    successes whole.toList = before ++ occurrence :: after ∧
    successes part.toList = (before ++ after).map
      (Occurrence.ofSet ((twoHoursFrom 9000).excluding occurrence.period.start)) := by
  have hi : clockRepeating.toUtc 9000 = .ok 5400 := by
    change VTimezone.repeatingHour.toUtc resolverRepeating.database.clocks 9000 = _
    rw [VTimezone.toUtc, VTimezone.offsetAt_repeatingHour]
    rfl
  obtain ⟨whole, found, first, hwhole, hv, hkey, hend, -⟩ :=
    exists_visits_twoHoursFrom hi (by decide) (by decide)
  obtain ⟨hopens, ho⟩ := opens hwhole
  have hmem := (hopens.mem_successes_iff (isPlain_twoHoursFrom 9000)
    (show Representable 9000 by decide) ho).2 ⟨found, _, hv, hend, rfl, rfl⟩
  have hinstant : found.key.instant = 5400 := by rw [hkey]
  have hs : (twoHoursFrom 9000).IsSpaced resolverRepeating := by
    rintro tzid zone ⟨⟩ hlookup
    obtain rfl : TimeZone.described VTimezone.repeatingHour = zone := Except.ok.inj hlookup
    exact VTimezone.isSpaced_repeatingHour _
  obtain ⟨part, before, after, hpart, hsplit, hleft⟩ := occurrences_excluding hs hwhole hmem
    (show IsInside 2 found.key.instant by rw [hinstant]; exact ⟨by decide, by decide⟩)
  exact ⟨whole, _, part, before, after, hwhole, hinstant, hpart, hsplit, hleft⟩

end RecurrenceSet
end Recurrence
