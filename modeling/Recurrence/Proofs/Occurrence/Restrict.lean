import Mathlib
import Recurrence.Proofs.Occurrence.Clean
import Recurrence.Proofs.Occurrence.Start

/-! A stream from which overrides take occurrences away gives what it would give
without them, but for the places they take, and fails no sooner. -/
namespace Recurrence

/-- An occurrence as it is where its set has another position. -/
def Occurrence.movedTo (ordinal : Nat) (occurrence : Occurrence) : Occurrence :=
  { occurrence with ordinal }

namespace Occurrences

/-- Streams of one clock, window and length build the same occurrences, but for the set
and the position that these name. -/
theorem outcome_map {own part : Occurrences} {rename : Occurrence → Occurrence}
    (hrename : ∀ period id key, rename ⟨own.set, own.ordinal, period, id, key⟩ =
      ⟨part.set, part.ordinal, period, id, key⟩)
    (hclock : part.clock = own.clock) (hwindow : part.window = own.window)
    (hstart : part.startKey = own.startKey) (hduration : part.set.duration = own.set.duration)
    (hreplaces : part.set.replaces = own.set.replaces) (candidate : Candidate) :
    part.outcome candidate = (own.outcome candidate).map (Except.map rename) := by
  have hbuild : part.build candidate =
      (own.build candidate).map fun (occurrence, stop) => (rename occurrence, stop) := by
    cases candidate with
    | declared added =>
      unfold build
      simp only [hstart, hreplaces, Except.map, bind, Except.bind, pure, Except.pure, hrename]
    | generated found =>
      unfold build
      simp only [hclock, hstart, hduration, hreplaces]
      cases found.value.addBy own.clock own.set.duration with
      | error error => rfl
      | ok stop =>
        cases hz : orZone (stop.keyBy own.clock) with
        | error error => simp [hz, bind, Except.bind, Except.map]
        | ok last => simp [hz, bind, Except.bind, Except.map, pure, Except.pure, hrename]
  unfold outcome
  rw [hbuild, hwindow]
  cases own.build candidate with
  | error error => rfl
  | ok built =>
    dsimp only [Except.map]
    by_cases ho : own.window.overlaps candidate.key built.2 = true
    · simp [ho, Except.map]
    · simp [ho]

/-- A stream that visits what is left of the candidates of another gives what is left of
its occurrences. -/
theorem successes_of_visits {own part : Occurrences} (ho : own.Ordered) (ho' : part.Ordered)
    (left : TimelineKey → Bool) {rename : Occurrence → Occurrence}
    (hvisits : ∀ candidate, part.Visits candidate ↔
      own.Visits candidate ∧ left candidate.key = true)
    (hout : ∀ candidate, part.outcome candidate = (own.outcome candidate).map (Except.map rename)) :
    successes part.toList = ((successes own.toList).filter (left ·.key)).map rename := by
  obtain ⟨visited, hascend, hmem, hsame, -⟩ := (sweeps_toList own).exists_visited ho
  obtain ⟨kept, hascend', hmem', hsame', -⟩ := (sweeps_toList part).exists_visited ho'
  have hkept : kept = visited.filter (left ·.key) := by
    refine hascend'.eq_of_mem_iff (hascend.filter _) fun candidate => ?_
    rw [List.mem_filter, hmem, hmem', hvisits]
  rw [hsame, hsame', hkept]
  clear hascend hmem hsame hascend' hmem' hsame' hkept
  induction visited with
  | nil => rfl
  | cons first others ih =>
    rw [List.filter_cons, List.filterMap_cons]
    cases hl : left first.key with
    | false =>
      rw [if_neg Bool.false_ne_true, ih]
      match hfirst : own.outcome first with
      | none => rfl
      | some (.error error) => rfl
      | some (.ok occurrence) => simp [key_of_outcome hfirst, hl]
    | true =>
      rw [if_pos rfl, List.filterMap_cons, hout first]
      match hfirst : own.outcome first with
      | none => exact ih
      | some (.error error) => exact ih
      | some (.ok occurrence) => simp [key_of_outcome hfirst, hl, ih, Except.map]

/-- The stream of a set at a position, without the places that overrides take. -/
def restricted (own : Occurrences) (ordinal : Nat) (replaced : List TimelineKey)
    (cutoff : Option TimelineKey) : Occurrences :=
  { own with ordinal, replaced, cutoff }

theorem Ordered.restricted {own : Occurrences} (h : own.Ordered) (ordinal : Nat)
    (replaced : List TimelineKey) (cutoff : Option TimelineKey) :
    (own.restricted ordinal replaced cutoff).Ordered :=
  ⟨h.generated, h.added, h.exclusionRules⟩

/-- Whether overrides leave a place. -/
def leaves (replaced : List TimelineKey) (cutoff : Option TimelineKey) (key : TimelineKey) : Bool :=
  !replaced.contains key && cutoff.all (key < ·)

section Restricted

variable {own : Occurrences} (hr : own.replaced = []) (hc : own.cutoff = none)
  {ordinal : Nat} {replaced : List TimelineKey} {cutoff : Option TimelineKey}
include hr hc

omit hr in
theorem endsBefore_restricted (key : TimelineKey) :
    (own.restricted ordinal replaced cutoff).endsBefore key = false ↔
      own.endsBefore key = false ∧ cutoff.all (key < ·) = true := by
  unfold endsBefore
  rw [hc]
  cases cutoff <;> simp [restricted]

omit hc in
theorem isTaken_restricted (key : TimelineKey) :
    (own.restricted ordinal replaced cutoff).isTaken key = false ↔
      own.isTaken key = false ∧ replaced.contains key = false := by
  unfold isTaken
  rw [hr]
  simp [restricted]

theorem visits_restricted (candidate : Candidate) :
    (own.restricted ordinal replaced cutoff).Visits candidate ↔
      own.Visits candidate ∧ leaves replaced cutoff candidate.key = true := by
  rw [visits_iff, visits_iff, endsBefore_restricted hc, isTaken_restricted hr, leaves,
    Bool.and_eq_true, Bool.not_eq_true']
  constructor
  · rintro ⟨hlast, ⟨hstarts, hcut⟩, ⟨hkept, hleft⟩, hfree⟩
    exact ⟨⟨hlast, hstarts, hkept, hfree⟩, hleft, hcut⟩
  · rintro ⟨⟨hlast, hstarts, hkept, hfree⟩, hleft, hcut⟩
    exact ⟨hlast, ⟨hstarts, hcut⟩, ⟨hkept, hleft⟩, hfree⟩

omit hr hc in
theorem outcome_restricted (own : Occurrences) (ordinal : Nat) (replaced : List TimelineKey)
    (cutoff : Option TimelineKey) (candidate : Candidate) :
    (own.restricted ordinal replaced cutoff).outcome candidate =
      (own.outcome candidate).map (Except.map (Occurrence.movedTo ordinal)) := by
  apply outcome_map
  · intro period id key
    rfl
  all_goals rfl

theorem successes_restricted (ho : own.Ordered) :
    successes (own.restricted ordinal replaced cutoff).toList =
      ((successes own.toList).filter (leaves replaced cutoff ·.key)).map
        (Occurrence.movedTo ordinal) :=
  successes_of_visits ho (ho.restricted ordinal replaced cutoff) (leaves replaced cutoff)
    (visits_restricted hr hc) (outcome_restricted own ordinal replaced cutoff)

theorem failures_restricted (ho : own.Ordered) (hclean : failures own.toList = []) :
    failures (own.restricted ordinal replaced cutoff).toList = [] := by
  have hs : own.Clean (own.endsBefore · = true) :=
    (sweeps_toList own).clean ho (fun _ h => h) (fun _ _ hle h => endsBefore_mono hle h)
      (arrives_of_failures hclean)
  have hclean' : (own.restricted ordinal replaced cutoff).Clean (own.endsBefore · = true) := by
    refine ⟨hs.deferred, hs.generated, ?_, ?_⟩
    · intro candidate hmem hpast htaken
      exact hs.exclusionRules candidate hmem hpast ((isTaken_restricted hr _).1 htaken).1
    · intro candidate hv hpast error herror
      rw [outcome_restricted] at herror
      obtain ⟨item, hitem, heq⟩ := Option.map_eq_some_iff.1 herror
      cases item with
      | error failure => exact hs.built candidate ((visits_restricted hr hc _).1 hv).1 hpast _ hitem
      | ok occurrence => cases heq
  refine (sweeps_toList _).failures_eq_nil (ho.restricted _ _ _) (fun key hkey => ?_) hclean'
  rw [((endsBefore_restricted hc key).1 hkey).1]
  exact Bool.false_ne_true

end Restricted

end Occurrences
end Recurrence
