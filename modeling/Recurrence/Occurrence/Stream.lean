import Recurrence.Occurrence.Candidate
import Recurrence.Occurrence.RecurrenceSet
import Recurrence.Occurrence.Window
/-!
The occurrences of a set in a window, in order of their starts. The stream holds one instance of
each rule ready, takes away the earliest candidate with all others at its place, and gives it
unless it is excluded, replaced or outside the window. An occurrence that is declared singly comes
before one that a rule generates at the same place.
-/
namespace Recurrence
open Calendar

structure Occurrence where
  set : RecurrenceSet
  /-- The position of the set among those looked at together. -/
  ordinal : Nat
  period : Period
  /-- The value that names this instance; for the start of an override the one it replaces. -/
  recurrenceId : DateTime
  key : TimelineKey

/-- The state of a stream. -/
structure Occurrences where
  set : RecurrenceSet
  ordinal : Nat
  /-- The clock of the set's zone. -/
  clock : Option Clock
  window : Window
  /-- The place of the set's start. -/
  startKey : TimelineKey
  /-- The start of the set, and its rules. -/
  generated : List Instances
  /-- The single occurrences, ascending and without equal starts. -/
  added : List Added
  excluded : List TimelineKey
  exclusionRules : List Instances
  /-- Starts that overrides replace. -/
  replaced : List TimelineKey
  /-- The place from which on an override replaces everything. -/
  cutoff : Option TimelineKey
  /-- Failures of exclusion rules that have not been given yet. -/
  deferred : List Failure

namespace Occurrences

/-- The candidates held ready: the start and the rules in order, and the next single one. -/
def candidates (stream : Occurrences) : List Candidate :=
  (stream.generated.filterMap (·.head)).map .generated ++
    stream.added.head?.toList.map .declared

/-- The stream without the candidates at a place. -/
def dropAt (stream : Occurrences) (key : TimelineKey) : Occurrences :=
  { stream with
    generated := stream.generated.map (Lookahead.dropIf (Instance.isAt key))
    added := Added.dropAt key stream.added }

/-- Whether no occurrence may start at a place or later. -/
def endsBefore (stream : Occurrences) (key : TimelineKey) : Bool :=
  stream.window.isPast key || stream.cutoff.any (· ≤ key)

/-- The occurrence of a candidate, and where it ends. -/
def build (stream : Occurrences) (candidate : Candidate) :
    Except Failure (Occurrence × TimelineKey) := do
  let (period, stop) ←
    match candidate with
    | .declared added => pure (added.period, added.stop)
    | .generated found =>
      let stop ← found.value.addBy stream.clock stream.set.duration
      pure (Period.lasting found.value stream.set.duration, ← orZone (stop.keyBy stream.clock))
  let key := candidate.key
  let recurrenceId :=
    match stream.set.replaces with
    | some id => if key = stream.startKey then id.value else period.start
    | none => period.start
  return (⟨stream.set, stream.ordinal, period, recurrenceId, key⟩, stop)

/-- All that a stream has still to look at, weighed. -/
def weight (stream : Occurrences) : Nat :=
  Lookahead.weightAll stream.generated + stream.added.length +
    Lookahead.weightAll stream.exclusionRules + stream.deferred.length

theorem weight_dropAt_lt {stream : Occurrences} {candidate : Candidate}
    (h : candidate ∈ stream.candidates) : (stream.dropAt candidate.key).weight < stream.weight := by
  have hg := Lookahead.weightAll_dropIf_le (Instance.isAt candidate.key) stream.generated
  have ha := Added.length_dropAt_le candidate.key stream.added
  simp only [candidates, List.mem_append, List.mem_map] at h
  simp only [weight, dropAt]
  rcases h with ⟨found, hf, rfl⟩ | ⟨first, hf, rfl⟩
  · have := Lookahead.weightAll_dropIf_lt hf (show Instance.isAt found.key found = true by
      simp [Instance.isAt])
    simp only [Candidate.key] at *
    omega
  · have : (Added.dropAt first.start stream.added).length < stream.added.length := by
      cases hs : stream.added with
      | nil => simp [hs] at hf
      | cons head tail =>
        simp only [hs, List.head?_cons, Option.toList_some, List.mem_singleton] at hf
        subst hf
        simp [Added.dropAt]
    simp only [Candidate.key] at *
    omega

/-- The stream with its exclusion rules brought up to a place, and whether one of them takes that
place away. Failures on the way wait to be given. -/
def exclude (stream : Occurrences) (key : TimelineKey) : Bool × Occurrences :=
  let (errors, found, exclusionRules) := Instances.seekAll key stream.exclusionRules
  (found, { stream with exclusionRules, deferred := stream.deferred ++ errors })

theorem weight_exclude_le (stream : Occurrences) (key : TimelineKey) :
    (stream.exclude key).2.weight ≤ stream.weight := by
  have := Instances.weightAll_seekAll_le key stream.exclusionRules
  unfold exclude
  rcases hs : Instances.seekAll key stream.exclusionRules with ⟨errors, found, rules⟩
  simp only [hs] at this
  simp only [weight, List.length_append]
  omega

/-- Whether a start is taken away or replaced by single values. -/
def isTaken (stream : Occurrences) (key : TimelineKey) : Bool :=
  stream.excluded.contains key || stream.replaced.contains key

/-- A stream behind a candidate weighs less than before its rules were made ready. -/
theorem weight_behind_lt {stream : Occurrences} {generated : List Instances}
    {candidate : Candidate} (hf : (Lookahead.fillAll stream.generated).2 = generated)
    (hc : Candidate.earliest? { stream with generated }.candidates = some candidate) :
    ({ stream with generated }.dropAt candidate.key).weight < stream.weight := by
  have hw := Lookahead.weightAll_fillAll_le stream.generated
  rw [hf] at hw
  have := weight_dropAt_lt (Candidate.mem_of_earliest? hc)
  simp only [weight] at *
  omega

/-- The next item of a stream and the stream behind it. -/
def next? (stream : Occurrences) : Option (Except Failure Occurrence × Occurrences) :=
  match stream.deferred with
  | error :: deferred => some (.error error, { stream with deferred })
  | [] =>
    match _ : Lookahead.fillAll stream.generated with
    | (some error, generated) => some (.error error, { stream with generated })
    | (none, generated) =>
      match _ : Candidate.earliest? { stream with generated }.candidates with
      | none => none
      | some candidate =>
        if stream.endsBefore candidate.key then none
        else
          let behind := { stream with generated }.dropAt candidate.key
          if stream.isTaken candidate.key then behind.next?
          else
            let looked := behind.exclude candidate.key
            if looked.1 then looked.2.next?
            else
              match looked.2.build candidate with
              | .error error => some (.error error, looked.2)
              | .ok (occurrence, stop) =>
                if stream.window.overlaps candidate.key stop then some (.ok occurrence, looked.2)
                else looked.2.next?
termination_by stream.weight
decreasing_by
  · exact weight_behind_lt (by simp [*]) ‹_›
  · exact Nat.lt_of_le_of_lt (weight_exclude_le _ _) (weight_behind_lt (by simp [*]) ‹_›)
  · exact Nat.lt_of_le_of_lt (weight_exclude_le _ _) (weight_behind_lt (by simp [*]) ‹_›)

theorem weight_lt_of_next? {stream rest : Occurrences} {item : Except Failure Occurrence}
    (h : stream.next? = some (item, rest)) : rest.weight < stream.weight := by
  -- Every way on gives a failure away, makes a rule ready, or drops a candidate.
  fun_induction next? stream with
  | case1 stream error deferred hd =>
    simp only [Option.some.injEq, Prod.mk.injEq] at h
    simp [← h.2, weight, hd]
  | case2 stream _ error generated hf =>
    have := Lookahead.weightAll_lt_of_fillAll hf
    simp only [Option.some.injEq, Prod.mk.injEq] at h
    simp only [← h.2, weight]
    omega
  | case3 => simp at h
  | case4 => simp at h
  | case5 stream _ generated hf candidate hc _ behind _ ih =>
    exact Nat.lt_trans (ih h) (weight_behind_lt (by rw [hf]) hc)
  | case6 stream _ generated hf candidate hc _ behind _ looked _ ih =>
    exact Nat.lt_trans (Nat.lt_of_lt_of_le (ih h) (weight_exclude_le _ _))
      (weight_behind_lt (by rw [hf]) hc)
  | case7 stream _ generated hf candidate hc _ behind _ looked _ error _ =>
    simp only [Option.some.injEq, Prod.mk.injEq] at h
    exact h.2 ▸ Nat.lt_of_le_of_lt (weight_exclude_le _ _) (weight_behind_lt (by rw [hf]) hc)
  | case8 stream _ generated hf candidate hc _ behind _ looked _ occurrence stop _ _ =>
    simp only [Option.some.injEq, Prod.mk.injEq] at h
    exact h.2 ▸ Nat.lt_of_le_of_lt (weight_exclude_le _ _) (weight_behind_lt (by rw [hf]) hc)
  | case9 stream _ generated hf candidate hc _ behind _ looked _ occurrence stop _ _ ih =>
    exact Nat.lt_trans (Nat.lt_of_lt_of_le (ih h) (weight_exclude_le _ _))
      (weight_behind_lt (by rw [hf]) hc)

/-- All items of a stream. -/
def toList (stream : Occurrences) : List (Except Failure Occurrence) :=
  match _ : stream.next? with
  | none => []
  | some (item, rest) => item :: rest.toList
termination_by stream.weight
decreasing_by exact weight_lt_of_next? ‹_›

instance : Source Occurrences Occurrence where
  next? stream := stream.next?.map fun (item, rest) => (item, some rest)
  toList := toList
  toList_eq stream := by
    rw [toList]
    split <;> simp_all

end Occurrences
end Recurrence
