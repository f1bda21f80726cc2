import Mathlib
import Recurrence.Occurrence.Stream
import Recurrence.Proofs.Failure

/-! A stream as a sweep over its candidates, step by step: a failure is given, or
the earliest candidate is visited, or the sweep is over. -/
namespace Recurrence.Occurrences

abbrev Item := Except Failure Occurrence

/-- What a stream gives for a candidate that is not taken away. -/
def outcome (stream : Occurrences) (candidate : Candidate) : Option Item :=
  match stream.build candidate with
  | .error error => some (.error error)
  | .ok (occurrence, stop) =>
    if stream.window.overlaps candidate.key stop then some (.ok occurrence) else none

theorem of_build {stream : Occurrences} {candidate : Candidate} {occurrence : Occurrence}
    {stop : TimelineKey} (h : stream.build candidate = .ok (occurrence, stop)) :
    occurrence.set = stream.set ∧ occurrence.key = candidate.key := by
  unfold build at h
  cases candidate with
  | generated found =>
    simp only [bind_eq_ok_iff, pure_eq_ok_iff] at h
    obtain ⟨_, -, _, -, _, -, heq⟩ := h
    cases heq
    exact ⟨rfl, rfl⟩
  | declared added =>
    simp only [bind_eq_ok_iff, pure_eq_ok_iff] at h
    obtain ⟨_, -, heq⟩ := h
    cases heq
    exact ⟨rfl, rfl⟩

theorem of_outcome {stream : Occurrences} {candidate : Candidate} {occurrence : Occurrence}
    (h : stream.outcome candidate = some (.ok occurrence)) :
    occurrence.set = stream.set ∧ occurrence.key = candidate.key := by
  unfold outcome at h
  split at h
  · cases h
  · next hbuild =>
    split at h
    · cases h
      exact of_build hbuild
    · cases h

theorem key_of_outcome {stream : Occurrences} {candidate : Candidate} {occurrence : Occurrence}
    (h : stream.outcome candidate = some (.ok occurrence)) : occurrence.key = candidate.key :=
  (of_outcome h).2

/-- What a stream gives for a candidate behind which it stands, and the stream
that goes on. -/
def visit (behind : Occurrences) (candidate : Candidate) : Option Item × Occurrences :=
  if behind.isTaken candidate.key then (none, behind)
  else
    let looked := behind.exclude candidate.key
    (if looked.1 then none else looked.2.outcome candidate, looked.2)

/-- The items of a stream, step by step. -/
inductive Sweeps : Occurrences → List Item → Prop
  | deferred {stream : Occurrences} {error : Failure} {later : List Failure} {items : List Item}
      (hd : stream.deferred = error :: later) (rest : Sweeps { stream with deferred := later } items) :
      Sweeps stream (.error error :: items)
  | failed {stream : Occurrences} {error : Failure} {generated : List Instances} {items : List Item}
      (hd : stream.deferred = []) (hf : Lookahead.fillAll stream.generated = (some error, generated))
      (rest : Sweeps { stream with generated } items) : Sweeps stream (.error error :: items)
  | done {stream : Occurrences} {generated : List Instances} (hd : stream.deferred = [])
      (hf : Lookahead.fillAll stream.generated = (none, generated))
      (hc : Candidate.earliest? { stream with generated }.candidates = none) : Sweeps stream []
  | ended {stream : Occurrences} {generated : List Instances} {candidate : Candidate}
      (hd : stream.deferred = []) (hf : Lookahead.fillAll stream.generated = (none, generated))
      (hc : Candidate.earliest? { stream with generated }.candidates = some candidate)
      (he : stream.endsBefore candidate.key = true) : Sweeps stream []
  | visited {stream : Occurrences} {generated : List Instances} {candidate : Candidate}
      {items : List Item} (hd : stream.deferred = [])
      (hf : Lookahead.fillAll stream.generated = (none, generated))
      (hc : Candidate.earliest? { stream with generated }.candidates = some candidate)
      (he : stream.endsBefore candidate.key = false)
      (rest : Sweeps (visit ({ stream with generated }.dropAt candidate.key) candidate).2 items) :
      Sweeps stream
        ((visit ({ stream with generated }.dropAt candidate.key) candidate).1.toList ++ items)

theorem toList_of_next? {stream rest : Occurrences} {item : Item}
    (h : stream.next? = some (item, rest)) : stream.toList = item :: rest.toList := by
  rw [toList]
  split <;> simp_all

theorem toList_of_next?_none {stream : Occurrences} (h : stream.next? = none) :
    stream.toList = [] := by
  rw [toList]
  split <;> simp_all

theorem toList_congr {left right : Occurrences} (h : left.next? = right.next?) :
    left.toList = right.toList := by
  cases hr : right.next? with
  | none => rw [toList_of_next?_none hr, toList_of_next?_none (h.trans hr)]
  | some pair => rw [toList_of_next? hr, toList_of_next? (h.trans hr)]

theorem next?_of_deferred {stream : Occurrences} {error : Failure} {later : List Failure}
    (hd : stream.deferred = error :: later) :
    stream.next? = some (.error error, { stream with deferred := later }) := by
  rw [next?]
  simp only [hd]

theorem next?_of_failed {stream : Occurrences} {error : Failure} {generated : List Instances}
    (hd : stream.deferred = []) (hf : Lookahead.fillAll stream.generated = (some error, generated)) :
    stream.next? = some (.error error, { stream with generated }) := by
  rw [next?]
  split
  · next hcons => simp [hd] at hcons
  · split
    · next hs =>
      rw [hf] at hs
      cases hs
      rfl
    · next hs => simp [hf] at hs

theorem next?_of_ready {stream : Occurrences} {generated : List Instances} (hd : stream.deferred = [])
    (hf : Lookahead.fillAll stream.generated = (none, generated)) : stream.next? =
      match Candidate.earliest? { stream with generated }.candidates with
      | none => none
      | some candidate =>
        if stream.endsBefore candidate.key then none
        else
          match visit ({ stream with generated }.dropAt candidate.key) candidate with
          | (none, rest) => rest.next?
          | (some item, rest) => some (item, rest) := by
  rw [next?]
  split
  · next hcons => simp [hd] at hcons
  · split
    · next hs => simp [hf] at hs
    · next one hs =>
      obtain rfl : one = generated := by simpa [hf] using hs.symm
      split
      · next hc => rw [hc]
      · next candidate hc =>
        rw [hc]
        by_cases he : stream.endsBefore candidate.key = true
        · simp only [he, if_true]
        · simp only [he]
          generalize hbehind : { stream with generated := one }.dropAt candidate.key = behind
          have htaken : behind.isTaken candidate.key = stream.isTaken candidate.key := hbehind ▸ rfl
          have hwindow : (behind.exclude candidate.key).2.window = stream.window := hbehind ▸ rfl
          rw [visit, htaken]
          by_cases ht : stream.isTaken candidate.key = true
          · simp [ht]
          · by_cases hx : (behind.exclude candidate.key).1 = true
            · simp [ht, hx]
            · unfold outcome
              cases hb : (behind.exclude candidate.key).2.build candidate with
              | error error => simp [ht, hx, hb]
              | ok pair =>
                obtain ⟨occurrence, stop⟩ := pair
                by_cases ho : stream.window.overlaps candidate.key stop = true
                · simp [ht, hx, hb, hwindow, ho]
                · simp [ht, hx, hb, hwindow, ho]

theorem toList_of_visit {stream : Occurrences} {generated : List Instances} {candidate : Candidate}
    (hd : stream.deferred = []) (hf : Lookahead.fillAll stream.generated = (none, generated))
    (hc : Candidate.earliest? { stream with generated }.candidates = some candidate)
    (he : stream.endsBefore candidate.key = false) : stream.toList =
      (visit ({ stream with generated }.dropAt candidate.key) candidate).1.toList ++
        (visit ({ stream with generated }.dropAt candidate.key) candidate).2.toList := by
  have hn := next?_of_ready hd hf
  simp only [hc, he, Bool.false_eq_true, if_false] at hn
  generalize visit ({ stream with generated }.dropAt candidate.key) candidate = visited at hn ⊢
  obtain ⟨_ | item, rest⟩ := visited
  · exact toList_congr hn
  · exact toList_of_next? hn

theorem weight_visit_le (behind : Occurrences) (candidate : Candidate) :
    (visit behind candidate).2.weight ≤ behind.weight := by
  unfold visit
  split
  · exact le_rfl
  · exact weight_exclude_le behind candidate.key

/-- Every stream is the sweep that its list says. -/
theorem sweeps_toList (stream : Occurrences) : stream.Sweeps stream.toList := by
  -- The list of a stream is made of what it gives first and of the list of a lighter stream.
  induction hw : stream.weight using Nat.strong_induction_on generalizing stream with
  | _ weight ih =>
    cases hd : stream.deferred with
    | cons error later =>
      have hn := next?_of_deferred hd
      rw [toList_of_next? hn]
      exact .deferred hd (ih _ (hw ▸ weight_lt_of_next? hn) _ rfl)
    | nil =>
      rcases hf : Lookahead.fillAll stream.generated with ⟨_ | error, generated⟩
      · cases hc : Candidate.earliest? { stream with generated }.candidates with
        | none =>
          have hn := next?_of_ready hd hf
          rw [hc] at hn
          rw [toList_of_next?_none hn]
          exact .done hd hf hc
        | some candidate =>
          cases he : stream.endsBefore candidate.key with
          | true =>
            have hn := next?_of_ready hd hf
            simp only [hc, he, if_true] at hn
            rw [toList_of_next?_none hn]
            exact .ended hd hf hc he
          | false =>
            rw [toList_of_visit hd hf hc he]
            refine .visited hd hf hc he (ih _ ?_ _ rfl)
            exact hw ▸ (weight_visit_le _ _).trans_lt (weight_behind_lt (congrArg Prod.snd hf) hc)
      · have hn := next?_of_failed hd hf
        rw [toList_of_next? hn]
        exact .failed hd hf (ih _ (hw ▸ weight_lt_of_next? hn) _ rfl)

theorem Sweeps.eq_toList {stream : Occurrences} {items : List Item} (h : stream.Sweeps items) :
    items = stream.toList := by
  induction h with
  | deferred hd _ ih => rw [toList_of_next? (next?_of_deferred hd), ih]
  | failed hd hf _ ih => rw [toList_of_next? (next?_of_failed hd hf), ih]
  | done hd hf hc => rw [toList_of_next?_none (by rw [next?_of_ready hd hf, hc])]
  | ended hd hf hc he =>
    rw [toList_of_next?_none (by rw [next?_of_ready hd hf, hc]; simp only [he, if_true])]
  | visited hd hf hc he _ ih => rw [toList_of_visit hd hf hc he, ih]

end Recurrence.Occurrences
