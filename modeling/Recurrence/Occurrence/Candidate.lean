import Recurrence.Period
import Recurrence.Rule.Run
/-!
What may become an occurrence: an instance that a rule generates or a single one that is declared.
Of candidates at one place the last wins, and a declared one comes last. Exclusion rules are
brought up to a place by `Instances.seek`.
-/
namespace Recurrence

/-- A single occurrence with its places on the timeline. -/
structure Added where
  period : Period
  start : TimelineKey
  stop : TimelineKey

/-- What may become an occurrence. -/
inductive Candidate where
  | generated (found : Instance)
  | declared (added : Added)

def Candidate.key : Candidate → TimelineKey
  | generated found => found.key
  | declared added => added.start

/-- The earliest of some candidates, of equal ones the last. -/
def Candidate.earliest? : List Candidate → Option Candidate
  | [] => none
  | candidate :: others =>
    match earliest? others with
    | some other => if other.key ≤ candidate.key then some other else some candidate
    | none => some candidate

theorem Candidate.mem_of_earliest? {candidates : List Candidate} {candidate : Candidate}
    (h : earliest? candidates = some candidate) : candidate ∈ candidates := by
  induction candidates generalizing candidate with
  | nil => simp [earliest?] at h
  | cons first others ih =>
    unfold earliest? at h
    split at h
    · next other ho =>
      split at h
      · exact List.mem_cons_of_mem _ (ih (Option.some.inj h ▸ ho))
      · exact Option.some.inj h ▸ List.mem_cons_self
    · exact Option.some.inj h ▸ List.mem_cons_self

/-- Whether an instance lies at a place. -/
def Instance.isAt (key : TimelineKey) (found : Instance) : Bool := found.key = key

abbrev Instances := Lookahead Run Instance

/-- Drops instances before a place, so that the one held ready is at that place or later. Failures
on the way are given back in order. -/
def Instances.seek (key : TimelineKey) (ahead : Instances) : List Failure × Instances :=
  match ahead with
  | ⟨some found, rest⟩ => if found.key < key then seek key ⟨none, rest⟩ else ([], ahead)
  | ⟨none, none⟩ => ([], ahead)
  | ⟨none, some run⟩ =>
    match _ : Source.next? run with
    | none => ([], ⟨none, none⟩)
    | some (.ok found, rest) => seek key ⟨some found, rest⟩
    | some (.error error, rest) =>
      let (errors, ahead) := seek key ⟨none, rest⟩
      (error :: errors, ahead)
termination_by ahead.weight
decreasing_by
  · simp [Lookahead.weight]
  · simp [Lookahead.weight, Source.toList_of_next? ‹_›]
    omega
  · simp [Lookahead.weight, Source.toList_of_next? ‹_›]

/-- Seeks a place in several rules, and says whether one of them has an instance there. -/
def Instances.seekAll (key : TimelineKey) : List Instances → List Failure × Bool × List Instances
  | [] => ([], false, [])
  | ahead :: others =>
    let (errors, ahead) := ahead.seek key
    let (laterErrors, found, others) := seekAll key others
    (errors ++ laterErrors, ahead.head.any (Instance.isAt key) || found, ahead :: others)

theorem Instances.weight_seek_le (key : TimelineKey) (ahead : Instances) :
    (ahead.seek key).1.length + (ahead.seek key).2.weight ≤ ahead.weight := by
  fun_induction Instances.seek key ahead with
  | case1 found rest _ ih => simp only [Lookahead.weight] at ih ⊢; simp at ih ⊢; omega
  | case2 => simp
  | case3 => simp
  | case4 => simp [Lookahead.weight]
  | case5 run found rest hn ih =>
    simp only [Lookahead.weight, Source.restList_some, Source.toList_of_next? hn] at ih ⊢
    simp at ih ⊢
    omega
  | case6 run error rest hn errors next he ih =>
    simp only [he] at ih
    simp only [Lookahead.weight, Source.restList_some, Source.toList_of_next? hn] at ih ⊢
    simp at ih ⊢
    omega

theorem Instances.weightAll_seekAll_le (key : TimelineKey) (aheads : List Instances) :
    (seekAll key aheads).1.length + Lookahead.weightAll (seekAll key aheads).2.2 ≤
      Lookahead.weightAll aheads := by
  induction aheads with
  | nil => simp [seekAll]
  | cons ahead others ih =>
    have hw := ahead.weight_seek_le key
    unfold seekAll
    rcases hs : ahead.seek key with ⟨errors, next⟩
    rcases hr : seekAll key others with ⟨laterErrors, found, rest⟩
    simp only [hs] at hw
    simp only [hr, Lookahead.weightAll, List.length_append] at ih ⊢
    omega

/-- Single occurrences without the first one, if it starts at a place. -/
def Added.dropAt (key : TimelineKey) : List Added → List Added
  | [] => []
  | first :: others => if first.start = key then others else first :: others

theorem Added.length_dropAt_le (key : TimelineKey) (added : List Added) :
    (dropAt key added).length ≤ added.length := by
  unfold dropAt
  split
  · exact Nat.le_refl _
  · split <;> simp

end Recurrence
