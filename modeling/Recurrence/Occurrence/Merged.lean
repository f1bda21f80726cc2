import Recurrence.Occurrence.Stream
/-!
Streams of several sets as one, in order of starts. At one place the sets follow their positions.
-/
namespace Recurrence

/-- Whether an occurrence comes before another. -/
def Occurrence.precedes (left right : Occurrence) : Bool :=
  left.key < right.key || (left.key = right.key && left.ordinal < right.ordinal)

/-- The first of some occurrences by that order, of equal ones the first in the list. -/
def Occurrence.first? : List Occurrence → Option Occurrence
  | [] => none
  | occurrence :: others =>
    match first? others with
    | some other => if other.precedes occurrence then some other else some occurrence
    | none => some occurrence

theorem Occurrence.mem_of_first? {occurrences : List Occurrence} {occurrence : Occurrence}
    (h : first? occurrences = some occurrence) : occurrence ∈ occurrences := by
  induction occurrences generalizing occurrence with
  | nil => simp [first?] at h
  | cons head others ih =>
    unfold first? at h
    split at h
    · next other ho =>
      split at h
      · exact List.mem_cons_of_mem _ (ih (Option.some.inj h ▸ ho))
      · exact Option.some.inj h ▸ List.mem_cons_self
    · exact Option.some.inj h ▸ List.mem_cons_self

/-- Whether an occurrence comes from the set at a position. -/
def Occurrence.isFrom (ordinal : Nat) (occurrence : Occurrence) : Bool :=
  occurrence.ordinal = ordinal

/-- Streams of sets at different positions, each with one occurrence held ready. -/
structure MergedOccurrences where
  members : List (Lookahead Occurrences Occurrence)

namespace MergedOccurrences

def ofStreams (streams : List Occurrences) : MergedOccurrences := ⟨streams.map .ofSource⟩

/-- The occurrences held ready. -/
def heads (merged : MergedOccurrences) : List Occurrence := merged.members.filterMap (·.head)

/-- The next item of the merged streams and the streams behind it. -/
def next? (merged : MergedOccurrences) :
    Option (Except Failure Occurrence × MergedOccurrences) :=
  match Lookahead.fillAll merged.members with
  | (some error, members) => some (.error error, ⟨members⟩)
  | (none, members) =>
    (Occurrence.first? (heads ⟨members⟩)).map fun occurrence =>
      (.ok occurrence, ⟨members.map (Lookahead.dropIf (Occurrence.isFrom occurrence.ordinal))⟩)

/-- All that the streams have still to give, weighed. -/
def weight (merged : MergedOccurrences) : Nat := Lookahead.weightAll merged.members

theorem weight_lt_of_next? {merged rest : MergedOccurrences} {item : Except Failure Occurrence}
    (h : merged.next? = some (item, rest)) : rest.weight < merged.weight := by
  unfold next? at h
  split at h
  · next hf =>
    simp only [Option.some.injEq, Prod.mk.injEq] at h
    exact h.2 ▸ Lookahead.weightAll_lt_of_fillAll hf
  · next members hf =>
    have hw := Lookahead.weightAll_fillAll_le merged.members
    simp only [hf] at hw
    obtain ⟨occurrence, ho, hp⟩ := Option.map_eq_some_iff.1 h
    simp only [Prod.mk.injEq] at hp
    have := Lookahead.weightAll_dropIf_lt (Occurrence.mem_of_first? ho)
      (show Occurrence.isFrom occurrence.ordinal occurrence = true by simp [Occurrence.isFrom])
    simp only [weight, ← hp.2] at this ⊢
    omega

/-- All items of the merged streams. -/
def toList (merged : MergedOccurrences) : List (Except Failure Occurrence) :=
  match _ : merged.next? with
  | none => []
  | some (item, rest) => item :: rest.toList
termination_by merged.weight
decreasing_by exact weight_lt_of_next? ‹_›

instance : Source MergedOccurrences Occurrence where
  next? merged := merged.next?.map fun (item, rest) => (item, some rest)
  toList := toList
  toList_eq merged := by
    rw [toList]
    split <;> simp_all

end MergedOccurrences
end Recurrence
