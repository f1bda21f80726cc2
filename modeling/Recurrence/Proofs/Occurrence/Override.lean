import Mathlib
import Recurrence.Occurrence.Index
import Recurrence.Proofs.DateTime.Timeline
import Recurrence.Proofs.Occurrence.Merge
import Recurrence.Proofs.Occurrence.Restrict
import Recurrence.Zone.Atlas
import Recurrence.Zone.Resolver

/-! Overrides replace just what they name. Each set of an event gives its own
occurrences but for those that single overrides name and those from the next
override of a whole range on; a single override gives all of its own. -/
namespace Recurrence.RecurrenceIndex

/-- The places that the overrides among some sets name, as far as a range reaches. -/
def named (clocks : Clocks) (sets : List RecurrenceSet) (range : RecurrenceRange) :
    List TimelineKey :=
  sets.filterMap fun set => set.replaces.bind fun id =>
    if id.range = range then (id.value.key clocks).toOption else none

/-- Whether the overrides among some sets leave a set its occurrence at a place. -/
def leaves (clocks : Clocks) (sets : List RecurrenceSet) (set : RecurrenceSet)
    (key : TimelineKey) : Bool :=
  match set.replaces with
  | none =>
    !(named clocks sets .thisInstance).contains key &&
      (named clocks sets .thisAndFuture).all (key < ·)
  | some ⟨value, .thisAndFuture⟩ =>
    !(named clocks sets .thisInstance).contains key &&
      ((named clocks sets .thisAndFuture).filter fun later =>
        (value.key clocks).toOption.any (· < later)).all (key < ·)
  | some ⟨_, .thisInstance⟩ => true

/-- The occurrences that the overrides among some sets leave to a set. -/
def left (clocks : Clocks) (sets : List RecurrenceSet) (window : Window) (set : RecurrenceSet) :
    List Occurrence :=
  match set.occurrences clocks window with
  | .ok own => (successes own.toList).filter (leaves clocks sets set ·.key)
  | .error _ => []

/-- The sets of an event. -/
def setsOf (index : RecurrenceIndex) (uid : String) : List RecurrenceSet :=
  index.sets.filter (·.uid = uid)

theorem map_fst_event (index : RecurrenceIndex) (uid : String) :
    (index.event uid).map (·.1) = index.setsOf uid := by
  unfold event setsOf
  have h := List.filter_map (p := fun set : RecurrenceSet => decide (set.uid = uid)) (f := Prod.fst) (l := index.sets.zipIdx)
  rw [List.zipIdx_map_fst] at h
  exact h.symm

theorem pairwise_event (index : RecurrenceIndex) (uid : String) :
    (index.event uid).Pairwise fun left right => left.2 ≠ right.2 := by
  have hnodup := List.nodup_zipIdx_map_snd index.sets
  exact (List.pairwise_map.1 hnodup).filter _

/-- What overrides take from a set that itself replaces something or not: single
places, and all from some place on. -/
def restriction (single future : List TimelineKey) :
    Option (TimelineKey × RecurrenceRange) → List TimelineKey × Option TimelineKey
  | none => (single, TimelineKey.least? future)
  | some (own, .thisAndFuture) => (single, TimelineKey.least? (future.filter (own < ·)))
  | some (_, .thisInstance) => ([], none)

/-- The stream of one set of an event. -/
def memberOf (clocks : Clocks) (window : Window) (sets : List RecurrenceSet)
    (entry : RecurrenceSet × Nat) : Except Failure Occurrences := do
  let own ← entry.1.occurrences clocks window
  let place ← replacedBy clocks entry.1
  let (replaced, cutoff) :=
    restriction (named clocks sets .thisInstance) (named clocks sets .thisAndFuture) place
  return own.restricted entry.2 replaced cutoff

section Streams

variable {clocks : Clocks} {window : Window} {event : List (RecurrenceSet × Nat)}

theorem named_of_replacedBy {replaced : List (Option (TimelineKey × RecurrenceRange))}
    (h : event.map (fun entry => replacedBy clocks entry.1) = replaced.map .ok)
    (range : RecurrenceRange) :
    (replaced.filterMap fun entry =>
      entry.bind fun (key, reach) => if reach = range then some key else none) =
      named clocks (event.map (·.1)) range := by
  have hsame := map_eq_of_map_eq_ok h
    (g := fun entry => entry.1.replaces.bind fun id =>
      if id.range = range then (id.value.key clocks).toOption else none)
    (h := fun entry => entry.bind fun (key, reach) => if reach = range then some key else none) ?_
  · have hids := congrArg (List.filterMap id) hsame
    rw [List.filterMap_map, List.filterMap_map] at hids
    unfold named
    rw [List.filterMap_map]
    exact hids.symm
  · intro entry place hplace
    unfold replacedBy at hplace
    cases hr : entry.1.replaces with
    | none =>
      rw [hr] at hplace
      cases hplace
      rfl
    | some id =>
      rw [hr] at hplace
      simp only [orZone_eq_ok_iff, map_eq_ok_iff] at hplace
      obtain ⟨key, hkey, rfl⟩ := hplace
      simp [hkey, Except.toOption]

theorem occurrencesAt_eq (clocks : Clocks) (set : RecurrenceSet) (window : Window) (ordinal : Nat) :
    set.occurrencesAt clocks window ordinal =
      (set.occurrences clocks window).map fun own => { own with ordinal } := by
  change _ = (fun own : Occurrences => { own with ordinal }) <$> set.occurrencesAt clocks window 0
  unfold RecurrenceSet.occurrencesAt
  simp only [map_bind, map_pure]

theorem memberOf_eq (clocks : Clocks) (window : Window) (sets : List RecurrenceSet)
    (entry : RecurrenceSet × Nat) : memberOf clocks window sets entry = do
      let stream ← entry.1.occurrencesAt clocks window entry.2
      match ← replacedBy clocks entry.1 with
      | none => return { stream with
          replaced := named clocks sets .thisInstance
          cutoff := TimelineKey.least? (named clocks sets .thisAndFuture) }
      | some (own, .thisAndFuture) => return { stream with
          replaced := named clocks sets .thisInstance
          cutoff := TimelineKey.least?
            ((named clocks sets .thisAndFuture).filter (own < ·)) }
      | some (_, .thisInstance) => return stream := by
  unfold memberOf
  rw [occurrencesAt_eq]
  cases hown : entry.1.occurrences clocks window with
  | error error => rfl
  | ok own =>
    cases hplace : replacedBy clocks entry.1 with
    | error error => rfl
    | ok place =>
      match place with
      | none => rfl
      | some (own, .thisAndFuture) => rfl
      | some (_, .thisInstance) =>
        obtain ⟨hopens, -⟩ := RecurrenceSet.opens hown
        obtain ⟨_, _, _, _, _, _, _, _, _, replaced, cutoff, _⟩ := own
        obtain rfl : replaced = [] := hopens.replaced_eq
        obtain rfl : cutoff = none := hopens.cutoff_eq
        rfl

theorem memberOf_eq_ok_iff {sets : List RecurrenceSet} {entry : RecurrenceSet × Nat}
    {stream : Occurrences} : memberOf clocks window sets entry = .ok stream ↔
      ∃ own, entry.1.occurrences clocks window = .ok own ∧
        ∃ place, replacedBy clocks entry.1 = .ok place ∧
          own.restricted entry.2
            (restriction (named clocks sets .thisInstance) (named clocks sets .thisAndFuture) place).1
            (restriction (named clocks sets .thisInstance) (named clocks sets .thisAndFuture)
              place).2 = stream := by
  unfold memberOf
  simp only [bind_eq_ok_iff, pure_eq_ok_iff]

theorem streams_eq_ok_iff {members : List Occurrences} :
    streams clocks window event = .ok members ↔
      event.map (memberOf clocks window (event.map (·.1))) = members.map .ok := by
  unfold streams
  simp only [bind_eq_ok_iff, mapM_eq_ok_iff]
  constructor
  · rintro ⟨replaced, hreplaced, hmembers⟩
    rw [named_of_replacedBy hreplaced, named_of_replacedBy hreplaced] at hmembers
    rw [← hmembers]
    apply List.map_congr_left
    intro entry _
    exact memberOf_eq _ _ _ _
  · intro hmembers
    obtain ⟨replaced, hreplaced⟩ : ∃ replaced : List (Option (TimelineKey × RecurrenceRange)),
        event.map (fun entry => replacedBy clocks entry.1) = replaced.map .ok := by
      apply exists_map_eq_ok
      intro entry hmem
      have hentry : memberOf clocks window (event.map (·.1)) entry ∈ members.map .ok := by
        rw [← hmembers]
        exact List.mem_map_of_mem hmem
      obtain ⟨stream, -, hstream⟩ := List.mem_map.1 hentry
      obtain ⟨-, -, place, hplace, -⟩ := memberOf_eq_ok_iff.1 hstream.symm
      exact ⟨place, hplace⟩
    refine ⟨replaced, hreplaced, ?_⟩
    rw [named_of_replacedBy hreplaced, named_of_replacedBy hreplaced, ← hmembers]
    apply List.map_congr_left
    intro entry _
    exact (memberOf_eq _ _ _ _).symm

theorem leaves_restriction {sets : List RecurrenceSet} {set : RecurrenceSet}
    {place : Option (TimelineKey × RecurrenceRange)} (h : replacedBy clocks set = .ok place)
    (key : TimelineKey) :
    Occurrences.leaves
        (restriction (named clocks sets .thisInstance) (named clocks sets .thisAndFuture) place).1
        (restriction (named clocks sets .thisInstance) (named clocks sets .thisAndFuture) place).2
        key = leaves clocks sets set key := by
  unfold replacedBy at h
  unfold leaves Occurrences.leaves
  match hr : set.replaces with
  | none =>
    rw [hr] at h
    cases h
    simp only [restriction, TimelineKey.all_least?]
  | some ⟨value, range⟩ =>
    simp only [hr, orZone_eq_ok_iff, map_eq_ok_iff] at h
    obtain ⟨own, hown, rfl⟩ := h
    cases range with
    | thisInstance => rfl
    | thisAndFuture =>
      simp only [restriction, TimelineKey.all_least?, hown, Except.toOption, Option.any_some]

theorem successes_memberOf {sets : List RecurrenceSet} {entry : RecurrenceSet × Nat}
    {stream : Occurrences} (h : memberOf clocks window sets entry = .ok stream) :
    successes stream.toList = (left clocks sets window entry.1).map (.movedTo entry.2) := by
  obtain ⟨own, hown, place, hplace, rfl⟩ := memberOf_eq_ok_iff.1 h
  obtain ⟨hopens, -⟩ := RecurrenceSet.opens hown
  rw [Occurrences.successes_restricted hopens.replaced_eq hopens.cutoff_eq hopens.ordered, left,
    hown]
  simp only [leaves_restriction hplace]

theorem ordinal_of_memberOf {sets : List RecurrenceSet} {entry : RecurrenceSet × Nat}
    {stream : Occurrences} (h : memberOf clocks window sets entry = .ok stream)
    {occurrence : Occurrence} (hmem : .ok occurrence ∈ stream.toList) :
    occurrence.ordinal = entry.2 := by
  rw [← mem_successes, successes_memberOf h] at hmem
  obtain ⟨_, -, rfl⟩ := List.mem_map.1 hmem
  rfl

theorem apart_memberOf {sets : RecurrenceSet × Nat → List RecurrenceSet}
    {entries : List (RecurrenceSet × Nat)} {members : List Occurrences}
    (h : entries.map (fun entry => memberOf clocks window (sets entry) entry) = members.map .ok)
    (hne : entries.Pairwise fun left right => left.2 ≠ right.2) :
    MergedOccurrences.Apart (members.map Occurrences.toList) := by
  induction entries generalizing members with
  | nil =>
    obtain rfl := List.map_eq_nil_iff.1 h.symm
    exact List.Pairwise.nil
  | cons entry entries ih =>
    cases members with
    | nil => cases h
    | cons stream members =>
      obtain ⟨hstream, hmembers⟩ := List.cons.inj h
      obtain ⟨hentry, hentries⟩ := List.pairwise_cons.1 hne
      refine List.pairwise_cons.2 ⟨?_, ih hmembers hentries⟩
      rw [List.forall_mem_map]
      intro other hother one hone later hlater
      obtain ⟨entry', hentry', hstream'⟩ := (mem_of_map_eq_ok hmembers).1 hother
      rw [ordinal_of_memberOf hstream hone, ordinal_of_memberOf hstream' hlater]
      exact hentry entry' hentry'

theorem successes_streams {members : List Occurrences}
    (h : streams clocks window event = .ok members) :
    event.map (fun entry =>
      (left clocks (event.map (·.1)) window entry.1).map (.movedTo entry.2)) =
      members.map fun stream => successes stream.toList :=
  map_eq_of_map_eq_ok (streams_eq_ok_iff.1 h) fun _ _ hmember => (successes_memberOf hmember).symm

end Streams

section Event

variable {clocks : Clocks} {index : RecurrenceIndex} {uid : String} {window : Window}

theorem apart_streams {members : List Occurrences}
    (h : streams clocks window (index.event uid) = .ok members) :
    MergedOccurrences.Apart (members.map Occurrences.toList) :=
  apart_memberOf (streams_eq_ok_iff.1 h) (index.pairwise_event uid)

theorem toList_ofStreams {members : List Occurrences}
    (h : streams clocks window (index.event uid) = .ok members) :
    (MergedOccurrences.ofStreams members).toList.Perm (members.map Occurrences.toList).flatten := by
  have hlists := MergedOccurrences.toList_members_ofStreams members
  have hperm := MergedOccurrences.toList_perm (by rw [hlists]; exact apart_streams h)
  rwa [hlists] at hperm

/-- The occurrences of an event: of each set in turn those that the overrides
leave to it, at the position of the set. -/
def overridden (clocks : Clocks) (index : RecurrenceIndex) (uid : String) (window : Window) :
    List Occurrence :=
  (index.event uid).flatMap fun entry =>
    (left clocks (index.setsOf uid) window entry.1).map (.movedTo entry.2)

theorem successes_ofStreams {members : List Occurrences}
    (h : streams clocks window (index.event uid) = .ok members) :
    (successes (MergedOccurrences.ofStreams members).toList).Perm
      (overridden clocks index uid window) := by
  have hsame : overridden clocks index uid window =
      successes (members.map Occurrences.toList).flatten := by
    have hstreams := congrArg List.flatten (successes_streams h)
    rw [map_fst_event] at hstreams
    unfold overridden successes
    rw [List.filterMap_flatten, List.map_map]
    exact hstreams
  rw [hsame]
  exact (toList_ofStreams h).filterMap _

theorem map_overridden : (overridden clocks index uid window).map (Occurrence.movedTo 0) =
    (index.setsOf uid).flatMap fun set =>
      (left clocks (index.setsOf uid) window set).map (Occurrence.movedTo 0) := by
  rw [← map_fst_event, overridden, List.map_flatMap, List.flatMap_map]
  simp only [List.map_map, map_fst_event]
  rfl

theorem left_perm {sets others : List RecurrenceSet} (h : sets.Perm others) (set : RecurrenceSet) :
    left clocks sets window set = left clocks others window set := by
  have hnamed : ∀ range, (named clocks sets range).Perm (named clocks others range) :=
    fun range => h.filterMap _
  have hleaves : leaves clocks sets set = leaves clocks others set := by
    funext key
    unfold leaves
    simp only [(hnamed .thisInstance).contains_eq, (hnamed .thisAndFuture).all_eq,
      ((hnamed .thisAndFuture).filter _).all_eq]
  unfold left
  rw [hleaves]

theorem failures_ofStreams {members : List Occurrences}
    (h : streams clocks window (index.event uid) = .ok members)
    (hclean : ∀ set ∈ index.setsOf uid, ∀ own, set.occurrences clocks window = .ok own →
      failures own.toList = []) :
    failures (MergedOccurrences.ofStreams members).toList = [] := by
  apply List.eq_nil_iff_forall_not_mem.2
  intro error hmem
  rw [mem_failures, (toList_ofStreams h).mem_iff, List.mem_flatten] at hmem
  obtain ⟨_, hlist, hmem⟩ := hmem
  obtain ⟨stream, hstream, rfl⟩ := List.mem_map.1 hlist
  obtain ⟨entry, hentry, hmember⟩ := (mem_of_map_eq_ok (streams_eq_ok_iff.1 h)).1 hstream
  obtain ⟨own, hown, place, -, rfl⟩ := memberOf_eq_ok_iff.1 hmember
  obtain ⟨hopens, -⟩ := RecurrenceSet.opens hown
  have hset : entry.1 ∈ index.setsOf uid := map_fst_event index uid ▸ List.mem_map_of_mem hentry
  rw [← mem_failures, Occurrences.failures_restricted hopens.replaced_eq hopens.cutoff_eq
    hopens.ordered (hclean entry.1 hset own hown)] at hmem
  cases hmem

theorem exists_streams {members : List Occurrences}
    (h : streams clocks window (index.event uid) = .ok members) {sets : List RecurrenceSet}
    (hperm : sets.Perm index.sets) :
    ∃ others, streams clocks window (event ⟨sets⟩ uid) = .ok others := by
  simp only [streams_eq_ok_iff] at h ⊢
  apply exists_map_eq_ok
  intro entry hmem
  have hset : entry.1 ∈ (index.event uid).map (·.1) := by
    rw [map_fst_event]
    have hentry : entry.1 ∈ setsOf ⟨sets⟩ uid :=
      map_fst_event ⟨sets⟩ uid ▸ List.mem_map_of_mem hmem
    exact (hperm.filter _).mem_iff.1 hentry
  obtain ⟨other, hother, hfst⟩ := List.mem_map.1 hset
  have hmember : memberOf clocks window ((index.event uid).map (·.1)) other ∈
      members.map .ok := h ▸ List.mem_map_of_mem hother
  obtain ⟨stream, -, hstream⟩ := List.mem_map.1 hmember
  obtain ⟨own, hown, place, hplace, -⟩ := memberOf_eq_ok_iff.1 hstream.symm
  rw [hfst] at hown hplace
  exact ⟨_, memberOf_eq_ok_iff.2 ⟨own, hown, place, hplace, rfl⟩⟩

/-- An event gives what its overrides leave to its sets, each occurrence once and
whatever the order of the sets, and fails only where one of them does. -/
theorem occurrencesOf_overridden {merged : MergedOccurrences}
    (h : occurrencesOf clocks index uid window = .ok merged) :
    (∀ set ∈ index.setsOf uid, ∃ own, set.occurrences clocks window = .ok own) ∧
    (successes merged.toList).Perm (overridden clocks index uid window) ∧
    ((∀ set ∈ index.setsOf uid, ∀ own, set.occurrences clocks window = .ok own →
      failures own.toList = []) → failures merged.toList = []) ∧
    ∀ sets : List RecurrenceSet, sets.Perm index.sets → ∃ other,
      occurrencesOf clocks ⟨sets⟩ uid window = .ok other ∧
      ((successes other.toList).map (Occurrence.movedTo 0)).Perm
        ((successes merged.toList).map (Occurrence.movedTo 0)) := by
  obtain ⟨members, hmembers, rfl⟩ := map_eq_ok_iff.1 h
  refine ⟨?_, successes_ofStreams hmembers, failures_ofStreams hmembers, ?_⟩
  · intro set hset
    rw [← map_fst_event] at hset
    obtain ⟨entry, hentry, rfl⟩ := List.mem_map.1 hset
    have hmember := List.mem_map_of_mem (f := memberOf clocks window ((index.event uid).map (·.1)))
      hentry
    rw [streams_eq_ok_iff.1 hmembers] at hmember
    obtain ⟨stream, -, hstream⟩ := List.mem_map.1 hmember
    obtain ⟨own, hown, -⟩ := memberOf_eq_ok_iff.1 hstream.symm
    exact ⟨own, hown⟩
  · intro sets hperm
    obtain ⟨others, hothers⟩ := exists_streams hmembers hperm
    refine ⟨.ofStreams others, map_eq_ok_iff.2 ⟨others, hothers, rfl⟩, ?_⟩
    have hsets : (setsOf ⟨sets⟩ uid).Perm (index.setsOf uid) := hperm.filter _
    have hleft := (successes_ofStreams hothers).map (Occurrence.movedTo 0)
    have hright := (successes_ofStreams hmembers).map (Occurrence.movedTo 0)
    rw [map_overridden] at hleft hright
    simp only [left_perm hsets] at hleft
    exact hleft.trans ((hsets.flatMap_right _).trans hright.symm)

end Event

/-- A series of three, of which the first instance is moved, and the others from
the second on. -/
def movedSeries : RecurrenceIndex where
  sets := [
    { RecurrenceSet.single "event" (.time 0 .utc) with
      added := [.instant (.time 7200 .utc), .instant (.time 14400 .utc)] },
    { RecurrenceSet.single "event" (.time 3600 .utc) with
      replaces := some ⟨.time 0 .utc, .thisInstance⟩ },
    { RecurrenceSet.single "event" (.time 10800 .utc) with
      added := [.instant (.time 18000 .utc)]
      replaces := some ⟨.time 7200 .utc, .thisAndFuture⟩ }]

theorem occurrencesOf_movedSeries : ∃ merged,
    occurrencesOf (Resolver.empty Zone.Atlas.database).clocks movedSeries "event" .unbounded =
      .ok merged ∧
    (successes merged.toList).Perm (overridden (Resolver.empty Zone.Atlas.database).clocks
      movedSeries "event" .unbounded) := by
  refine ⟨_, rfl, ?_⟩
  exact (occurrencesOf_overridden rfl).2.1

end Recurrence.RecurrenceIndex
