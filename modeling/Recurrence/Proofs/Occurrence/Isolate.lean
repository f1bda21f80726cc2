import Mathlib
import Recurrence.Proofs.Occurrence.Deal

/-! Events do not interfere. What is given for all events is dealt out to them, each gets what it
gives alone, and what it gives alone depends on its own sets. -/
namespace Recurrence

namespace RecurrenceIndex

variable {clocks : Clocks} {index : RecurrenceIndex} {window : Window} {uid : String}

theorem streams_of_streamOf {members : List Occurrences}
    (h : (index.event uid).map (index.streamOf clocks window) = members.map .ok) :
    streams clocks window (index.event uid) = .ok members := by
  rw [streams_eq_ok_iff, map_fst_event, ← map_streamOf_event, h]

theorem flatMap_ite {uids : List String} (hnodup : uids.Nodup) (uid : String)
    (entries : List (RecurrenceSet × Nat)) :
    uids.flatMap (fun other => if other = uid then entries else []) =
      if uid ∈ uids then entries else [] := by
  induction uids with
  | nil => rfl
  | cons first others ih =>
    obtain ⟨hfirst, hothers⟩ := List.nodup_cons.1 hnodup
    rw [List.flatMap_cons, ih hothers]
    by_cases heq : first = uid
    · subst heq
      simp [hfirst]
    · simp [heq, Ne.symm heq]

theorem filter_events (index : RecurrenceIndex) (uid : String) :
    (index.uids.flatMap index.event).filter (fun entry => entry.1.uid = uid) = index.event uid := by
  have hevent : ∀ other, (index.event other).filter (fun entry => entry.1.uid = uid) =
      if other = uid then index.event uid else [] := by
    intro other
    split
    · next heq =>
      subst heq
      exact List.filter_eq_self.2 fun entry hentry => (List.mem_filter.1 hentry).2
    · next hne =>
      refine List.filter_eq_nil_iff.2 fun entry hentry huid => hne ?_
      rw [← of_decide_eq_true huid, ← of_decide_eq_true (List.mem_filter.1 hentry).2]
  rw [List.filter_flatMap]
  simp only [hevent]
  rw [flatMap_ite (show index.uids.Nodup from Plan.nodup_eraseDups _)]
  split
  · rfl
  · next hnone =>
    refine (List.filter_eq_nil_iff.2 fun entry hentry huid => hnone ?_).symm
    rw [← of_decide_eq_true huid]
    exact uid_mem_uids hentry

theorem exists_members_of_events {streams : List Occurrences}
    (h : (index.uids.flatMap index.event).map (index.streamOf clocks window) = streams.map .ok)
    (uid : String) : ∃ members : List Occurrences,
      (index.event uid).map (index.streamOf clocks window) = members.map .ok := by
  refine exists_map_eq_ok fun entry hentry => ?_
  rw [← filter_events] at hentry
  obtain ⟨stream, hstream, -⟩ := exists_mem_zip_of_map_eq_ok h (List.mem_filter.1 hentry).1
  exact ⟨stream, hstream⟩

theorem set_of_mem_itemsOf {entry : RecurrenceSet × Nat} {occurrence : Occurrence}
    (h : .ok occurrence ∈ index.itemsOf clocks window entry) : occurrence.set = entry.1 := by
  unfold itemsOf at h
  split at h
  · next stream hstream =>
    obtain ⟨own, hown, place, -, rfl⟩ := memberOf_eq_ok_iff.1 hstream
    obtain ⟨hopens, -⟩ := RecurrenceSet.opens hown
    rw [← mem_successes, Occurrences.mem_successes_toList (hopens.ordered.restricted _ _ _)] at h
    obtain ⟨candidate, -, hout⟩ := h
    exact (Occurrences.of_outcome hout).1.trans hopens.set_eq
  · cases h

theorem exists_dealt {all : MergedOccurrences} (h : occurrences clocks index window = .ok all) :
    ∃ dealt : List (String × Occurrences.Item), dealt.map (·.2) = all.toList ∧
      (∀ pair ∈ dealt, ∀ occurrence, pair.2 = .ok occurrence → occurrence.set.uid = pair.1) ∧
      ∀ uid, ∃ event, occurrencesOf clocks index uid window = .ok event ∧
        (dealt.filter (·.1 = uid)).map (·.2) = event.toList := by
  obtain ⟨events, hevents, hmerged⟩ := bind_eq_ok_iff.1 h
  obtain rfl := pure_eq_ok_iff.1 hmerged
  have hstreams := streams_events (mapM_eq_ok_iff.1 hevents)
  obtain ⟨dealt, hdeals, hall⟩ :=
    exists_deals_ofStreams (fun entry => entry.1.uid) hstreams index.nodup_events
  refine ⟨dealt, hall, ?_, fun uid => ?_⟩
  · intro pair hpair occurrence hok
    obtain ⟨hand, hhand, htag, hmem⟩ := hdeals.exists_hand hpair
    obtain ⟨entry, -, rfl⟩ := List.mem_map.1 hhand
    rw [hok] at hmem
    rw [set_of_mem_itemsOf hmem]
    exact htag
  · obtain ⟨members, hmembers⟩ := exists_members_of_events hstreams uid
    obtain ⟨own, hown, hsame⟩ := exists_deals_ofStreams (fun entry => entry.1.uid) hmembers
      (List.pairwise_map.2 (index.pairwise_event uid))
    refine ⟨.ofStreams members, map_eq_ok_iff.2 ⟨members, streams_of_streamOf hmembers, rfl⟩, ?_⟩
    -- The deal of all, for one event, is a deal of what its sets have, which has only one.
    have hfilter := hdeals.filter (· = uid)
    rw [List.filter_map] at hfilter
    rw [← hsame]
    refine congrArg (List.map _) (MergedOccurrences.Deals.unique ?_ hown)
    rw [← filter_events]
    exact hfilter

section Positions

/-- The position of the set at a place of an event. -/
def positionAt (index : RecurrenceIndex) (uid : String) (place : Nat) : Nat :=
  ((index.event uid).map (·.2)).getD place 0

theorem eq_map_zipIdx {α : Type} (entries : List (α × Nat)) :
    entries = (entries.map (·.1)).zipIdx.map fun entry =>
      (entry.1, (entries.map (·.2)).getD entry.2 0) := by
  refine List.ext_getElem (by simp) fun place hplace _ => ?_
  simp [hplace]

theorem event_eq (index : RecurrenceIndex) (uid : String) : index.event uid =
    (index.setsOf uid).zipIdx.map fun entry => (entry.1, index.positionAt uid entry.2) := by
  rw [← map_fst_event]
  exact eq_map_zipIdx (index.event uid)

theorem strictMonoOn_positionAt (index : RecurrenceIndex) (uid : String) :
    StrictMonoOn (index.positionAt uid) (Set.Iio (index.setsOf uid).length) := by
  have hascend : ((index.event uid).map (·.2)).Pairwise (· < ·) := by
    have hrange : (index.sets.zipIdx.map (·.2)).Pairwise (· < ·) := by
      rw [List.zipIdx_map_snd]
      exact List.pairwise_lt_range'
    exact List.pairwise_map.2 ((List.pairwise_map.1 hrange).filter _)
  have hlength : (index.setsOf uid).length = ((index.event uid).map (·.2)).length := by
    rw [← map_fst_event, List.length_map, List.length_map]
  intro place hplace later hlater hlt
  rw [Set.mem_Iio, hlength] at hplace hlater
  unfold positionAt
  rw [List.getD_eq_getElem _ _ hplace, List.getD_eq_getElem _ _ hlater]
  exact List.pairwise_iff_getElem.1 hascend place later hplace hlater hlt

theorem memberOf_relabelled (sets : List RecurrenceSet) (entry : RecurrenceSet × Nat)
    (position : Nat → Nat) : memberOf clocks window sets (entry.1, position entry.2) =
      (memberOf clocks window sets entry).map (Occurrences.relabelled position) := by
  unfold memberOf
  cases entry.1.occurrences clocks window with
  | error error => rfl
  | ok own =>
    cases replacedBy clocks entry.1 with
    | error error => rfl
    | ok place => rfl

/-- Where the sets of an event start, each at its place among them, the event starts, and gives
what they give but for the positions. -/
theorem occurrencesOf_of_setsOf {members : List Occurrences}
    (h : (index.setsOf uid).zipIdx.map (memberOf clocks window (index.setsOf uid)) =
      members.map .ok) : ∃ event, occurrencesOf clocks index uid window = .ok event ∧
      event.toList = (MergedOccurrences.ofStreams members).toList.map
        (Except.map (Occurrence.relabelled (index.positionAt uid))) := by
  -- Every set of the event stands at its position in the index.
  have hmembers : (index.event uid).map (memberOf clocks window (index.setsOf uid)) =
      (members.map (Occurrences.relabelled (index.positionAt uid))).map .ok := by
    rw [event_eq, List.map_map]
    calc _ = ((index.setsOf uid).zipIdx.map (memberOf clocks window (index.setsOf uid))).map
          (Except.map (Occurrences.relabelled (index.positionAt uid))) := by
          rw [List.map_map]
          exact List.map_congr_left fun entry _ => memberOf_relabelled _ _ _
      _ = _ := by
          rw [h, List.map_map, List.map_map]
          rfl
  refine ⟨.ofStreams (members.map (Occurrences.relabelled (index.positionAt uid))),
    map_eq_ok_iff.2 ⟨_, streams_eq_ok_iff.2 (by rw [map_fst_event, hmembers]), rfl⟩, ?_⟩
  have hapart : MergedOccurrences.Apart (members.map Occurrences.toList) :=
    apart_memberOf h (List.pairwise_map.1 (List.nodup_zipIdx_map_snd _))
  refine MergedOccurrences.toList_relabelled (index.strictMonoOn_positionAt uid) hapart ?_
  intro stream hstream occurrence ho
  obtain ⟨entry, hentry, hmember⟩ := (mem_of_map_eq_ok h).1 hstream
  rw [ordinal_of_memberOf hmember ho]
  exact List.snd_lt_of_mem_zipIdx hentry

/-- An event alone starts where its sets do, each at its place among them. -/
theorem exists_members_of_occurrencesOf {event : MergedOccurrences}
    (h : occurrencesOf clocks index uid window = .ok event) : ∃ members : List Occurrences,
      (index.setsOf uid).zipIdx.map (memberOf clocks window (index.setsOf uid)) =
        members.map .ok := by
  obtain ⟨streams, hstreams, -⟩ := map_eq_ok_iff.1 h
  rw [streams_eq_ok_iff, map_fst_event, event_eq, List.map_map] at hstreams
  refine exists_map_eq_ok fun entry hentry => ?_
  obtain ⟨stream, hstream, -⟩ := exists_mem_zip_of_map_eq_ok hstreams hentry
  rw [Function.comp_apply, memberOf_relabelled, map_eq_ok_iff] at hstream
  obtain ⟨own, hown, -⟩ := hstream
  exact ⟨own, hown⟩

theorem occurrencesOf_congr {other : RecurrenceIndex} {event : MergedOccurrences}
    (hsets : other.setsOf uid = index.setsOf uid)
    (h : occurrencesOf clocks index uid window = .ok event) :
    ∃ event', occurrencesOf clocks other uid window = .ok event' ∧
      event'.toList.map (Except.map (Occurrence.movedTo 0)) =
        event.toList.map (Except.map (Occurrence.movedTo 0)) := by
  obtain ⟨members, hmembers⟩ := exists_members_of_occurrencesOf h
  obtain ⟨own, hown, hlist⟩ := occurrencesOf_of_setsOf hmembers
  obtain rfl : own = event := Except.ok.inj (hown.symm.trans h)
  rw [← hsets] at hmembers
  obtain ⟨event', hevent', hlist'⟩ := occurrencesOf_of_setsOf hmembers
  refine ⟨event', hevent', ?_⟩
  have hforget : ∀ (position : Nat → Nat) (item : Occurrences.Item),
      (item.map (Occurrence.relabelled position)).map (Occurrence.movedTo 0) =
        item.map (Occurrence.movedTo 0) := by
    rintro position (error | occurrence) <;> rfl
  rw [hlist, hlist', List.map_map, List.map_map]
  refine List.map_congr_left fun item _ => ?_
  rw [Function.comp_apply, Function.comp_apply, hforget, hforget]

end Positions

/-- The occurrences among some items whose sets belong to an event. -/
def ofEvent (uid : String) (items : List Occurrences.Item) : List Occurrence :=
  (successes items).filter (·.set.uid = uid)

/-- The occurrences that are dealt to an event are those whose sets belong to it. -/
theorem ofEvent_of_dealt {dealt : List (String × Occurrences.Item)}
    (h : ∀ pair ∈ dealt, ∀ occurrence, pair.2 = .ok occurrence → occurrence.set.uid = pair.1)
    (uid : String) : ofEvent uid (dealt.map (·.2)) =
      successes ((dealt.filter (·.1 = uid)).map (·.2)) := by
  unfold ofEvent
  induction dealt with
  | nil => rfl
  | cons pair dealt ih =>
    obtain ⟨hpair, hdealt⟩ := List.forall_mem_cons.1 h
    obtain ⟨tag, error | occurrence⟩ := pair
    · by_cases htag : tag = uid <;> simp [htag, ih hdealt]
    · have hset : occurrence.set.uid = tag := hpair occurrence rfl
      by_cases htag : tag = uid <;> simp [hset, htag, ih hdealt]

/-- **Events do not interfere.** Where all events start, each does. What is given for all can be
dealt out so that each event gets just what it gives alone, failures too and in the same order;
its occurrences are those whose sets belong to it. What it gives, alone or among others, is the
same wherever its own sets are the same, but for the positions of these. -/
theorem occurrences_isolated {all : MergedOccurrences}
    (h : occurrences clocks index window = .ok all) :
    ∃ dealt : List (String × Occurrences.Item), dealt.map (·.2) = all.toList ∧
      (∀ pair ∈ dealt, ∀ occurrence, pair.2 = .ok occurrence → occurrence.set.uid = pair.1) ∧
      ∀ uid, ∃ event, occurrencesOf clocks index uid window = .ok event ∧
        (dealt.filter (·.1 = uid)).map (·.2) = event.toList ∧
        ofEvent uid all.toList = successes event.toList ∧
        ∀ other : RecurrenceIndex, other.setsOf uid = index.setsOf uid →
          (∃ event', occurrencesOf clocks other uid window = .ok event' ∧
            event'.toList.map (Except.map (Occurrence.movedTo 0)) =
              event.toList.map (Except.map (Occurrence.movedTo 0))) ∧
          ∀ all', occurrences clocks other window = .ok all' →
            (ofEvent uid all'.toList).map (Occurrence.movedTo 0) =
              (ofEvent uid all.toList).map (Occurrence.movedTo 0) := by
  obtain ⟨dealt, hall, htags, hevents⟩ := exists_dealt h
  refine ⟨dealt, hall, htags, fun uid => ?_⟩
  obtain ⟨event, hevent, hown⟩ := hevents uid
  have hgiven : ofEvent uid all.toList = successes event.toList := by
    rw [← hall, ofEvent_of_dealt htags, hown]
  refine ⟨event, hevent, hown, hgiven, fun other hsets => ?_⟩
  obtain ⟨event', hevent', hsame⟩ := occurrencesOf_congr hsets hevent
  refine ⟨⟨event', hevent', hsame⟩, fun all' h' => ?_⟩
  obtain ⟨dealt', hall', htags', hevents'⟩ := exists_dealt h'
  obtain ⟨own', hown', hdealt'⟩ := hevents' uid
  obtain rfl : own' = event' := Except.ok.inj (hown'.symm.trans hevent')
  rw [hgiven, ← hall', ofEvent_of_dealt htags', hdealt', ← successes_map, hsame, successes_map]

/-- The sets of `movedSeries` behind a set of another event that begins where one of them does. -/
def behindAnother : RecurrenceIndex where
  sets := RecurrenceSet.single "another" (.time 3600 .utc) :: movedSeries.sets

theorem occurrences_isolated_behindAnother : ∃ all alone,
    occurrences (Resolver.empty Zone.Atlas.database).clocks behindAnother .unbounded = .ok all ∧
    occurrences (Resolver.empty Zone.Atlas.database).clocks movedSeries .unbounded = .ok alone ∧
    (ofEvent "event" alone.toList).map (Occurrence.movedTo 0) =
      (ofEvent "event" all.toList).map (Occurrence.movedTo 0) := by
  refine ⟨_, _, rfl, rfl, ?_⟩
  obtain ⟨_, -, -, h⟩ := occurrences_isolated (show occurrences
    (Resolver.empty Zone.Atlas.database).clocks behindAnother .unbounded = .ok _ from rfl)
  obtain ⟨_, -, -, -, hothers⟩ := h "event"
  exact (hothers movedSeries rfl).2 _ rfl

end RecurrenceIndex
end Recurrence
