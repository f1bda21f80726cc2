import Mathlib
import Recurrence.Proofs.Occurrence.Override

/-! A merge keeps order. Each member gives its items one after the other, whatever the
others fail in between, and occurrences come by their places and, at one place, by the
positions of their sets. -/
namespace Recurrence

namespace MergedOccurrences

/-- Whether lists of items each ascend and have positions apart from each other. -/
structure Ascends (lists : List (List (Except Failure Occurrence))) : Prop where
  apart : Apart lists
  ascends : ∀ items ∈ lists, (successes items).Pairwise (·.key < ·.key)

theorem Ascends.tail {before after : List (List (Except Failure Occurrence))}
    {item : Except Failure Occurrence} {items : List (Except Failure Occurrence)}
    (h : Ascends (before ++ (item :: items) :: after)) : Ascends (before ++ items :: after) := by
  refine ⟨h.apart.tail, fun other hother => ?_⟩
  rcases List.mem_append.1 hother with hbefore | hafter
  · exact h.ascends other (List.mem_append_left _ hbefore)
  · rcases List.mem_cons.1 hafter with rfl | hafter
    · have hitems := h.ascends (item :: other) (by simp)
      cases item with
      | error error => exact hitems
      | ok occurrence => exact (List.pairwise_cons.1 hitems).2
    · exact h.ascends other (List.mem_append_right _ (List.mem_cons_of_mem _ hafter))

theorem Ascends.precedes_of_isTurn {before after : List (List Occurrences.Item)}
    {occurrence : Occurrence} {items : List Occurrences.Item}
    (h : Ascends (before ++ (.ok occurrence :: items) :: after))
    (hturn : IsTurn before after (.ok occurrence)) {later : Occurrence}
    (hmem : .ok later ∈ (before ++ items :: after).flatten) : occurrence.precedes later = true := by
  have hperm : (before ++ items :: after).Perm (items :: (before ++ after)) := List.perm_middle
  rw [hperm.flatten.mem_iff, List.flatten_cons, List.mem_append] at hmem
  rw [Occurrence.precedes_iff]
  rcases hmem with hmem | hmem
  · have hitems := h.ascends (.ok occurrence :: items) (by simp)
    exact .inl ((List.pairwise_cons.1 hitems).1 later (mem_successes.2 hmem))
  · obtain ⟨others, hothers, hmem⟩ := List.mem_flatten.1 hmem
    have hascend := h.ascends others (by
      rw [List.perm_middle.mem_iff]
      exact List.mem_cons_of_mem _ hothers)
    cases others with
    | nil => cases hmem
    | cons front behind =>
      -- What is to come in another list is its front or comes after it.
      obtain ⟨other, rfl, hprecedes⟩ := hturn _ hothers front rfl
      rcases List.mem_cons.1 hmem with heq | hmem
      · rwa [Except.ok.inj heq, ← Occurrence.precedes_iff]
      · have hafter := (List.pairwise_cons.1 hascend).1 later (mem_successes.2 hmem)
        rw [Occurrence.precedes_iff_rank] at hprecedes
        rw [TimelineKey.lt_iff_rank] at hafter ⊢
        omega

section Deals

variable {τ : Type} {hands : List (τ × List Occurrences.Item)}
  {dealt : List (τ × Occurrences.Item)}

theorem Deals.pairwise (h : Deals hands dealt) (hascends : Ascends (hands.map (·.2))) :
    (successes (dealt.map (·.2))).Pairwise fun one other => one.precedes other = true := by
  induction h with
  | done => exact List.Pairwise.nil
  | @step before after tag item items dealt hturn rest ih =>
    have hperm := rest.perm
    simp only [List.map_append, List.map_cons] at hascends hperm ih
    have hrest := ih hascends.tail
    cases item with
    | error error => exact hrest
    | ok occurrence =>
      refine List.pairwise_cons.2 ⟨fun later hlater => ?_, hrest⟩
      exact hascends.precedes_of_isTurn hturn (hperm.mem_iff.1 (mem_successes.1 hlater))

theorem IsTurn.mono {before after before' after' : List (List Occurrences.Item)}
    {item : Occurrences.Item} (h : IsTurn before after item) (hbefore : before' ⊆ before)
    (hafter : after' ⊆ after) : IsTurn before' after' item := by
  cases item with
  | error error => exact fun items hitems => h items (hbefore hitems)
  | ok occurrence =>
    refine fun items hitems => h items ?_
    exact List.mem_append.2 ((List.mem_append.1 hitems).imp (hbefore ·) (hafter ·))

theorem Deals.filter (test : τ → Bool) (h : Deals hands dealt) :
    Deals (hands.filter fun hand => test hand.1) (dealt.filter fun pair => test pair.1) := by
  induction h with
  | done hnil => exact .done fun hand hmem => hnil hand (List.mem_filter.1 hmem).1
  | @step before after tag item items dealt hturn rest ih =>
    rw [List.filter_append, List.filter_cons] at ih ⊢
    rw [List.filter_cons]
    by_cases ht : test tag = true
    · rw [if_pos ht] at ih
      rw [if_pos ht, if_pos ht]
      exact .step (hturn.mono (List.map_subset _ List.filter_sublist.subset)
        (List.map_subset _ List.filter_sublist.subset)) ih
    · rw [if_neg ht] at ih
      rwa [if_neg ht, if_neg ht]

theorem Deals.eq_of_singleton (h : Deals hands dealt) {tag : τ} {items : List Occurrences.Item}
    (hhands : hands = [(tag, items)]) : dealt.map (·.2) = items := by
  induction h generalizing items with
  | done hnil => exact (hnil (tag, items) (hhands ▸ List.mem_singleton_self _)).symm
  | @step before after tag' item items' dealt _ _ ih =>
    obtain ⟨rfl, hcons⟩ | ⟨_, hnil⟩ := List.append_eq_singleton_iff.1 hhands
    · cases hcons
      rw [List.map_cons, ih rfl]
    · cases hnil

theorem Deals.exists_hand (h : Deals hands dealt) {pair : τ × Occurrences.Item}
    (hpair : pair ∈ dealt) : ∃ hand ∈ hands, hand.1 = pair.1 ∧ pair.2 ∈ hand.2 := by
  induction h with
  | done => cases hpair
  | @step before after tag item items dealt _ _ ih =>
    rcases List.mem_cons.1 hpair with rfl | hpair
    · exact ⟨(tag, item :: items), by simp, rfl, List.mem_cons_self⟩
    · obtain ⟨hand, hhand, htag, hmem⟩ := ih hpair
      rcases List.mem_cons.1 (List.perm_middle.mem_iff.1 hhand) with rfl | hothers
      · exact ⟨(tag, item :: items), by simp, htag, List.mem_cons_of_mem _ hmem⟩
      · exact ⟨hand, List.perm_middle.mem_iff.2 (List.mem_cons_of_mem _ hothers), htag, hmem⟩

end Deals

end MergedOccurrences

namespace RecurrenceIndex

variable {clocks : Clocks} {index : RecurrenceIndex} {window : Window}

/-- The stream of a set of an index, without what the overrides of its event take. -/
def streamOf (clocks : Clocks) (index : RecurrenceIndex) (window : Window)
    (entry : RecurrenceSet × Nat) : Except Failure Occurrences :=
  memberOf clocks window (index.setsOf entry.1.uid) entry

/-- The items of the stream of a set of an index. -/
def itemsOf (clocks : Clocks) (index : RecurrenceIndex) (window : Window)
    (entry : RecurrenceSet × Nat) : List Occurrences.Item :=
  match index.streamOf clocks window entry with
  | .ok stream => stream.toList
  | .error _ => []

/-- Whether items are a merge of the streams of some sets that keeps order: sorted by place
and position, and dealt out to the sets so that each gets all of its own in order. -/
structure Merges (clocks : Clocks) (index : RecurrenceIndex) (window : Window)
    (entries : List (RecurrenceSet × Nat)) (items : List Occurrences.Item) : Prop where
  sorted : (successes items).Pairwise fun one other =>
    one.key < other.key ∨ one.key = other.key ∧ one.ordinal < other.ordinal
  dealt : ∃ dealt : List (Nat × Occurrences.Item), dealt.map (·.2) = items ∧
    (∀ pair ∈ dealt, ∃ entry ∈ entries, pair.1 = entry.2 ∧
      ∀ occurrence, pair.2 = .ok occurrence → occurrence.ordinal = entry.2) ∧
    ∀ entry ∈ entries, ∃ stream, index.streamOf clocks window entry = .ok stream ∧
      (dealt.filter (·.1 = entry.2)).map (·.2) = stream.toList

theorem ascends_streamOf {entries : List (RecurrenceSet × Nat)} {members : List Occurrences}
    (h : entries.map (index.streamOf clocks window) = members.map .ok)
    (hnodup : (entries.map (·.2)).Nodup) :
    MergedOccurrences.Ascends (members.map Occurrences.toList) := by
  refine ⟨apart_memberOf h (List.pairwise_map.1 hnodup), List.forall_mem_map.2 fun stream hs => ?_⟩
  obtain ⟨entry, -, hstream⟩ := (mem_of_map_eq_ok h).1 hs
  obtain ⟨own, hown, place, -, rfl⟩ := memberOf_eq_ok_iff.1 hstream
  exact Occurrences.pairwise_successes ((RecurrenceSet.opens hown).1.ordered.restricted _ _ _)

theorem map_itemsOf {entries : List (RecurrenceSet × Nat)} {members : List Occurrences}
    (h : entries.map (index.streamOf clocks window) = members.map .ok) :
    entries.map (index.itemsOf clocks window) = members.map Occurrences.toList :=
  map_eq_of_map_eq_ok h fun entry stream hstream => by simp only [itemsOf, hstream]

theorem exists_deals_ofStreams {τ : Type} (tag : RecurrenceSet × Nat → τ)
    {entries : List (RecurrenceSet × Nat)} {members : List Occurrences}
    (h : entries.map (index.streamOf clocks window) = members.map .ok)
    (hnodup : (entries.map (·.2)).Nodup) : ∃ dealt,
      MergedOccurrences.Deals
        (entries.map fun entry => (tag entry, index.itemsOf clocks window entry)) dealt ∧
      dealt.map (·.2) = (MergedOccurrences.ofStreams members).toList := by
  have hlists := MergedOccurrences.toList_members_ofStreams members
  refine MergedOccurrences.exists_deals ?_ (hlists ▸ (ascends_streamOf h hnodup).apart)
  rw [hlists, ← map_itemsOf h, List.map_map]
  rfl

theorem filter_eq_singleton {α β : Type} [DecidableEq β] {f : α → β} {values : List α} {value : α}
    (hnodup : (values.map f).Nodup) (hmem : value ∈ values) :
    values.filter (fun other => f other = f value) = [value] := by
  obtain ⟨front, back, rfl⟩ := List.append_of_mem hmem
  rw [List.map_append, List.map_cons] at hnodup
  have hnot := (List.nodup_cons.1 (List.nodup_middle.1 hnodup)).1
  rw [List.mem_append, not_or] at hnot
  rw [List.filter_append, List.filter_cons, if_pos (decide_eq_true rfl)]
  have hnone : ∀ {others : List α}, f value ∉ others.map f →
      others.filter (fun other => f other = f value) = [] := by
    intro others hvalue
    refine List.filter_eq_nil_iff.2 fun other hother heq => hvalue ?_
    exact of_decide_eq_true heq ▸ List.mem_map_of_mem hother
  rw [hnone hnot.1, hnone hnot.2, List.nil_append]

theorem merges_ofStreams {entries : List (RecurrenceSet × Nat)} {members : List Occurrences}
    (h : entries.map (index.streamOf clocks window) = members.map .ok)
    (hnodup : (entries.map (·.2)).Nodup) :
    index.Merges clocks window entries (MergedOccurrences.ofStreams members).toList := by
  obtain ⟨dealt, hdeals, hall⟩ := exists_deals_ofStreams (·.2) h hnodup
  have hitems : ∀ entry ∈ entries, ∃ stream, index.streamOf clocks window entry = .ok stream ∧
      index.itemsOf clocks window entry = stream.toList := by
    intro entry hentry
    obtain ⟨stream, hstream, -⟩ := exists_mem_zip_of_map_eq_ok h hentry
    exact ⟨stream, hstream, by simp only [itemsOf, hstream]⟩
  have hascends : MergedOccurrences.Ascends
      ((entries.map fun entry => (entry.2, index.itemsOf clocks window entry)).map (·.2)) := by
    rw [List.map_map]
    exact (map_itemsOf h).symm ▸ ascends_streamOf h hnodup
  refine ⟨?_, dealt, hall, ?_, ?_⟩
  · rw [← hall]
    exact (hdeals.pairwise hascends).imp Occurrence.precedes_iff.1
  · intro pair hpair
    obtain ⟨hand, hhand, htag, hmem⟩ := hdeals.exists_hand hpair
    obtain ⟨entry, hentry, rfl⟩ := List.mem_map.1 hhand
    refine ⟨entry, hentry, htag.symm, fun occurrence hok => ?_⟩
    obtain ⟨stream, hstream, hlist⟩ := hitems entry hentry
    exact ordinal_of_memberOf hstream (hok ▸ hlist ▸ hmem)
  · intro entry hentry
    obtain ⟨stream, hstream, hlist⟩ := hitems entry hentry
    refine ⟨stream, hstream, ?_⟩
    -- The deal to a position, with all others left out, is a deal of that list alone.
    have hhand := hdeals.filter (· = entry.2)
    rw [List.filter_map] at hhand
    rw [← hlist]
    refine hhand.eq_of_singleton (show _ = [(entry.2, index.itemsOf clocks window entry)] from ?_)
    exact congrArg (List.map _) (filter_eq_singleton hnodup hentry)

theorem map_streamOf_event (uid : String) : (index.event uid).map (index.streamOf clocks window) =
    (index.event uid).map (memberOf clocks window (index.setsOf uid)) := by
  refine List.map_congr_left fun entry hmem => ?_
  have huid : entry.1.uid = uid := by simpa using (List.mem_filter.1 hmem).2
  rw [streamOf, huid]

theorem streams_event {uid : String} {members : List Occurrences}
    (h : streams clocks window (index.event uid) = .ok members) :
    (index.event uid).map (index.streamOf clocks window) = members.map .ok := by
  rw [← streams_eq_ok_iff.1 h, map_fst_event, map_streamOf_event]

theorem uid_mem_uids {entry : RecurrenceSet × Nat} (h : entry ∈ index.sets.zipIdx) :
    entry.1.uid ∈ index.uids :=
  List.mem_eraseDups.2 (List.mem_map_of_mem (List.fst_mem_of_mem_zipIdx h))

theorem mem_events_iff {entry : RecurrenceSet × Nat} :
    entry ∈ index.uids.flatMap index.event ↔ entry ∈ index.sets.zipIdx := by
  simp only [List.mem_flatMap, event, List.mem_filter, decide_eq_true_eq]
  constructor
  · rintro ⟨_, -, hentry, -⟩
    exact hentry
  · intro hentry
    exact ⟨entry.1.uid, uid_mem_uids hentry, hentry, rfl⟩

theorem nodup_events (index : RecurrenceIndex) :
    ((index.uids.flatMap index.event).map (·.2)).Nodup := by
  rw [List.map_flatMap, List.nodup_flatMap]
  refine ⟨fun uid _ => List.pairwise_map.2 (index.pairwise_event uid), ?_⟩
  refine (Plan.nodup_eraseDups _).imp fun {uid other} hne => ?_
  -- Sets of different events stand at different positions.
  rw [Function.onFun, List.disjoint_left]
  intro position hmem hmem'
  obtain ⟨entry, hentry, rfl⟩ := List.mem_map.1 hmem
  obtain ⟨entry', hentry', hsame⟩ := List.mem_map.1 hmem'
  obtain ⟨hat, huid⟩ := List.mem_filter.1 hentry
  obtain ⟨hat', huid'⟩ := List.mem_filter.1 hentry'
  rw [List.mem_zipIdx_iff_getElem?] at hat hat'
  rw [hsame, hat, Option.some.injEq] at hat'
  rw [decide_eq_true_eq] at huid huid'
  exact hne (by rw [← huid, ← huid', hat'])

theorem streams_events {events : List (List Occurrences)}
    (h : index.uids.map (fun uid => streams clocks window (index.event uid)) = events.map .ok) :
    (index.uids.flatMap index.event).map (index.streamOf clocks window) =
      events.flatten.map .ok := by
  rw [List.map_flatMap, List.map_flatten, List.flatMap_def]
  exact congrArg List.flatten (map_eq_of_map_eq_ok h fun _ _ hmembers => streams_event hmembers)

/-- The occurrences of an event, and those of all events, are those of their sets merged in
order: sorted by place and by position, with all that each set gives, failures too, in its
own order. -/
theorem merges (clocks : Clocks) (index : RecurrenceIndex) (window : Window) :
    (∀ uid merged, index.occurrencesOf clocks uid window = .ok merged →
      index.Merges clocks window (index.event uid) merged.toList) ∧
    ∀ merged, index.occurrences clocks window = .ok merged →
      index.Merges clocks window index.sets.zipIdx merged.toList := by
  constructor
  · intro uid merged h
    obtain ⟨members, hmembers, rfl⟩ := map_eq_ok_iff.1 h
    exact merges_ofStreams (streams_event hmembers) (List.pairwise_map.2 (index.pairwise_event uid))
  · intro merged h
    obtain ⟨events, hevents, hmerged⟩ := bind_eq_ok_iff.1 h
    obtain rfl := pure_eq_ok_iff.1 hmerged
    have hmerges := merges_ofStreams (streams_events (mapM_eq_ok_iff.1 hevents)) index.nodup_events
    refine ⟨hmerges.sorted, ?_⟩
    simpa only [mem_events_iff] using hmerges.dealt

/-- A series with overrides, and another event that begins where one of them does. -/
def besideSeries : RecurrenceIndex where
  sets := movedSeries.sets ++ [RecurrenceSet.single "other" (.time 3600 .utc)]

theorem merges_besideSeries : ∃ event all,
    occurrencesOf (Resolver.empty Zone.Atlas.database).clocks besideSeries "event" .unbounded =
      .ok event ∧
    besideSeries.Merges (Resolver.empty Zone.Atlas.database).clocks .unbounded
      (besideSeries.event "event") event.toList ∧
    occurrences (Resolver.empty Zone.Atlas.database).clocks besideSeries .unbounded = .ok all ∧
    besideSeries.Merges (Resolver.empty Zone.Atlas.database).clocks .unbounded
      besideSeries.sets.zipIdx all.toList := by
  have h := merges (Resolver.empty Zone.Atlas.database).clocks besideSeries .unbounded
  exact ⟨_, _, rfl, h.1 "event" _ rfl, rfl, h.2 _ rfl⟩

end RecurrenceIndex
end Recurrence
