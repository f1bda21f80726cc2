import Mathlib
import Recurrence.Proofs.Occurrence.Calls
import Recurrence.Proofs.Occurrence.Settled
import Recurrence.Proofs.Occurrence.SetAlgebra
import Recurrence.Proofs.Rule.Patient

/-! Failures of rules among the items of a stream. Besides the items of the settled stream
there are parts of what each rule owes: a failure leaves its rule once, to be given at once
or to wait. A rule owes one failure at most, the one that its run ends in. -/
namespace Recurrence

namespace Instances

/-- The failures that are still to come from a source. -/
def owed (ahead : Instances) : List Failure := failures ahead.toList

theorem owed_seek (key : TimelineKey) (ahead : Instances) :
    ahead.owed = (ahead.seek key).1 ++ owed (ahead.seek key).2 := by
  obtain ⟨passed, ⟨hsplit, -, -, -⟩, herrors⟩ := seek_seeks key ahead
  rw [owed, hsplit, failures_append, herrors, owed]

theorem map_owed_of_fillAll {aheads next : List Instances}
    (h : Lookahead.fillAll aheads = (none, next)) : next.map owed = aheads.map owed := by
  have hsame := congrArg (List.map failures) (Lookahead.toList_of_fillAll h).1
  rwa [List.map_map, List.map_map] at hsame

theorem map_owed_dropIf (test : Instance → Bool) (aheads : List Instances) :
    (aheads.map (Lookahead.dropIf test)).map owed = aheads.map owed := by
  rw [List.map_map]
  exact List.map_congr_left fun ahead _ => failures_dropIf ahead test

/-- Parts of what each source owes, from the front. -/
def Parts (parts : List (List Failure)) (owed : List (List Failure)) : Prop :=
  List.Forall₂ (· <+: ·) parts owed

theorem parts_nil (owed : List (List Failure)) : Parts (owed.map fun _ => []) owed :=
  List.forall₂_map_left_iff.2 (List.forall₂_same.2 fun _ _ => List.nil_prefix)

/-- A failure in front of a source makes its part longer. -/
theorem exists_parts_of_fillAll {aheads next : List Instances} {error : Failure}
    {parts : List (List Failure)} (h : Lookahead.fillAll aheads = (some error, next))
    (hparts : Parts parts (next.map owed)) : ∃ more, Parts more (aheads.map owed) ∧
      more.flatten.Perm (error :: parts.flatten) ∧
      (parts = next.map owed → more = aheads.map owed) := by
  induction aheads generalizing next parts with
  | nil => cases h
  | cons ahead others ih =>
    unfold Lookahead.fillAll at h
    split at h
    · next first hf =>
      cases h
      -- The failure stands in front of what this source owes.
      obtain ⟨part, rest, hpart, hrest, rfl⟩ := List.forall₂_cons_right_iff.1 hparts
      have howed : ahead.owed = error :: owed first := by
        rw [owed, Lookahead.toList_of_fill_error hf]
        rfl
      refine ⟨(error :: part) :: rest, .cons ?_ hrest, .refl _, ?_⟩
      · rw [howed]
        exact (List.prefix_cons_inj error).2 hpart
      · intro hall
        rw [List.map_cons, howed, (List.cons.inj hall).1, (List.cons.inj hall).2]
    · next first hf =>
      rcases hr : Lookahead.fillAll others with ⟨failed, later⟩
      rw [hr] at h
      cases h
      obtain ⟨part, rest, hpart, hrest, rfl⟩ := List.forall₂_cons_right_iff.1 hparts
      obtain ⟨more, hmore, hperm, hall⟩ := ih hr hrest
      have howed : owed first = owed ahead := congrArg failures (Lookahead.toList_of_fill hf).1
      refine ⟨part :: more, .cons (howed ▸ hpart) hmore, ?_, ?_⟩
      · exact (hperm.append_left part).trans List.perm_middle
      · intro heq
        rw [List.map_cons, ← howed, (List.cons.inj heq).1, hall (List.cons.inj heq).2]

theorem exists_parts_seek (key : TimelineKey) {aheads : List Instances}
    {parts : List (List Failure)}
    (hparts : Parts parts ((aheads.map fun ahead => (ahead.seek key).2).map owed)) :
    ∃ more, Parts more (aheads.map owed) ∧
      more.flatten.Perm ((aheads.flatMap fun ahead => (ahead.seek key).1) ++ parts.flatten) := by
  induction aheads generalizing parts with
  | nil =>
    obtain rfl := List.forall₂_nil_right_iff.1 hparts
    exact ⟨[], .nil, .refl _⟩
  | cons ahead others ih =>
    obtain ⟨part, rest, hpart, hrest, rfl⟩ := List.forall₂_cons_right_iff.1 hparts
    obtain ⟨more, hmore, hperm⟩ := ih hrest
    refine ⟨((ahead.seek key).1 ++ part) :: more, .cons ?_ hmore, ?_⟩
    · rw [owed_seek key ahead]
      exact (List.prefix_append_right_inj _).2 hpart
    · classical
      rw [List.perm_iff_count] at hperm ⊢
      intro error
      have := hperm error
      simp only [List.flatten_cons, List.flatMap_cons, List.count_append] at this ⊢
      omega

end Instances

namespace Occurrences

/-- What the rules of a stream have to do with the failures among its items: a part of what
each owes, besides what waits and what fails without them. -/
structure Shares (stream : Occurrences) (items : List Item) (given taken : List (List Failure)) :
    Prop where
  given_parts : Instances.Parts given (stream.generated.map Instances.owed)
  taken_parts : Instances.Parts taken (stream.exclusionRules.map Instances.owed)
  perm : (failures items).Perm
    (failures stream.settled.toList ++ stream.deferred ++ given.flatten ++ taken.flatten)
  whole : (∀ key, stream.endsBefore key = false) → given = stream.generated.map Instances.owed

theorem shares_nil {stream : Occurrences} (ho : stream.Ordered) (hd : stream.deferred = [])
    (hend : ∀ candidate ∈ stream.offers, stream.endsBefore candidate.key = true)
    (hall : (∀ key, stream.endsBefore key = false) →
      ∀ owed ∈ stream.generated.map Instances.owed, owed = []) :
    ∃ given taken, stream.Shares [] given taken := by
  have hitems : stream.settled.toList = [] := by
    obtain ⟨visited, -, hmem, hitems⟩ := ho.exists_settled
    have hnone : visited = [] := by
      apply List.eq_nil_iff_forall_not_mem.2
      intro candidate hc
      have hv := (hmem candidate).1 hc
      rw [← (traces_nil hend).mem_iff] at hv
      cases hv
    rw [hitems, hnone]
    rfl
  refine ⟨_, _, Instances.parts_nil _, Instances.parts_nil _, ?_, fun hends => ?_⟩
  · simp [hitems, hd, failures]
  · refine (List.map_congr_left fun owed howed => ?_).trans (List.map_id' _)
    exact (hall hends owed howed).symm

theorem exists_parts_visit {behind : Occurrences} (hd : behind.deferred = [])
    (candidate : Candidate) {parts : List (List Failure)}
    (hparts : Instances.Parts parts
      ((visit behind candidate).2.exclusionRules.map Instances.owed)) :
    ∃ more, Instances.Parts more (behind.exclusionRules.map Instances.owed) ∧
      more.flatten.Perm ((visit behind candidate).2.deferred ++ parts.flatten) := by
  unfold visit at hparts ⊢
  split
  · next ht =>
    rw [if_pos ht] at hparts
    refine ⟨parts, hparts, ?_⟩
    rw [hd]
    exact .refl _
  · next ht =>
    rw [if_neg ht, exclude_eq] at hparts
    obtain ⟨more, hmore, hperm⟩ := Instances.exists_parts_seek candidate.key hparts
    refine ⟨more, hmore, ?_⟩
    simpa only [exclude_eq, hd, List.nil_append] using hperm

theorem owed_eq_nil {stream : Occurrences} (hr : ∀ ahead ∈ stream.generated, ahead.IsReady)
    (hnone : stream.candidates = []) :
    ∀ owed ∈ stream.generated.map Instances.owed, owed = [] := by
  rw [List.forall_mem_map]
  intro ahead ha
  have hhead : ahead.head = none := by
    by_contra hsome
    obtain ⟨found, hfound⟩ := Option.ne_none_iff_exists'.1 hsome
    have hmem : .generated found ∈ stream.candidates :=
      List.mem_append_left _ (List.mem_map_of_mem (List.mem_filterMap.2 ⟨ahead, ha, hfound⟩))
    rw [hnone] at hmem
    cases hmem
  rw [Instances.owed, hr ahead ha hhead]
  rfl

/-- What a visit gives comes without failures of rules, which wait instead. -/
theorem Meets.exists_shares {stream behind : Occurrences} {first : Candidate} {items : List Item}
    {given taken : List (List Failure)} (hm : stream.Meets first behind) (ho : stream.Ordered)
    (he : stream.endsBefore first.key = false) (hd : stream.deferred = [])
    (hd' : behind.deferred = [])
    (hgenerated : behind.generated.map Instances.owed = stream.generated.map Instances.owed)
    (hexclusion : behind.exclusionRules = stream.exclusionRules)
    (h : (visit behind first).2.Shares items given taken) :
    ∃ more, stream.Shares ((visit behind first).1.toList ++ items) given more := by
  obtain ⟨hgiven, htaken, hperm, hall⟩ := h
  obtain ⟨more, hmore, hmoves⟩ := exists_parts_visit hd' first htaken
  rw [generated_visit, hgenerated] at hgiven hall
  rw [endsBefore_visit, hm.endsBefore] at hall
  rw [hexclusion] at hmore
  refine ⟨more, hgiven, hmore, ?_, hall⟩
  classical
  rw [hm.settled_toList ho he, hd, failures_append, failures_append]
  rw [List.perm_iff_count] at hperm hmoves ⊢
  intro error
  have hcount := hperm error
  have hmoved := hmoves error
  simp only [List.count_append, List.count_nil] at hcount hmoved ⊢
  omega

/-- Every failure among the items of a stream waited before, or fails without rules, or
comes from one of its rules; and without an end all that rules owe is given. -/
theorem Sweeps.exists_shares {stream : Occurrences} {items : List Item} (h : stream.Sweeps items)
    (ho : stream.Ordered) : ∃ given taken, stream.Shares items given taken := by
  induction h with
  | @deferred stream error later items hd rest ih =>
    obtain ⟨given, taken, hgiven, htaken, hperm, hall⟩ :=
      ih ⟨ho.generated, ho.added, ho.exclusionRules⟩
    refine ⟨given, taken, hgiven, htaken, ?_, hall⟩
    rw [hd, failures]
    refine (hperm.cons error).trans ?_
    exact (List.perm_middle.symm.append_right given.flatten).append_right taken.flatten
  | @failed stream error generated items hd hf rest ih =>
    obtain ⟨given, taken, hgiven, htaken, hperm, hall⟩ := ih (ho.fillAll_error hf)
    obtain ⟨more, hmore, hmoves, hwhole⟩ := Instances.exists_parts_of_fillAll hf hgiven
    refine ⟨more, taken, hmore, htaken, ?_, fun hends => hwhole (hall hends)⟩
    rw [settled_of_fillAll hf] at hperm
    refine (hperm.cons error).trans ?_
    refine List.Perm.trans ?_ ((hmoves.symm.append_left _).append_right _)
    exact List.perm_middle.symm.append_right taken.flatten
  | @done stream generated hd hf hc =>
    have hnone := Candidate.earliest?_eq_none hc
    have hr := (Lookahead.toList_of_fillAll hf).2
    have hoffers := offers_eq_nil (ho.fillAll hf) hr hnone
    rw [offers_of_fillAll hf] at hoffers
    refine shares_nil ho hd (by simp [hoffers]) fun _ => ?_
    rw [← Instances.map_owed_of_fillAll hf]
    exact owed_eq_nil hr hnone
  | @ended stream generated candidate hd hf hc he =>
    refine shares_nil ho hd (fun other hoffer => ?_) fun hends => ?_
    · exact endsBefore_mono ((ho.meets hf hc).least other hoffer) he
    · rw [hends] at he
      cases he
  | @visited stream generated candidate items hd hf hc he rest ih =>
    have hm := ho.meets hf hc
    obtain ⟨given, taken, hshares⟩ := ih (hm.ordered.visit _)
    have howed : ({ stream with generated }.dropAt candidate.key).generated.map Instances.owed =
        stream.generated.map Instances.owed := by
      rw [← Instances.map_owed_of_fillAll hf]
      exact Instances.map_owed_dropIf _ _
    obtain ⟨more, hmore⟩ := hm.exists_shares ho he hd hd howed rfl hshares
    exact ⟨given, more, hmore⟩

end Occurrences

namespace Run

/-- Whether a run comes to its instances and then, if at all, to a failure. -/
def EndsIn (run : Run) (failure : Option Failure) : Prop :=
  run.toList = (successes run.toList).map .ok ++ failure.toList.map .error

/-- What a run may have to do with failures of a stream: nothing, or the one it ends in. -/
def MayGive (run : Run) (part : Option Failure) : Prop :=
  ∃ failure, run.EndsIn failure ∧ (part = none ∨ part = failure)

theorem exists_endsIn (run : Run) : ∃ failure, run.EndsIn failure := by
  obtain ⟨failures, hitems, hone⟩ := run.plan.items_eq_append run.cursor
  cases failures with
  | nil => exact ⟨none, hitems⟩
  | cons error others =>
    obtain rfl : others = [] := by simpa using hone
    exact ⟨some error, hitems⟩

theorem EndsIn.owed {run : Run} {failure : Option Failure} (h : run.EndsIn failure) :
    Instances.owed (.ofSource run) = failure.toList := by
  have hsame := congrArg failures h
  rw [failures_append, failures_map_ok, List.nil_append] at hsame
  refine hsame.trans ?_
  cases failure <;> rfl

theorem EndsIn.eq_some {run : Run} {failure : Option Failure} {error : Failure}
    (h : run.EndsIn failure) (hmem : .error error ∈ run.toList) : failure = some error := by
  have howed : error ∈ Instances.owed (.ofSource run) := mem_failures.2 hmem
  rwa [h.owed, Option.mem_toList] at howed

end Run

namespace Instances

theorem exists_option_of_prefix {failure : Option Failure} {part : List Failure}
    (h : part <+: failure.toList) :
    ∃ given : Option Failure, part = given.toList ∧ (given = none ∨ given = failure) := by
  cases part with
  | nil => exact ⟨none, rfl, .inl rfl⟩
  | cons error others =>
    cases failure with
    | none => cases List.prefix_nil.1 h
    | some last =>
      obtain ⟨rfl, hothers⟩ := List.cons_prefix_cons.1 h
      obtain rfl := List.prefix_nil.1 hothers
      exact ⟨some error, rfl, .inr rfl⟩

/-- Parts of what runs owe are failures that they may give, one at most for each. -/
theorem Parts.exists_options {runs : List Run} {parts : List (List Failure)}
    (h : Parts parts ((runs.map Lookahead.ofSource).map owed)) :
    ∃ given : List (Option Failure), List.Forall₂ Run.MayGive runs given ∧
      given.reduceOption = parts.flatten ∧
      (parts = (runs.map Lookahead.ofSource).map owed → List.Forall₂ Run.EndsIn runs given) := by
  induction runs generalizing parts with
  | nil =>
    obtain rfl := List.forall₂_nil_right_iff.1 h
    exact ⟨[], .nil, rfl, fun _ => .nil⟩
  | cons run runs ih =>
    obtain ⟨part, rest, hpart, hrest, rfl⟩ := List.forall₂_cons_right_iff.1 h
    obtain ⟨given, hgiven, hflat, hwhole⟩ := ih hrest
    obtain ⟨failure, hends⟩ := run.exists_endsIn
    change part <+: owed (.ofSource run) at hpart
    rw [hends.owed] at hpart
    obtain ⟨first, rfl, hcases⟩ := exists_option_of_prefix hpart
    refine ⟨first :: given, .cons ⟨failure, hends, hcases⟩ hgiven, ?_, fun hall => ?_⟩
    · cases first <;> simp [List.reduceOption, ← hflat]
    · obtain ⟨hfirst, hothers⟩ := List.cons.inj hall
      rw [hends.owed] at hfirst
      obtain rfl : first = failure := by simpa using congrArg List.head? hfirst
      exact .cons hends (hwhole hothers)

end Instances

namespace RecurrenceSet

variable {clocks : Clocks} {set : RecurrenceSet} {window : Window} {stream : Occurrences}

/-- Failures of rules stay apart from the occurrences of a set. Its stream has those that it
has with instances in place of rules, and besides the failures there are then at most the one
that each run ends in. Where the window has no end, every rule that generates gives that one.
Calls come to all of this, and then to nothing. -/
theorem occurrences_isolatesRuleFailures (h : set.occurrences clocks window = .ok stream) :
    (stream.settled.IsFree ∧ successes stream.toList = successes stream.settled.toList) ∧
    (∃ (rules exclusionRules : List Run) (given taken : List (Option Failure)),
      set.rules.map (set.runIn clocks window) = rules.map .ok ∧
      set.exclusionRules.map (set.runIn clocks window) = exclusionRules.map .ok ∧
      List.Forall₂ Run.MayGive rules given ∧ List.Forall₂ Run.MayGive exclusionRules taken ∧
      (failures stream.toList).Perm
        (failures stream.settled.toList ++ given.reduceOption ++ taken.reduceOption) ∧
      (window.stop = none → List.Forall₂ Run.EndsIn rules given)) ∧
    stream.IsFused := by
  obtain ⟨hopens, -⟩ := opens h
  obtain ⟨given, taken, hgiven, htaken, hperm, hwhole⟩ :=
    (Occurrences.sweeps_toList stream).exists_shares hopens.ordered
  obtain ⟨rules, hrules, hgenerated⟩ := hopens.generated
  obtain ⟨exclusionRules, hexclusionRules, hexclusion⟩ := hopens.exclusionRules
  refine ⟨⟨stream.isFree_settled, (Occurrences.successes_settled hopens.ordered).symm⟩, ?_,
    stream.isFused⟩
  rw [hgenerated, List.map_cons] at hgiven hwhole
  rw [hexclusion] at htaken
  obtain ⟨part, parts, hpart, hparts, rfl⟩ := List.forall₂_cons_right_iff.1 hgiven
  obtain rfl : part = [] := List.prefix_nil.1 hpart
  obtain ⟨options, hrules', hflat, hall⟩ := Instances.Parts.exists_options hparts
  obtain ⟨options', hexclusions', hflat', -⟩ := Instances.Parts.exists_options htaken
  refine ⟨rules, exclusionRules, options, options', hrules, hexclusionRules, hrules',
    hexclusions', ?_, fun hstop => ?_⟩
  · rw [hopens.deferred_eq, List.append_nil, List.flatten_cons, List.nil_append, ← hflat,
      ← hflat'] at hperm
    exact hperm
  · refine hall (List.cons.inj (hwhole fun key => ?_)).2
    rw [Occurrences.endsBefore, Window.isPast, hopens.window_eq, hopens.cutoff_eq, hstop]
    rfl

/-- An event on the first day of 1970 and on every 30 February, those days left out. -/
def onThirtiethsOfFebruary : RecurrenceSet where
  uid := "event"
  start := .date 0
  duration := .zero
  rules := [thirtiethOfFebruary]
  exclusionRules := [thirtiethOfFebruary]
  added := []
  excluded := []
  replaces := none
  duration_ok := rfl

theorem mem_toList_thirtiethOfFebruary {run : Run}
    (hrun : Run.start clocks thirtiethOfFebruary (.date 0) = .ok run) :
    .error (.evaluation (.emptySteps 1000)) ∈ run.toList := by
  obtain ⟨hcursor, hopens⟩ := Run.opens hrun
  have hlimit : run.plan.emptyLimit = 1000 := Run.emptyLimit_of_start hrun
  obtain ⟨stuck, hstuck⟩ :=
    hopens.exists_strands_thirtiethOfFebruary (by rw [hlimit]; decide)
  rw [← hcursor] at hstuck
  have hfails := ((hopens.canonical (by decide)).mem_items_iff_strands _).2 ⟨stuck, hstuck⟩
  rwa [hlimit] at hfails

/-- Its rules both give up. The stream has the failure of the one that generates, and perhaps
that of the one that excludes. -/
theorem occurrences_isolatesRuleFailures_thirtieths : ∃ stream,
    onThirtiethsOfFebruary.occurrences (Resolver.empty Zone.Atlas.database).clocks .unbounded =
      .ok stream ∧
    successes stream.toList = successes stream.settled.toList ∧
    (∃ taken : Option Failure, (taken = none ∨ taken = some (.evaluation (.emptySteps 1000))) ∧
      (failures stream.toList).Perm (failures stream.settled.toList ++
        [.evaluation (.emptySteps 1000)] ++ taken.toList)) ∧
    stream.IsFused := by
  obtain ⟨run, hrun⟩ : ∃ run, Run.start (Resolver.empty Zone.Atlas.database).clocks
      thirtiethOfFebruary (.date 0) = .ok run := ⟨_, rfl⟩
  have hrunIn : onThirtiethsOfFebruary.runIn (Resolver.empty Zone.Atlas.database).clocks .unbounded
      thirtiethOfFebruary = .ok run := (runIn_unbounded _ _ _).trans hrun
  have hlist : [thirtiethOfFebruary].mapM (onThirtiethsOfFebruary.runIn
      (Resolver.empty Zone.Atlas.database).clocks .unbounded) = .ok [run] := by
    rw [mapM_eq_ok_iff]
    exact congrArg (fun one => [one]) hrunIn
  obtain ⟨stream, hstream⟩ : ∃ stream, onThirtiethsOfFebruary.occurrences
      (Resolver.empty Zone.Atlas.database).clocks .unbounded = .ok stream := by
    unfold occurrences occurrencesAt
    rw [show onThirtiethsOfFebruary.rules = [thirtiethOfFebruary] from rfl,
      show onThirtiethsOfFebruary.exclusionRules = [thirtiethOfFebruary] from rfl, hlist]
    exact ⟨_, rfl⟩
  obtain ⟨⟨-, hsame⟩, ⟨rules, exclusionRules, given, taken, hrules, hexclusionRules, -, htaken,
    hperm, hends⟩, hfused⟩ := occurrences_isolatesRuleFailures hstream
  have hgaveUp := mem_toList_thirtiethOfFebruary hrun
  obtain rfl : rules = [run] := Except.ok.inj ((mapM_eq_ok_iff.2 hrules).symm.trans hlist)
  obtain rfl : exclusionRules = [run] :=
    Except.ok.inj ((mapM_eq_ok_iff.2 hexclusionRules).symm.trans hlist)
  -- The one run ends in the failure that each of the rules may give.
  obtain ⟨first, _, hfirst, hnone, rfl⟩ := List.forall₂_cons_left_iff.1 (hends rfl)
  obtain rfl := hfirst.eq_some hgaveUp
  obtain rfl := List.forall₂_nil_left_iff.1 hnone
  obtain ⟨second, _, ⟨failure, hfailure, hsecond⟩, hnone', rfl⟩ :=
    List.forall₂_cons_left_iff.1 htaken
  obtain rfl := hfailure.eq_some hgaveUp
  obtain rfl := List.forall₂_nil_left_iff.1 hnone'
  refine ⟨stream, hstream, hsame, ⟨second, hsecond, ?_⟩, hfused⟩
  cases second <;> exact hperm

end RecurrenceSet
end Recurrence
