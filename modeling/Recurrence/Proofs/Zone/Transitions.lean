import Mathlib
import Recurrence.Zone.Atlas
import Recurrence.Proofs.Zone.Onsets
import Recurrence.Proofs.Zone.Spaced

/-! Transitions beside offsets. The offset at an instant is that of the observance
declared last among those with the latest onset; transitions go through all onsets
in order of time, where those of one instant stay in the order of declaration. Both
come to the same offset between whole seconds. A moment inside a second hides what
comes with that second: transitions stop a second before the one moment, and take the
offset of a second before the other to be in effect. -/
namespace Recurrence
open Calendar Zone

namespace Zone

/-- The offset in effect at an instant by the last transition not after it, or an
offset from before all of them. -/
def inEffect (before : Offset) (transitions : List Transition) (instant : Int) : Offset :=
  (transitions.filter (·.instant ≤ instant)).getLast?.elim before Transition.after

/-- Whether transitions follow each other: in order of time, each from the offset that
the one before leads to, and to another. -/
structure Follow (before : Offset) (transitions : List Transition) : Prop where
  ascends : transitions.Pairwise (·.instant ≤ ·.instant)
  changes : ∀ transition ∈ transitions, transition.before ≠ transition.after
  chain : transitions.IsChain fun earlier later => later.before = earlier.after
  first : ∀ transition ∈ transitions.head?, transition.before = before

namespace VTimezone

/-- The offset behind onsets in order of time. -/
def offsetBehind (before : Offset) (onsets : List (Int × Observance)) : Offset :=
  onsets.getLast?.elim before fun onset => onset.2.offsetTo

theorem offsetBehind_cons (before : Offset) (onset : Int × Observance)
    (rest : List (Int × Observance)) :
    offsetBehind before (onset :: rest) = offsetBehind onset.2.offsetTo rest := by
  unfold offsetBehind
  rw [List.getLast?_cons]
  cases rest.getLast? <;> rfl

section TransitionsOf

variable {before : Offset} {onsets : List (Int × Observance)}

theorem exists_mem_of_mem_transitionsOf {transition : Transition}
    (h : transition ∈ transitionsOf before onsets) :
    ∃ o, (transition.instant, o) ∈ onsets ∧ o.offsetTo = transition.after := by
  fun_induction transitionsOf before onsets with
  | case1 => cases h
  | case2 instant o rest ih =>
    obtain ⟨found, hmem, heq⟩ := ih h
    exact ⟨found, List.mem_cons_of_mem _ hmem, heq⟩
  | case3 before instant o rest hne ih =>
    rcases List.mem_cons.1 h with rfl | h
    · exact ⟨o, List.mem_cons_self, rfl⟩
    · obtain ⟨found, hmem, heq⟩ := ih h
      exact ⟨found, List.mem_cons_of_mem _ hmem, heq⟩

theorem exists_onset_of_mem_transitionsOf {transition : Transition}
    (h : transition ∈ transitionsOf before onsets) :
    ∃ onset ∈ onsets, onset.1 = transition.instant := by
  obtain ⟨o, hmem, -⟩ := exists_mem_of_mem_transitionsOf h
  exact ⟨_, hmem, rfl⟩

theorem follow_transitionsOf (h : onsets.Pairwise (·.1 ≤ ·.1)) :
    Follow before (transitionsOf before onsets) := by
  fun_induction transitionsOf before onsets with
  | case1 => exact ⟨List.Pairwise.nil, by simp, List.IsChain.nil, by simp⟩
  | case2 instant o rest ih => exact ih h.of_cons
  | case3 before instant o rest hne ih =>
    obtain ⟨hfirst, hrest⟩ := List.pairwise_cons.1 h
    obtain ⟨hascends, hchanges, hchain, hnext⟩ := ih hrest
    refine ⟨List.pairwise_cons.2 ⟨fun later hmem => ?_, hascends⟩,
      List.forall_mem_cons.2 ⟨fun heq => hne heq.symm, hchanges⟩,
      List.isChain_cons.2 ⟨hnext, hchain⟩, ?_⟩
    · obtain ⟨onset, hmem, heq⟩ := exists_onset_of_mem_transitionsOf hmem
      exact heq ▸ hfirst onset hmem
    · rintro _ ⟨⟩
      rfl

theorem filter_transitionsOf (h : onsets.Pairwise (·.1 ≤ ·.1)) (instant : Int) :
    (transitionsOf before onsets).filter (·.instant ≤ instant) =
      transitionsOf before (onsets.filter (·.1 ≤ instant)) := by
  fun_induction transitionsOf before onsets with
  | case1 => rfl
  | case2 onset o rest ih =>
    rw [ih h.of_cons]
    by_cases hle : onset ≤ instant
    · rw [List.filter_cons_of_pos (by simpa using hle), transitionsOf, if_pos rfl]
    · rw [List.filter_cons_of_neg (by simpa using hle)]
  | case3 before onset o rest hne ih =>
    obtain ⟨hfirst, hrest⟩ := List.pairwise_cons.1 h
    by_cases hle : onset ≤ instant
    · rw [List.filter_cons_of_pos (by simpa using hle),
        List.filter_cons_of_pos (by simpa using hle), transitionsOf, if_neg hne, ih hrest]
    · -- All other onsets are as late.
      have hnone : rest.filter (·.1 ≤ instant) = [] := by
        rw [List.filter_eq_nil_iff]
        intro other hmem
        have := hfirst other hmem
        simp only [decide_eq_true_eq]
        omega
      rw [List.filter_cons_of_neg (by simpa using hle), List.filter_cons_of_neg (by simpa using hle),
        ih hrest, hnone]
      rfl

theorem after_transitionsOf (before : Offset) (onsets : List (Int × Observance)) :
    (transitionsOf before onsets).getLast?.elim before Transition.after =
      offsetBehind before onsets := by
  fun_induction transitionsOf before onsets with
  | case1 => rfl
  | case2 instant o rest ih => rw [offsetBehind_cons, ih]
  | case3 before instant o rest hne ih =>
    rw [offsetBehind_cons, ← ih, List.getLast?_cons]
    cases (transitionsOf o.offsetTo rest).getLast? <;> rfl

theorem inEffect_transitionsOf (h : onsets.Pairwise (·.1 ≤ ·.1)) (instant : Int) :
    inEffect before (transitionsOf before onsets) instant =
      offsetBehind before (onsets.filter (·.1 ≤ instant)) := by
  rw [inEffect, filter_transitionsOf h, after_transitionsOf]

end TransitionsOf

/-- Of onsets up to an instant the later one is at that instant if the second is, and
otherwise if the first was. -/
theorem later_spec {best : Option (Int × Observance)} {onset latest : Int} (o : Observance)
    (hbest : ∀ first ∈ best, first.1 ≤ latest) (hle : onset ≤ latest) :
    (∀ second ∈ later best (onset, o), second.1 ≤ latest) ∧
    (later best (onset, o)).filter (·.1 = latest) =
      if onset = latest then some (onset, o) else best.filter (·.1 = latest) := by
  cases best with
  | none => by_cases hat : onset = latest <;> simp [later, hat, hle]
  | some first =>
    have hfirst := hbest first rfl
    by_cases hbehind : first.1 ≤ onset
    · by_cases hat : onset = latest
      · subst hat
        simp [later, hbehind]
      · have hearly : first.1 ≠ latest := by omega
        simp [later, hbehind, hat, hle, hearly, Option.filter]
    · have hat : onset ≠ latest := by omega
      simp [later, hbehind, hat, hfirst]

/-- The onset that is looked for is that of the observance declared last among those
with a greatest one. -/
theorem foldl_later_spec {observances : List Observance} {latest? : Observance → Option Int}
    {latest : Int} (hle : ∀ o ∈ observances, ∀ onset ∈ latest? o, onset ≤ latest) :
    (∀ best ∈ (observances.filterMap fun o => (latest? o).map (·, o)).foldl later none,
      best.1 ≤ latest) ∧
    ((observances.filterMap fun o => (latest? o).map (·, o)).foldl later none).filter
        (·.1 = latest) =
      (observances.filter (latest? · = some latest)).getLast?.map (latest, ·) := by
  -- From the end of the list: the last observance with the greatest onset wins.
  induction observances using List.reverseRecOn with
  | nil => simp
  | append_singleton before o ih =>
    obtain ⟨hbest, heq⟩ := ih fun other hmem => hle other (List.mem_append_left _ hmem)
    have hlast := hle o (by simp)
    rw [List.filterMap_append, List.foldl_append, List.filter_append]
    generalize (before.filterMap fun o => (latest? o).map (·, o)).foldl later none = best at *
    cases honset : latest? o with
    | none =>
      simp only [honset, List.filterMap_cons, List.filterMap_nil, Option.map_none, List.foldl_nil,
        reduceCtorEq, decide_false, Bool.false_eq_true, not_false_eq_true,
        List.filter_cons_of_neg, List.filter_nil, List.append_nil]
      exact ⟨hbest, heq⟩
    | some onset =>
      simp only [honset, List.filterMap_cons, List.filterMap_nil, Option.map_some, List.foldl_cons,
        List.foldl_nil]
      obtain ⟨hlater, hfilter⟩ := later_spec o hbest (hlast onset honset)
      refine ⟨hlater, ?_⟩
      rw [hfilter, heq]
      by_cases hat : onset = latest <;> simp [honset, hat]

/-- At one instant the last of all onsets is that of the observance declared last. -/
theorem getLast?_filter_onsets (onsets : Observance → List Int) (latest : Int)
    (observances : List Observance) :
    ((observances.flatMap fun o => (onsets o).map (·, o)).filter (·.1 = latest)).getLast? =
      (observances.filter (latest ∈ onsets ·)).getLast?.map (latest, ·) := by
  induction observances using List.reverseRecOn with
  | nil => rfl
  | append_singleton before o ih =>
    have hlast : (((onsets o).map (·, o)).filter (·.1 = latest)).getLast? =
        if latest ∈ onsets o then some (latest, o) else none := by
      cases hfound : (((onsets o).map (·, o)).filter (·.1 = latest)).getLast? with
      | none =>
        rw [if_neg]
        intro hmem
        rw [List.getLast?_eq_none_iff, List.filter_eq_nil_iff] at hfound
        exact hfound (latest, o) (List.mem_map_of_mem hmem) (by simp)
      | some found =>
        obtain ⟨hmem, hat⟩ := List.mem_filter.1 (List.mem_of_getLast? hfound)
        obtain ⟨onset, honset, rfl⟩ := List.mem_map.1 hmem
        obtain rfl : onset = latest := of_decide_eq_true hat
        rw [if_pos honset]
    rw [List.flatMap_append, List.filter_append, List.filter_append, List.getLast?_append, ih,
      List.flatMap_singleton, hlast]
    by_cases hmem : latest ∈ onsets o <;> simp [hmem]

theorem offsetAt_of_getLast? {clocks : Clocks} {zone : VTimezone} {instant latest : Int}
    (hle : ∀ o ∈ zone.observances, ∀ onset ∈ o.latestOnset? clocks instant, onset ≤ latest)
    {o : Observance}
    (ho : (zone.observances.filter (·.latestOnset? clocks instant = some latest)).getLast? =
      some o) : zone.offsetAt clocks instant = o.offsetTo := by
  have hspec := (foldl_later_spec hle).2
  rw [ho] at hspec
  obtain ⟨hbest, -⟩ := Option.filter_eq_some_iff.1 hspec
  unfold offsetAt offsetAtMoment observanceAt?
  dsimp only
  rw [hbest]
  rfl

section OffsetAt

variable {clocks : Clocks} {zone : VTimezone} (hdaily : ∀ o ∈ zone.observances, o.IsDaily)
include hdaily

theorem offsetAt_eq_of_no_onset {early instant : Int} (hearly : IsInside 733 early)
    (hinside : IsInside 733 instant) (hle : early ≤ instant)
    (hnone : ∀ o ∈ zone.observances, ∀ onset, o.HasOnset clocks onset → onset ≤ instant →
      onset ≤ early) : zone.offsetAt clocks instant = zone.offsetAt clocks early := by
  have hlatest : ∀ o ∈ zone.observances,
      o.latestOnset? clocks instant = o.latestOnset? clocks early := by
    intro o ho
    have hsame : {onset | o.HasOnset clocks onset ∧ onset ≤ instant} =
        {onset | o.HasOnset clocks onset ∧ onset ≤ early} := by
      ext onset
      exact ⟨fun h => ⟨h.1, hnone o ho onset h.1 h.2⟩, fun h => ⟨h.1, h.2.trans hle⟩⟩
    apply Option.ext
    intro latest
    rw [Observance.latestOnset?_eq_some_iff (hdaily o ho) hinside, hsame,
      Observance.latestOnset?_eq_some_iff (hdaily o ho) hearly]
  unfold offsetAt offsetAtMoment observanceAt?
  rw [List.filterMap_congr fun o ho => by rw [hlatest o ho]]

theorem offsetAtMoment_eq {moment : Moment} (hinside : IsInside 733 moment.second) :
    zone.offsetAtMoment clocks moment = zone.offsetAt clocks moment.second := by
  unfold offsetAt offsetAtMoment observanceAt?
  rw [List.filterMap_congr fun o ho => by
    rw [Observance.latestOnset?_eq_second (hdaily o ho) hinside]]

variable {first last : Moment} (hfirst : IsInside 733 first.second)
  (hlast : IsInside 733 last.second)
include hfirst hlast

theorem mem_onsets_between_iff {o : Observance} (ho : o ∈ zone.observances) {onset : Int} :
    onset ∈ o.onsets clocks (some first) last ↔
      o.HasOnset clocks onset ∧ first.ceiling ≤ onset ∧ onset ≤ last.second := by
  have hinside : ∀ start ∈ some first, IsInside 1 start.second := by
    rintro _ ⟨⟩
    exact hfirst.mono (by omega)
  rw [Observance.mem_onsets_iff (hdaily o ho) hinside (hlast.mono (by omega))]
  simp

theorem offsetAt_of_latest {instant latest : Int} (hinside : IsInside 733 instant)
    (hto : instant ≤ last.second) (hfrom : first.ceiling ≤ latest) (hat : latest ≤ instant)
    (hgreatest : ∀ o ∈ zone.observances, ∀ onset, o.HasOnset clocks onset → onset ≤ instant →
      onset ≤ latest) {o : Observance}
    (ho : (zone.observances.filter fun o => latest ∈ o.onsets clocks (some first) last).getLast? =
      some o) : zone.offsetAt clocks instant = o.offsetTo := by
  -- What is an onset between the two moments and the greatest so far is the latest.
  have hmem : ∀ other ∈ zone.observances, (latest ∈ other.onsets clocks (some first) last ↔
      other.latestOnset? clocks instant = some latest) := by
    intro other hother
    rw [mem_onsets_between_iff hdaily hfirst hlast hother,
      Observance.latestOnset?_eq_some_iff (hdaily other hother) hinside]
    constructor
    · rintro ⟨honset, -, -⟩
      exact ⟨⟨honset, hat⟩, fun onset h => hgreatest other hother onset h.1 h.2⟩
    · rintro ⟨⟨honset, -⟩, -⟩
      exact ⟨honset, hfrom, hat.trans hto⟩
  have hlater : ∀ other ∈ zone.observances, ∀ onset ∈ other.latestOnset? clocks instant,
      onset ≤ latest := by
    intro other hother onset honset
    obtain ⟨⟨hon, hle⟩, -⟩ :=
      (Observance.latestOnset?_eq_some_iff (hdaily other hother) hinside).1 honset
    exact hgreatest other hother onset hon hle
  apply offsetAt_of_getLast? hlater
  rw [← List.filter_congr fun other hother => decide_eq_decide.2 (hmem other hother), ho]

end OffsetAt

/-- All onsets between two moments in order of time, those of one instant in the order
of declaration. -/
def onsetsBetween (clocks : Clocks) (zone : VTimezone) (first last : Moment) :
    List (Int × Observance) :=
  (zone.observances.flatMap fun o =>
    (o.onsets clocks (some first) last).map (·, o)).mergeSort fun a b => a.1 ≤ b.1

theorem mem_onsetsBetween {clocks : Clocks} {zone : VTimezone} {first last : Moment} {onset : Int}
    {o : Observance} : (onset, o) ∈ zone.onsetsBetween clocks first last ↔
      o ∈ zone.observances ∧ onset ∈ o.onsets clocks (some first) last := by
  rw [onsetsBetween, List.mem_mergeSort, List.mem_flatMap]
  constructor
  · rintro ⟨_, ho, hmem⟩
    obtain ⟨_, hmem, heq⟩ := List.mem_map.1 hmem
    cases heq
    exact ⟨ho, hmem⟩
  · rintro ⟨ho, hmem⟩
    exact ⟨o, ho, List.mem_map_of_mem hmem⟩

theorem pairwise_onsetsBetween (clocks : Clocks) (zone : VTimezone) (first last : Moment) :
    (zone.onsetsBetween clocks first last).Pairwise (·.1 ≤ ·.1) :=
  pairwise_mergeSort_key Prod.fst _

theorem getLast?_filter_onsetsBetween (clocks : Clocks) (zone : VTimezone)
    (first last : Moment) (latest : Int) :
    ((zone.onsetsBetween clocks first last).filter (·.1 = latest)).getLast? =
      (zone.observances.filter fun o => latest ∈ o.onsets clocks (some first) last).getLast?.map
        (latest, ·) := by
  rw [onsetsBetween, filter_mergeSort_key Prod.fst]
  exact getLast?_filter_onsets (fun o => o.onsets clocks (some first) last) latest _

theorem transitions_eq (clocks : Clocks) (zone : VTimezone) {start stop : Moment}
    (hstart : IsInside 1 start.second) (hstop : IsInside 1 stop.second) :
    zone.transitions clocks start stop = transitionsOf
      (zone.offsetAtMoment clocks (start.add (-1)))
      (zone.onsetsBetween clocks start (stop.add (-1))) := by
  rw [transitions, hstop.move? (by omega) (by omega), hstart.move? (by omega) (by omega)]
  rfl

section Behind

variable {clocks : Clocks} {zone : VTimezone} (hdaily : ∀ o ∈ zone.observances, o.IsDaily)
  {first last : Moment} {instant : Int} (hfirst : IsInside 733 first.second)
  (hlast : IsInside 733 last.second) (hto : instant ≤ last.second)
include hdaily hfirst hlast hto

theorem mem_filter_onsetsBetween_iff {onset : Int} {o : Observance} :
    (onset, o) ∈ (zone.onsetsBetween clocks first last).filter (·.1 ≤ instant) ↔
      o ∈ zone.observances ∧ o.HasOnset clocks onset ∧ first.ceiling ≤ onset ∧
        onset ≤ instant := by
  rw [List.mem_filter, mem_onsetsBetween, decide_eq_true_eq]
  constructor
  · rintro ⟨⟨ho, honset⟩, hle⟩
    rw [mem_onsets_between_iff hdaily hfirst hlast ho] at honset
    exact ⟨ho, honset.1, honset.2.1, hle⟩
  · rintro ⟨ho, honset, hge, hle⟩
    refine ⟨⟨ho, ?_⟩, hle⟩
    rw [mem_onsets_between_iff hdaily hfirst hlast ho]
    exact ⟨honset, hge, hle.trans hto⟩

/-- The last onset up to an instant is declared last among those that come with it, and no
other has come later by then. -/
theorem of_getLast?_filter_onsetsBetween {latest : Int} {o : Observance}
    (hl : ((zone.onsetsBetween clocks first last).filter (·.1 ≤ instant)).getLast? =
      some (latest, o)) :
    (zone.observances.filter fun o => latest ∈ o.onsets clocks (some first) last).getLast? =
        some o ∧
      ∀ other ∈ zone.observances, ∀ onset, other.HasOnset clocks onset → onset ≤ instant →
        onset ≤ latest := by
  obtain ⟨-, -, hge, hat⟩ :=
    (mem_filter_onsetsBetween_iff hdaily hfirst hlast hto).1 (List.mem_of_getLast? hl)
  constructor
  · have hfilter : ((zone.onsetsBetween clocks first last).filter (·.1 ≤ instant)).filter
        (·.1 = latest) = (zone.onsetsBetween clocks first last).filter (·.1 = latest) := by
      rw [List.filter_filter]
      refine List.filter_congr fun event _ => ?_
      by_cases heq : event.1 = latest <;> simp [heq, hat]
    have hlatest := getLast?_filter_key Prod.fst hl
    rw [hfilter, getLast?_filter_onsetsBetween, Option.map_eq_some_iff] at hlatest
    obtain ⟨_, hdeclared, heq⟩ := hlatest
    cases heq
    exact hdeclared
  · intro other hother onset hon hle
    by_cases hearly : onset < first.ceiling
    · exact hearly.le.trans hge
    · exact key_le_of_getLast? Prod.fst ((pairwise_onsetsBetween clocks zone first last).filter _) hl
        ((mem_filter_onsetsBetween_iff hdaily hfirst hlast hto).2
          ⟨hother, hon, not_lt.1 hearly, hle⟩)

end Behind

/-- Behind the onsets up to an instant the offset of that instant is in effect, if before
them that of the second before them is. -/
theorem offsetBehind_onsetsBetween {clocks : Clocks} {zone : VTimezone}
    (hdaily : ∀ o ∈ zone.observances, o.IsDaily) {first last : Moment} {instant : Int}
    (hfirst : IsInside 734 first.second) (hlast : IsInside 733 last.second)
    (hfrom : first.ceiling - 1 ≤ instant) (hto : instant ≤ last.second) :
    offsetBehind (zone.offsetAt clocks (first.ceiling - 1))
      ((zone.onsetsBetween clocks first last).filter (·.1 ≤ instant)) =
        zone.offsetAt clocks instant := by
  have hbounds := first.ceiling_bounds
  obtain ⟨hlow, hhigh⟩ := hfirst
  have hfirst : IsInside 733 first.second := ⟨by omega, by omega⟩
  have hinside : IsInside 733 instant := ⟨by omega, hto.trans hlast.2⟩
  unfold offsetBehind
  cases hl : ((zone.onsetsBetween clocks first last).filter (·.1 ≤ instant)).getLast? with
  | none =>
    -- Without an onset since the start the offset before it still holds.
    refine (offsetAt_eq_of_no_onset hdaily ⟨by omega, by omega⟩ hinside hfrom ?_).symm
    intro o ho onset honset hle
    by_contra hge
    have hmem := (mem_filter_onsetsBetween_iff hdaily hfirst hlast hto).2
      ⟨ho, honset, by omega, hle⟩
    rw [List.getLast?_eq_none_iff.1 hl] at hmem
    cases hmem
  | some found =>
    obtain ⟨latest, o⟩ := found
    obtain ⟨-, -, hge, hat⟩ :=
      (mem_filter_onsetsBetween_iff hdaily hfirst hlast hto).1 (List.mem_of_getLast? hl)
    obtain ⟨hdeclared, hgreatest⟩ :=
      of_getLast?_filter_onsetsBetween hdaily hfirst hlast hto hl
    exact (offsetAt_of_latest hdaily hfirst hlast hinside hto hge hat hgreatest
      hdeclared).symm

/-- Whether the offset does not change at the start of the second in which a moment lies,
unless the moment is that start. -/
def KeepsAt (clocks : Clocks) (zone : VTimezone) (moment : Moment) : Prop :=
  ¬ moment.IsWhole →
    zone.offsetAt clocks moment.second = zone.offsetAt clocks (moment.second - 1)

theorem keepsAt_ofSecond (clocks : Clocks) (zone : VTimezone) (instant : Int) :
    zone.KeepsAt clocks instant :=
  fun h => absurd rfl h

/-- Before the first whole second behind a moment the offset of a second before the moment
is in effect. -/
theorem KeepsAt.offsetAt_eq {clocks : Clocks} {zone : VTimezone} {moment : Moment}
    (h : zone.KeepsAt clocks moment) :
    zone.offsetAt clocks (moment.ceiling - 1) = zone.offsetAt clocks (moment.second - 1) := by
  by_cases hwhole : moment.IsWhole
  · rw [Moment.ceiling_eq_second hwhole]
  · rw [Moment.ceiling_eq_succ hwhole, add_sub_cancel_right]
    exact h hwhole

section Agree

variable {clocks : Clocks} {zone : VTimezone} (hdaily : ∀ o ∈ zone.observances, o.IsDaily)
  {start stop : Moment} (hstart : IsInside 1095 start.second) (hstop : IsInside 1095 stop.second)
include hdaily hstart hstop

theorem bounds_of_mem_transitions {transition : Transition}
    (hmem : transition ∈ zone.transitions clocks start stop) :
    start ≤ transition.instant ∧ transition.instant < stop := by
  have hlast : IsInside 733 (stop.add (-1)).second := hstop.second_before (by omega)
  rw [transitions_eq clocks zone (hstart.mono (by omega)) (hstop.mono (by omega))] at hmem
  obtain ⟨⟨onset, o⟩, hevent, rfl⟩ := exists_onset_of_mem_transitionsOf hmem
  obtain ⟨ho, honset⟩ := mem_onsetsBetween.1 hevent
  obtain ⟨-, hfrom, hto⟩ :=
    (mem_onsets_between_iff hdaily (hstart.mono (by omega)) hlast ho).1 honset
  have hbounds := stop.ceiling_bounds
  rw [Moment.second_add] at hto
  exact ⟨Moment.le_ofSecond_iff.2 hfrom, Moment.ofSecond_lt_iff.2 (by omega)⟩

theorem offsetAt_eq_inEffect (hkeeps : zone.KeepsAt clocks start)
    (hkeeps' : zone.KeepsAt clocks stop) {instant : Int} (hfrom : start ≤ instant)
    (hto : instant < stop) : zone.offsetAt clocks instant =
      inEffect (zone.offsetAtMoment clocks (start.add (-1)))
        (zone.transitions clocks start stop) instant := by
  rw [Moment.le_ofSecond_iff] at hfrom
  rw [Moment.ofSecond_lt_iff] at hto
  have hbounds := start.ceiling_bounds
  have hbounds' := stop.ceiling_bounds
  have hfirst : IsInside 734 start.second := hstart.mono (by omega)
  have hbefore : IsInside 733 (start.add (-1)).second := hstart.second_before (by omega)
  have hlast : IsInside 733 (stop.add (-1)).second := hstop.second_before (by omega)
  rw [transitions_eq clocks zone (hstart.mono (by omega)) (hstop.mono (by omega)),
    inEffect_transitionsOf (pairwise_onsetsBetween clocks zone start (stop.add (-1))),
    offsetAtMoment_eq hdaily hbefore, Moment.second_add, ← sub_eq_add_neg, ← hkeeps.offsetAt_eq]
  by_cases hwithin : instant ≤ stop.second - 1
  · exact (offsetBehind_onsetsBetween hdaily hfirst hlast (by omega)
      (by rw [Moment.second_add]; omega)).symm
  · -- In the second of the last moment that of a second before is still in effect.
    obtain rfl : instant = stop.ceiling - 1 := by omega
    have hsame : (zone.onsetsBetween clocks start (stop.add (-1))).filter
        (·.1 ≤ stop.ceiling - 1) = (zone.onsetsBetween clocks start (stop.add (-1))).filter
          (·.1 ≤ stop.second - 1) := by
      refine List.filter_congr fun event hevent => ?_
      obtain ⟨ho, honset⟩ := mem_onsetsBetween.1 hevent
      have hlate := ((mem_onsets_between_iff hdaily (hfirst.mono (by omega)) hlast ho).1 honset).2.2
      rw [Moment.second_add] at hlate
      exact decide_eq_decide.2 ⟨fun _ => by omega, fun _ => by omega⟩
    rw [hsame, offsetBehind_onsetsBetween hdaily hfirst hlast (by omega)
      (by rw [Moment.second_add]; omega), hkeeps'.offsetAt_eq]

end Agree

/-- Three years inside the calendar the transitions between two moments tell the offset
at each instant between them, if it does not change in the seconds of those moments. They
lie between them and follow each other in any case. -/
theorem transitions_agree (clocks : Clocks) (zone : VTimezone)
    (hdaily : ∀ o ∈ zone.observances, o.IsDaily) {start stop : Moment}
    (hstart : IsInside 1095 start.second) (hstop : IsInside 1095 stop.second) :
    (zone.KeepsAt clocks start → zone.KeepsAt clocks stop →
      ∀ instant : Int, start ≤ instant → instant < stop → zone.offsetAt clocks instant =
        inEffect (zone.offsetAtMoment clocks (start.add (-1)))
          (zone.transitions clocks start stop) instant) ∧
    (∀ transition ∈ zone.transitions clocks start stop,
      start ≤ transition.instant ∧ transition.instant < stop) ∧
    Follow (zone.offsetAtMoment clocks (start.add (-1))) (zone.transitions clocks start stop) := by
  refine ⟨fun hkeeps hkeeps' _ hfrom hto =>
    offsetAt_eq_inEffect hdaily hstart hstop hkeeps hkeeps' hfrom hto,
    fun _ hmem => bounds_of_mem_transitions hdaily hstart hstop hmem, ?_⟩
  rw [transitions_eq clocks zone (hstart.mono (by omega)) (hstop.mono (by omega))]
  exact follow_transitionsOf (pairwise_onsetsBetween clocks zone start (stop.add (-1)))

/-- An hour of summer time every year from the first of April to the first of October. -/
def withSummerTime : VTimezone where
  tzid := "Summer"
  observances := [
    ⟨.daylight, midnight 90 + 7200, .utc, .hourAhead, some (.ofFrequency .yearly), [], none⟩,
    ⟨.standard, midnight 273 + 10800, .hourAhead, .utc, some (.ofFrequency .yearly), [], none⟩]

/-- Eighty years of summer time, from half a second behind midnight on. -/
theorem transitions_agree_withSummerTime :
    let clocks := Atlas.database.clocks
    let start : Moment := ⟨midnight 0, 500000000⟩
    let stop : Moment := midnight 29220
    (∀ o ∈ withSummerTime.observances, o.IsDaily) ∧ withSummerTime.KeepsAt clocks start ∧
    (∀ instant : Int, start ≤ instant → instant < stop →
      withSummerTime.offsetAt clocks instant =
        inEffect (withSummerTime.offsetAtMoment clocks (start.add (-1)))
          (withSummerTime.transitions clocks start stop) instant) ∧
    Follow (withSummerTime.offsetAtMoment clocks (start.add (-1)))
      (withSummerTime.transitions clocks start stop) := by
  intro clocks start stop
  have hdaily : ∀ o ∈ withSummerTime.observances, o.IsDaily := by
    simp only [withSummerTime, List.forall_mem_cons, List.not_mem_nil, IsEmpty.forall_iff,
      implies_true, and_true]
    exact ⟨⟨by decide, by rintro _ ⟨⟩; rfl⟩, ⟨by decide, by rintro _ ⟨⟩; rfl⟩⟩
  have hkeeps : withSummerTime.KeepsAt clocks start := by
    intro _
    refine offsetAt_eq_of_no_onset hdaily ⟨by decide, by decide⟩ ⟨by decide, by decide⟩
      (by decide) fun o ho onset honset hle => ?_
    -- The first onset comes in April.
    have hlate : ∀ o ∈ withSummerTime.observances,
        o.extra = [] ∧ midnight 90 < o.start - o.offsetFrom.seconds := by decide
    obtain ⟨hextra, hlate⟩ := hlate o ho
    have hfirst := Observance.le_of_hasOnset (hdaily o ho).start_mem (by simp [hextra]) honset
    have hbefore : start.second < midnight 90 := by decide
    omega
  obtain ⟨hagree, -, hfollow⟩ := transitions_agree clocks withSummerTime hdaily
    (show IsInside 1095 start.second from ⟨by decide, by decide⟩)
    (show IsInside 1095 stop.second from ⟨by decide, by decide⟩)
  exact ⟨hdaily, hkeeps, hagree hkeeps (keepsAt_ofSecond clocks _ _), hfollow⟩

end VTimezone

/-- An offset in place of UTC from one instant on. -/
def Observance.since (onset : Int) (offset : Offset) : Observance :=
  ⟨.standard, onset, .utc, offset, none, [], none⟩

theorem Observance.onsetAt?_since {onset : Int} (h : Representable onset) (offset : Offset) :
    (Observance.since onset offset).onsetAt? onset = some onset :=
  onsetAt?_eq_some_iff.2 ⟨(Int.sub_zero onset).symm, h⟩

namespace VTimezone

/-- UTC up to an instant, and another offset from it on. -/
def since (onset : Int) (offset : Offset) : VTimezone := ⟨"Once", [.since onset offset]⟩

section Since

variable (clocks : Clocks) {onset : Int} (honset : Representable onset) (offset : Offset)
include honset

theorem isDaily_since : ∀ o ∈ (since onset offset).observances, o.IsDaily := by
  simp only [since, List.forall_mem_singleton]
  exact ⟨honset, by rintro _ ⟨⟩⟩

theorem offsetAt_since (instant : Int) :
    (since onset offset).offsetAt clocks instant = if onset ≤ instant then offset else .utc :=
  offsetAt_of_once clocks rfl (Observance.onsetAt?_since honset offset) rfl rfl instant

/-- Between two moments there is no transition if the onset comes before the first of them,
or not a second before the last. -/
theorem inEffect_since {start stop : Moment} (hstart : IsInside 734 start.second)
    (hstop : IsInside 1 stop.second) (hout : onset < start.ceiling ∨ stop.second ≤ onset)
    (instant : Int) :
    inEffect ((since onset offset).offsetAtMoment clocks (start.add (-1)))
      ((since onset offset).transitions clocks start stop) instant =
        (since onset offset).offsetAt clocks (start.second - 1) := by
  have hbefore : IsInside 733 (start.add (-1)).second := hstart.second_before (by omega)
  have hnone : (since onset offset).onsetsBetween clocks start (stop.add (-1)) = [] := by
    have honsets := Observance.onsets_of_once clocks (Observance.onsetAt?_since honset offset)
      rfl rfl (some start) (stop.add (-1))
    rw [if_neg (by simp; omega)] at honsets
    simp [onsetsBetween, since, honsets]
  rw [transitions_eq clocks _ (hstart.mono (by omega)) hstop, hnone,
    offsetAtMoment_eq (isDaily_since honset offset) hbefore]
  rfl

end Since

/-- Half a second behind an onset it is missed, by transitions up to there and by those
from there on. -/
theorem not_transitions_agree_halfSecond :
    let zone := since 0 .hourAhead
    let clocks := Atlas.database.clocks
    let before : Moment := (-86400 : Int)
    let behind : Moment := ⟨0, 500000000⟩
    let later : Moment := (86400 : Int)
    (∀ o ∈ zone.observances, o.IsDaily) ∧ IsInside 1095 before.second ∧
    IsInside 1095 behind.second ∧ IsInside 1095 later.second ∧
    before ≤ (0 : Int) ∧ (0 : Int) < behind ∧ zone.offsetAt clocks 0 = .hourAhead ∧
    inEffect (zone.offsetAtMoment clocks (before.add (-1)))
      (zone.transitions clocks before behind) 0 = .utc ∧
    behind ≤ (1 : Int) ∧ (1 : Int) < later ∧ zone.offsetAt clocks 1 = .hourAhead ∧
    inEffect (zone.offsetAtMoment clocks (behind.add (-1)))
      (zone.transitions clocks behind later) 1 = .utc := by
  intro zone clocks before behind later
  have hzero : Representable 0 := by decide
  refine ⟨isDaily_since hzero .hourAhead, ⟨by decide, by decide⟩, ⟨by decide, by decide⟩,
    ⟨by decide, by decide⟩, by decide, by decide, ?_, ?_, by decide, by decide, ?_, ?_⟩
  · exact offsetAt_since clocks hzero .hourAhead 0
  · rw [inEffect_since clocks hzero .hourAhead ⟨by decide, by decide⟩ ⟨by decide, by decide⟩
      (by decide) 0]
    exact offsetAt_since clocks hzero .hourAhead (-86400 - 1)
  · exact offsetAt_since clocks hzero .hourAhead 1
  · rw [inEffect_since clocks hzero .hourAhead ⟨by decide, by decide⟩ ⟨by decide, by decide⟩
      (by decide) 1]
    exact offsetAt_since clocks hzero .hourAhead (0 - 1)

end VTimezone
end Zone
end Recurrence
