import Mathlib
import Recurrence.Zone.Resolver
import Recurrence.Proofs.Zone.Spaced
import Recurrence.Proofs.Zone.Transitions

/-! The greatest offset between two instants. It is found among transitions, which tell
all offsets in effect; but of onsets at one instant each may stand there, while only the
offset of the observance declared last comes into effect. -/
namespace Recurrence
open Calendar Zone

theorem Offset.eq_of_seconds {one other : Offset} (h : one.seconds = other.seconds) :
    one = other := by
  have hone := one.ofSeconds?_seconds
  rw [h, other.ofSeconds?_seconds] at hone
  exact (Option.some.inj hone).symm

theorem Offset.foldl_max_spec (first : Offset) (others : List Offset) :
    others.foldl max first ∈ first :: others ∧
      ∀ offset ∈ first :: others, offset.seconds ≤ (others.foldl max first).seconds := by
  induction others generalizing first with
  | nil => simp
  | cons second others ih =>
    obtain ⟨hmem, hle⟩ := ih (first.max second)
    have hmax : first.max second ∈ [first, second] ∧
        first.seconds ≤ (first.max second).seconds ∧
        second.seconds ≤ (first.max second).seconds := by
      unfold Offset.max
      split
      · exact ⟨by simp, ‹_›, le_rfl⟩
      · exact ⟨by simp, le_rfl, by omega⟩
    rw [List.foldl_cons]
    constructor
    · rcases List.mem_cons.1 hmem with heq | hmem
      · rw [heq]
        exact List.mem_append_left others hmax.1
      · exact List.mem_cons_of_mem _ (List.mem_cons_of_mem _ hmem)
    · have hfirst := hle _ List.mem_cons_self
      refine List.forall_mem_cons.2 ⟨hmax.2.1.trans hfirst, List.forall_mem_cons.2
        ⟨hmax.2.2.trans hfirst, fun offset ho => hle offset (List.mem_cons_of_mem _ ho)⟩⟩

namespace TimeZone

/-- A zone under one offset, or one described by rules of days. -/
def IsFixedOrDaily : TimeZone → Prop
  | system (.fixed _ _) => True
  | system (.named _) => False
  | described zone => ∀ o ∈ zone.observances, o.IsDaily

/-- Whether at an onset between two instants an observance leads to an offset, but one
that is declared later leads to a smaller one at the same instant. -/
def Overrides (clocks : Clocks) (zone : TimeZone) (start stop : Int) (offset : Offset) : Prop :=
  match zone with
  | system _ => False
  | described zone => ∃ onset, start ≤ onset ∧ onset < stop ∧ ∃ earlier later,
      [earlier, later].Sublist zone.observances ∧ earlier.HasOnset clocks onset ∧
      later.HasOnset clocks onset ∧ earlier.offsetTo = offset ∧
      later.offsetTo.seconds < offset.seconds

variable {clocks : Clocks} {zone : TimeZone} {start stop : Int}

theorem maxOffset_spec (clocks : Clocks) (zone : TimeZone) (start stop : Int) :
    (zone.offsetAt clocks start).seconds ≤ (zone.maxOffset clocks start stop).seconds ∧
    (∀ transition ∈ zone.transitions clocks start stop,
      transition.after.seconds ≤ (zone.maxOffset clocks start stop).seconds) ∧
    (zone.maxOffset clocks start stop = zone.offsetAt clocks start ∨
      ∃ transition ∈ zone.transitions clocks start stop,
        transition.after = zone.maxOffset clocks start stop) := by
  obtain ⟨hmem, hle⟩ := Offset.foldl_max_spec (zone.offsetAt clocks start)
    ((zone.transitions clocks start stop).map Transition.after)
  refine ⟨hle _ List.mem_cons_self,
    fun transition ht => hle _ (List.mem_cons_of_mem _ (List.mem_map_of_mem ht)), ?_⟩
  rcases List.mem_cons.1 hmem with heq | hmem
  · exact .inl heq
  · exact .inr (List.mem_map.1 hmem)

end TimeZone

namespace Zone.VTimezone

variable {clocks : Clocks} {zone : VTimezone} {start stop : Int}
  (hdaily : ∀ o ∈ zone.observances, o.IsDaily) (hstart : IsInside 1095 start)
  (hstop : IsInside 1095 stop)
include hdaily hstart hstop

/-- An offset in effect is in effect at the start, or a transition leads to it. -/
theorem offsetAt_eq_or_mem_transitions {instant : Int} (hfrom : start ≤ instant)
    (hto : instant < stop) : zone.offsetAt clocks instant = zone.offsetAt clocks start ∨
      ∃ transition ∈ zone.transitions clocks start stop,
        transition.after = zone.offsetAt clocks instant := by
  have hagree : ∀ instant, start ≤ instant → instant < stop → zone.offsetAt clocks instant =
      inEffect (zone.offsetAtMoment clocks ((start : Moment).add (-1)))
        (zone.transitions clocks start stop) instant :=
    fun instant hfrom hto => offsetAt_eq_inEffect hdaily hstart hstop
      (keepsAt_ofSecond clocks zone start) (keepsAt_ofSecond clocks zone stop)
      (Moment.le_ofSecond_iff.2 hfrom) (Moment.ofSecond_lt_iff.2 hto)
  have hat := hagree instant hfrom hto
  unfold inEffect at hat
  cases hlast : ((zone.transitions clocks start stop).filter (·.instant ≤ instant)).getLast? with
  | some transition =>
    rw [hlast] at hat
    exact .inr ⟨transition, List.mem_of_mem_filter (List.mem_of_getLast? hlast), hat.symm⟩
  | none =>
    -- What lies behind the instant lies behind the start too.
    rw [List.getLast?_eq_none_iff] at hlast
    have hnone : (zone.transitions clocks start stop).filter (·.instant ≤ start) = [] := by
      rw [List.filter_eq_nil_iff] at hlast ⊢
      intro transition hmem
      have := hlast transition hmem
      simp only [decide_eq_true_eq] at this ⊢
      omega
    have hfirst := hagree start le_rfl (hfrom.trans_lt hto)
    rw [inEffect, hnone] at hfirst
    rw [hlast] at hat
    exact .inl (hat.trans hfirst.symm)

/-- A transition leads to the offset in effect at its instant, or to one that an
observance declared later overrides there. -/
theorem offsetAt_of_mem_transitions {transition : Transition}
    (hmem : transition ∈ zone.transitions clocks start stop) :
    zone.offsetAt clocks transition.instant = transition.after ∨
      ∃ earlier later, [earlier, later].Sublist zone.observances ∧
        earlier.HasOnset clocks transition.instant ∧
        later.HasOnset clocks transition.instant ∧ earlier.offsetTo = transition.after ∧
        zone.offsetAt clocks transition.instant = later.offsetTo := by
  have hstart : IsInside 1095 (start : Moment).second := hstart
  have hstop : IsInside 1095 (stop : Moment).second := hstop
  have hfirst : IsInside 733 (start : Moment).second := hstart.mono (by omega)
  have hlast : IsInside 733 ((stop : Moment).add (-1)).second := hstop.second_before (by omega)
  rw [transitions_eq clocks zone (hfirst.mono (by omega)) (hstop.mono (by omega))] at hmem
  obtain ⟨o, hevent, hafter⟩ := exists_mem_of_mem_transitionsOf hmem
  obtain ⟨ho, honset⟩ := mem_onsetsBetween.1 hevent
  obtain ⟨hon, hfrom, hto⟩ := (mem_onsets_between_iff hdaily hfirst hlast ho).1 honset
  have hat : o ∈ zone.observances.filter fun o =>
      transition.instant ∈ o.onsets clocks (some start) ((stop : Moment).add (-1)) :=
    List.mem_filter.2 ⟨ho, decide_eq_true honset⟩
  -- Of the observances with an onset here the one declared last decides.
  have hchosen := List.getLast?_eq_some_getLast (List.ne_nil_of_mem hat)
  have hinside : IsInside 733 transition.instant := ⟨hfirst.1.trans hfrom, hto.trans hlast.2⟩
  have heffect := offsetAt_of_latest hdaily hfirst hlast hinside hto hfrom le_rfl
    (fun _ _ _ _ hle => hle) hchosen
  generalize List.getLast _ _ = chosen at hchosen heffect
  obtain ⟨hdeclared, hcomes⟩ := List.mem_filter.1 (List.mem_of_getLast? hchosen)
  obtain ⟨hon', -, -⟩ := (mem_onsets_between_iff hdaily hfirst hlast hdeclared).1
    (of_decide_eq_true hcomes)
  obtain ⟨before, hsplit⟩ := List.getLast?_eq_some_iff.1 hchosen
  rw [hsplit] at hat
  rcases List.mem_append.1 hat with hbefore | hsame
  · refine .inr ⟨o, chosen, ?_, hon, hon', hafter, heffect⟩
    have hpair := (List.singleton_sublist.2 hbefore).append (List.Sublist.refl [chosen])
    exact (hsplit ▸ hpair).trans List.filter_sublist
  · cases List.mem_singleton.1 hsame
    exact .inl (heffect.trans hafter)

end Zone.VTimezone

namespace TimeZone

/-- Three years inside the calendar no offset in effect between two instants exceeds the
greatest one that is found. It is in effect itself, unless it is that of an observance
which another one overrides at its onset. -/
theorem maxOffset_isGreatest (clocks : Clocks) (zone : TimeZone) (hzone : zone.IsFixedOrDaily)
    {start stop : Int} (hstart : IsInside 1095 start) (hstop : IsInside 1095 stop)
    (hlt : start < stop) :
    (∀ instant, start ≤ instant → instant < stop →
      (zone.offsetAt clocks instant).seconds ≤ (zone.maxOffset clocks start stop).seconds) ∧
    ((∃ instant, start ≤ instant ∧ instant < stop ∧
        zone.offsetAt clocks instant = zone.maxOffset clocks start stop) ∨
      zone.Overrides clocks start stop (zone.maxOffset clocks start stop)) := by
  obtain ⟨hfirst, hlater, hone⟩ := maxOffset_spec clocks zone start stop
  cases zone with
  | system zone =>
    cases zone with
    | fixed name offset => exact ⟨fun _ _ _ => hfirst, .inl ⟨start, le_rfl, hlt, rfl⟩⟩
    | named zone => exact hzone.elim
  | described zone =>
    have hle : ∀ instant, start ≤ instant → instant < stop →
        (zone.offsetAt clocks instant).seconds ≤
          ((described zone).maxOffset clocks start stop).seconds := by
      intro instant hfrom hto
      rcases zone.offsetAt_eq_or_mem_transitions hzone hstart hstop hfrom hto with
        heq | ⟨transition, hmem, heq⟩
      · rw [heq]
        exact hfirst
      · rw [← heq]
        exact hlater transition hmem
    refine ⟨hle, ?_⟩
    rcases hone with heq | ⟨transition, hmem, heq⟩
    · exact .inl ⟨start, le_rfl, hlt, heq.symm⟩
    · have hbetween := VTimezone.bounds_of_mem_transitions hzone hstart hstop hmem
      rw [Moment.le_ofSecond_iff, Moment.ofSecond_lt_iff] at hbetween
      rcases zone.offsetAt_of_mem_transitions hzone hstart hstop hmem with
        heffect | ⟨earlier, later, hsub, hon, hon', hafter, heffect⟩
      · exact .inl ⟨_, hbetween.1, hbetween.2, heffect.trans heq⟩
      · have hsmall := hle _ hbetween.1 hbetween.2
        rw [heffect] at hsmall
        -- An offset that is overridden at its onset never comes into effect.
        by_cases hsame : later.offsetTo = (described zone).maxOffset clocks start stop
        · exact .inl ⟨_, hbetween.1, hbetween.2, heffect.trans hsame⟩
        · refine .inr ⟨_, hbetween.1, hbetween.2, earlier, later, hsub, hon, hon',
            hafter.trans heq, lt_of_le_of_ne hsmall fun hseconds => ?_⟩
          exact hsame (Offset.eq_of_seconds hseconds)

end TimeZone

namespace Zone

theorem Observance.eq_of_hasOnset_since {clocks : Clocks} {onset instant : Int} {offset : Offset}
    (h : (Observance.since onset offset).HasOnset clocks instant) : instant = onset := by
  rcases h with ⟨wall, hw, hat⟩ | ⟨_, ⟨⟩, -⟩
  · obtain ⟨rfl, -⟩ := onsetAt?_eq_some_iff.1 hat
    rw [List.mem_singleton.1 hw]
    exact Int.sub_zero onset

namespace VTimezone

/-- A zone of two offsets, each from an instant on. -/
def oneThenOther (first second : Int) (one other : Offset) : VTimezone where
  tzid := "Twice"
  observances := [.since first one, .since second other]

section OneThenOther

variable {first second : Int} (hfirst : Representable first) (hsecond : Representable second)
  (one other : Offset)
include hfirst hsecond

theorem isDaily_oneThenOther : ∀ o ∈ (oneThenOther first second one other).observances,
    o.IsDaily := by
  simp only [oneThenOther, List.forall_mem_cons, List.not_mem_nil, IsEmpty.forall_iff,
    implies_true, and_true]
  exact ⟨⟨hfirst, by rintro _ ⟨⟩⟩, ⟨hsecond, by rintro _ ⟨⟩⟩⟩

variable (clocks : Clocks) (hle : first ≤ second)
include hle

theorem offsetAt_oneThenOther (instant : Int) :
    (oneThenOther first second one other).offsetAt clocks instant =
      if second ≤ instant then other else if first ≤ instant then one else .utc := by
  have hone := Observance.latestOnset?_of_once clocks (Observance.onsetAt?_since hfirst one) rfl rfl
    instant
  have hother := Observance.latestOnset?_of_once clocks (Observance.onsetAt?_since hsecond other)
    rfl rfl instant
  unfold offsetAt offsetAtMoment observanceAt? oneThenOther
  simp only [List.filterMap_cons, List.filterMap_nil, hone, hother]
  by_cases hlate : second ≤ instant
  · simp [hlate, hle.trans hlate, later, hle, Observance.since]
  · by_cases hbetween : first ≤ instant
    · simp [hlate, hbetween, later, Observance.since]
    · simp [hlate, hbetween, earliest?, hle, Observance.since]

theorem transitions_oneThenOther {start stop : Int} (hstart : IsInside 1 start)
    (hstop : IsInside 1 stop) (hfrom : start ≤ first) (hto : second < stop) :
    (oneThenOther first second one other).transitions clocks start stop =
      transitionsOf .utc [(first, .since first one), (second, .since second other)] := by
  have honsets : ∀ onset offset, Representable onset → start ≤ onset → onset < stop →
      (Observance.since onset offset).onsets clocks (some start) ((stop : Moment).add (-1)) =
        [onset] := by
    intro onset offset honset hfrom hto
    rw [Observance.onsets_of_once clocks (Observance.onsetAt?_since honset offset) rfl rfl]
    simp [hfrom, show onset ≤ stop + -1 by omega]
  have hbefore : (oneThenOther first second one other).offsetAtMoment clocks
      ((start : Moment).add (-1)) = .utc := by
    refine (offsetAt_oneThenOther hfirst hsecond one other clocks hle (start + -1)).trans ?_
    rw [if_neg (by omega), if_neg (by omega)]
  rw [transitions_eq clocks _ hstart hstop, hbefore]
  unfold onsetsBetween oneThenOther
  simp only [List.flatMap_cons, List.flatMap_nil, honsets _ _ hfirst hfrom (hle.trans_lt hto),
    honsets _ _ hsecond (hfrom.trans hle) hto, List.map_cons, List.map_nil, List.singleton_append,
    List.append_nil]
  rw [List.mergeSort_of_pairwise (by simpa using hle)]

end OneThenOther
end VTimezone
end Zone

namespace Offset

def fiveHoursAhead : Offset := ⟨18000, by decide⟩

end Offset

namespace TimeZone

/-- An offset that is in effect for an hour is found as the greatest. -/
theorem maxOffset_isGreatest_forAnHour :
    let zone := described (VTimezone.oneThenOther 0 3600 .fiveHoursAhead .hourAhead)
    zone.IsFixedOrDaily ∧ IsInside 1095 (-86400) ∧ IsInside 1095 86400 ∧
    (∀ instant, -86400 ≤ instant → instant < 86400 →
      (zone.offsetAt Atlas.database.clocks instant).seconds ≤
        (zone.maxOffset Atlas.database.clocks (-86400) 86400).seconds) ∧
    ∃ instant, -86400 ≤ instant ∧ instant < 86400 ∧
      zone.offsetAt Atlas.database.clocks instant =
        zone.maxOffset Atlas.database.clocks (-86400) 86400 := by
  intro zone
  have hdaily : zone.IsFixedOrDaily := VTimezone.isDaily_oneThenOther (by decide) (by decide) _ _
  have hstart : IsInside 1095 (-86400) := ⟨by decide, by decide⟩
  have hstop : IsInside 1095 86400 := ⟨by decide, by decide⟩
  obtain ⟨hle, hfound⟩ := maxOffset_isGreatest Atlas.database.clocks zone hdaily hstart hstop
    (by decide)
  refine ⟨hdaily, hstart, hstop, hle, hfound.resolve_right ?_⟩
  rintro ⟨onset, -, -, earlier, later, hsub, hon, hon', -⟩
  cases hsub.eq_of_length rfl
  rw [Observance.eq_of_hasOnset_since hon] at hon'
  exact absurd (Observance.eq_of_hasOnset_since hon') (by decide)

/-- Of two onsets at one instant the first is found, although its offset never comes into
effect. -/
theorem not_maxOffset_isGreatest_atOnce :
    let zone := described (VTimezone.oneThenOther 0 0 .fiveHoursAhead .hourAhead)
    zone.IsFixedOrDaily ∧ IsInside 1095 (-86400) ∧ IsInside 1095 86400 ∧
    zone.maxOffset Atlas.database.clocks (-86400) 86400 = .fiveHoursAhead ∧
    (∀ instant, zone.offsetAt Atlas.database.clocks instant ≠ .fiveHoursAhead) ∧
    zone.offsetAt Atlas.database.clocks 0 = .hourAhead ∧
    ∀ instant, (zone.offsetAt Atlas.database.clocks instant).seconds ≤ 3600 := by
  intro zone
  have hzero : Representable 0 := by decide
  have hat := VTimezone.offsetAt_oneThenOther hzero hzero .fiveHoursAhead .hourAhead
    Atlas.database.clocks le_rfl
  have htransitions := VTimezone.transitions_oneThenOther hzero hzero .fiveHoursAhead .hourAhead
    Atlas.database.clocks le_rfl (show IsInside 1 (-86400) from ⟨by decide, by decide⟩)
    (show IsInside 1 86400 from ⟨by decide, by decide⟩) (by decide) (by decide)
  have hoffset : ∀ instant, zone.offsetAt Atlas.database.clocks instant =
      if 0 ≤ instant then .hourAhead else .utc := by
    intro instant
    refine (hat instant).trans ?_
    by_cases h : 0 ≤ instant <;> simp [h]
  refine ⟨VTimezone.isDaily_oneThenOther hzero hzero _ _, ⟨by decide, by decide⟩,
    ⟨by decide, by decide⟩, ?_, ?_, hoffset 0, ?_⟩
  · unfold maxOffset
    rw [hoffset, show zone.transitions Atlas.database.clocks (-86400) 86400 = _ from htransitions]
    decide
  · intro instant
    rw [hoffset]
    split <;> decide
  · intro instant
    rw [hoffset]
    split <;> decide

end TimeZone
end Recurrence
