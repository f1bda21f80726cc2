import Mathlib
import Recurrence.Zone.Atlas

/-! What a scan for changes of an offset finds. Where changes lie a day apart, a day
between two probes holds at most one of them, so that it shows in the offset at the
next probe, and halving comes down on it. A change at the first probe itself shows in
no other: the scan tells the changes after its start only. -/
namespace Recurrence.Zone
open Calendar

/-- Whether the offset at an instant is another than the second before. -/
def IsChange (offsetAt : Int → Offset) (instant : Int) : Prop :=
  offsetAt (instant - 1) ≠ offsetAt instant

instance (offsetAt : Int → Offset) (instant : Int) : Decidable (IsChange offsetAt instant) :=
  inferInstanceAs (Decidable (_ ≠ _))

/-- Whether changes of an offset lie more than a day apart. -/
def IsDaySpaced (offsetAt : Int → Offset) : Prop :=
  ∀ first second, Representable (first - 1) → Representable second → IsChange offsetAt first →
    IsChange offsetAt second → first < second → first + 86400 < second

/-- Whether a transition tells a change of an offset as it is, without a name. -/
structure Tells (offsetAt : Int → Offset) (transition : Transition) : Prop where
  change : IsChange offsetAt transition.instant
  before_eq : transition.before = offsetAt (transition.instant - 1)
  after_eq : transition.after = offsetAt transition.instant
  name_eq : transition.name = none

variable {offsetAt : Int → Offset}

theorem Tells.eq {one other : Transition} (h : Tells offsetAt one) (h' : Tells offsetAt other)
    (hinstant : one.instant = other.instant) : one = other := by
  rw [Transition.mk.injEq, h.before_eq, h'.before_eq, h.after_eq, h'.after_eq, h.name_eq,
    h'.name_eq, hinstant]
  exact ⟨rfl, rfl, rfl, rfl⟩

theorem eq_of_no_change {low high : Int} (hle : low ≤ high)
    (h : ∀ instant, low < instant → instant ≤ high → ¬ IsChange offsetAt instant) :
    offsetAt low = offsetAt high := by
  induction high, hle using Int.leInduction with
  | base => rfl
  | succ high hle ih =>
    have hlast := h (high + 1) (by omega) le_rfl
    rw [IsChange, not_not, add_sub_cancel_right] at hlast
    rw [← hlast]
    exact ih fun instant hlow hhigh => h instant hlow (by omega)

/-- Halving comes down on an instant before which the offset at `low` holds, and at
which it does not. -/
theorem changeBetween_spec {offset : Offset} {low high : Int} (hlt : low < high)
    (hlow : offsetAt low = offset) (hhigh : offsetAt high ≠ offset) :
    low < changeBetween offsetAt offset low high ∧
      changeBetween offsetAt offset low high ≤ high ∧
      offsetAt (changeBetween offsetAt offset low high - 1) = offset ∧
      offsetAt (changeBetween offsetAt offset low high) ≠ offset := by
  fun_induction changeBetween offsetAt offset low high with
  | case1 low high hgap middle hmiddle ih =>
    obtain ⟨hl, hrest⟩ := ih (by omega) hmiddle hhigh
    exact ⟨by omega, hrest⟩
  | case2 low high hgap middle hmiddle ih =>
    obtain ⟨hl, hh, hrest⟩ := ih (by omega) hlow hmiddle
    exact ⟨hl, by omega, hrest⟩
  | case3 low high hgap =>
    have hnext : high - 1 = low := by omega
    exact ⟨hlt, le_rfl, hnext ▸ hlow, hhigh⟩

theorem nextProbe_bounds {probe stop : Int} (hprobe : Representable probe)
    (hstop : Representable stop) (hlt : probe < stop) :
    probe < nextProbe probe stop ∧ nextProbe probe stop ≤ stop ∧
      nextProbe probe stop ≤ probe + 86400 := by
  refine ⟨lt_nextProbe hlt, ?_⟩
  unfold nextProbe
  split
  · next next hm =>
    obtain ⟨rfl, -⟩ := move?_eq_some_iff.1 hm
    unfold secondsPerDay
    split <;> omega
  · next hm =>
    have hout : ¬ Representable (probe + secondsPerDay) := by simpa [move?] using hm
    unfold Representable secondsPerDay at *
    omega

section Day

/-! A day between two probes, on which at most one change lies. -/
variable (hspaced : IsDaySpaced offsetAt) {probe next : Int} (hprobe : Representable probe)
  (hnext : Representable next) (hday : next ≤ probe + 86400)
include hspaced hprobe hnext hday

theorem IsChange.eq_of_day {first second : Int} (hfirst : IsChange offsetAt first)
    (hsecond : IsChange offsetAt second) (hp : probe < first) (hn : first ≤ next)
    (hp' : probe < second) (hn' : second ≤ next) : first = second := by
  have hr : ∀ instant, probe ≤ instant → instant ≤ next → Representable instant :=
    fun instant hl hh => ⟨hprobe.1.trans hl, hh.trans hnext.2⟩
  rcases lt_trichotomy first second with hlt | heq | hlt
  · have := hspaced first second (hr _ (by omega) (by omega)) (hr _ hp'.le hn') hfirst hsecond hlt
    omega
  · exact heq
  · have := hspaced second first (hr _ (by omega) (by omega)) (hr _ hp.le hn) hsecond hfirst hlt
    omega

/-- The only change of a day leads from the offset at one probe to that at the next. -/
theorem IsChange.offsets_of_day {change : Int} (h : IsChange offsetAt change)
    (hp : probe < change) (hn : change ≤ next) :
    offsetAt (change - 1) = offsetAt probe ∧ offsetAt change = offsetAt next := by
  constructor
  · refine (eq_of_no_change (by omega) fun instant hl hh hchange => ?_).symm
    have := hchange.eq_of_day hspaced hprobe hnext hday h hl (by omega) hp hn
    omega
  · refine eq_of_no_change hn fun instant hl hh hchange => ?_
    have := hchange.eq_of_day hspaced hprobe hnext hday h (by omega) hh hp hn
    omega

theorem not_isChange_of_eq (heq : offsetAt next = offsetAt probe) {instant : Int}
    (hp : probe < instant) (hn : instant ≤ next) : ¬ IsChange offsetAt instant := by
  intro hchange
  obtain ⟨hbefore, hafter⟩ := hchange.offsets_of_day hspaced hprobe hnext hday hp hn
  exact hchange (by rw [hbefore, hafter, heq])

theorem isChange_iff_of_ne (hlt : probe < next) (hne : offsetAt next ≠ offsetAt probe)
    {instant : Int} (hp : probe < instant) (hn : instant ≤ next) :
    IsChange offsetAt instant ↔
      instant = changeBetween offsetAt (offsetAt probe) probe next := by
  obtain ⟨hl, hh, hbefore, hat⟩ := changeBetween_spec hlt rfl hne
  have hchange : IsChange offsetAt (changeBetween offsetAt (offsetAt probe) probe next) := by
    rw [IsChange, hbefore]
    exact hat.symm
  constructor
  · intro h
    exact h.eq_of_day hspaced hprobe hnext hday hchange hp hn hl hh
  · rintro rfl
    exact hchange

end Day

/-- Where nothing changes up to the next probe, what lies behind the one lies behind the other. -/
theorem tells_behind_iff {probe next stop : Int} (hlt : probe < next)
    (hquiet : ∀ {instant}, probe < instant → instant ≤ next → instant < stop →
      ¬ IsChange offsetAt instant) {transition : Transition} :
    next < transition.instant ∧ transition.instant < stop ∧ Tells offsetAt transition ↔
      probe < transition.instant ∧ transition.instant < stop ∧ Tells offsetAt transition := by
  constructor
  · rintro ⟨hn, hrest⟩
    exact ⟨hlt.trans hn, hrest⟩
  · rintro ⟨hp, hs, htells⟩
    refine ⟨?_, hs, htells⟩
    by_contra hn
    exact hquiet hp (not_lt.1 hn) hs htells.change

theorem mem_changesFrom (hspaced : IsDaySpaced offsetAt) {probe stop : Int} {offset : Offset}
    (hprobe : Representable probe) (hstop : Representable stop) (hoffset : offset = offsetAt probe)
    {transition : Transition} : transition ∈ changesFrom offsetAt probe stop offset ↔
      probe < transition.instant ∧ transition.instant < stop ∧ Tells offsetAt transition := by
  fun_induction changesFrom offsetAt probe stop offset with
  | case1 probe hlt next after ih =>
    obtain ⟨hl, hle, hday⟩ := nextProbe_bounds hprobe hstop hlt
    have hnext : Representable next := ⟨hprobe.1.trans hl.le, hle.trans hstop.2⟩
    rw [ih hnext rfl]
    exact tells_behind_iff hl fun hp hn _ =>
      not_isChange_of_eq hspaced hprobe hnext hday hoffset hp hn
  | case2 probe offset hlt next after hdiffers change later hin ih =>
    subst hoffset
    obtain ⟨hl, hle, hday⟩ := nextProbe_bounds hprobe hstop hlt
    have hnext : Representable next := ⟨hprobe.1.trans hl.le, hle.trans hstop.2⟩
    obtain ⟨hc, hcn, hbefore, hat⟩ := changeBetween_spec hl rfl hdiffers
    have honly := @isChange_iff_of_ne _ hspaced _ _ hprobe hnext hday hl hdiffers
    have htold : Tells offsetAt ⟨change, offsetAt probe, offsetAt change, none⟩ :=
      ⟨(honly hc hcn).2 rfl, hbefore.symm, rfl, rfl⟩
    rw [List.mem_cons, ih hnext rfl]
    constructor
    · rintro (rfl | ⟨hn, hrest⟩)
      · exact ⟨hc, hin, htold⟩
      · exact ⟨hl.trans hn, hrest⟩
    · rintro ⟨hp, hs, htells⟩
      rcases le_or_gt transition.instant next with hn | hn
      · exact .inl (htells.eq htold ((honly hp hn).1 htells.change))
      · exact .inr ⟨hn, hs, htells⟩
  | case3 probe offset hlt next after hdiffers change later hout ih =>
    subst hoffset
    obtain ⟨hl, hle, hday⟩ := nextProbe_bounds hprobe hstop hlt
    have hnext : Representable next := ⟨hprobe.1.trans hl.le, hle.trans hstop.2⟩
    have honly := @isChange_iff_of_ne _ hspaced _ _ hprobe hnext hday hl hdiffers
    rw [ih hnext rfl]
    -- The change is found, but not before the stop.
    refine tells_behind_iff hl fun {instant} hp hn hs hchange => ?_
    have hfound : instant = change := (honly hp hn).1 hchange
    omega
  | case4 probe offset hge =>
    simp only [List.not_mem_nil, false_iff]
    rintro ⟨hp, hs, -⟩
    omega

theorem changesFrom_pairwise (hspaced : IsDaySpaced offsetAt) {probe stop : Int} {offset : Offset}
    (hprobe : Representable probe) (hstop : Representable stop)
    (hoffset : offset = offsetAt probe) :
    (changesFrom offsetAt probe stop offset).Pairwise (·.instant < ·.instant) := by
  fun_induction changesFrom offsetAt probe stop offset with
  | case1 probe hlt next after ih =>
    obtain ⟨hl, hle, -⟩ := nextProbe_bounds hprobe hstop hlt
    exact ih ⟨hprobe.1.trans hl.le, hle.trans hstop.2⟩ rfl
  | case2 probe offset hlt next after hdiffers change later hin ih =>
    subst hoffset
    obtain ⟨hl, hle, -⟩ := nextProbe_bounds hprobe hstop hlt
    have hnext : Representable next := ⟨hprobe.1.trans hl.le, hle.trans hstop.2⟩
    obtain ⟨-, hcn, -⟩ := changeBetween_spec hl rfl hdiffers
    refine List.Pairwise.cons (fun transition hmem => ?_) (ih hnext rfl)
    exact hcn.trans_lt ((mem_changesFrom hspaced hnext hstop rfl).1 hmem).1
  | case3 probe offset hlt next after hdiffers change later hout ih =>
    obtain ⟨hl, hle, -⟩ := nextProbe_bounds hprobe hstop hlt
    exact ih ⟨hprobe.1.trans hl.le, hle.trans hstop.2⟩ rfl
  | case4 probe offset hge => exact List.Pairwise.nil

/-- The changes told between two instants are those strictly between them, in order
and each once, with the offsets before and after. -/
theorem changes_strictly_between (hspaced : IsDaySpaced offsetAt) {start stop : Int}
    (hstart : Representable start) (hstop : Representable stop) :
    (changes offsetAt start stop).Pairwise (·.instant < ·.instant) ∧
    ∀ transition, transition ∈ changes offsetAt start stop ↔
      start < transition.instant ∧ transition.instant < stop ∧ Tells offsetAt transition :=
  ⟨changesFrom_pairwise hspaced hstart hstop rfl,
    fun _ => mem_changesFrom hspaced hstart hstop rfl⟩

theorem mem_of_secondsAt_ne {table : List (Int × Int)} {current instant : Int}
    (h : OffsetTable.secondsAt current table (instant - 1) ≠
      OffsetTable.secondsAt current table instant) : instant ∈ table.map Prod.fst := by
  induction table generalizing current with
  | nil => exact absurd rfl h
  | cons entry table ih =>
    obtain ⟨change, seconds⟩ := entry
    simp only [OffsetTable.secondsAt] at h
    rw [List.map_cons, List.mem_cons]
    by_cases hlate : change ≤ instant
    · by_cases hearly : change ≤ instant - 1
      · rw [if_pos hearly, if_pos hlate] at h
        exact .inr (ih h)
      · left
        change instant = change
        omega
    · rw [if_neg (by omega), if_neg hlate] at h
      exact absurd rfl h

theorem isDaySpaced_of_isChain {table : OffsetTable}
    (h : (table.changes.map Prod.fst).IsChain (· + 86400 < ·)) : IsDaySpaced table.offsetAt := by
  have htrans : IsTrans Int (· + 86400 < ·) := ⟨fun _ _ _ hab hbc => by omega⟩
  have hapart : (table.changes.map Prod.fst).Pairwise
      fun a b => a + 86400 < b ∨ b + 86400 < a :=
    (List.isChain_iff_pairwise.1 h).imp .inl
  have hmem : ∀ {instant}, IsChange table.offsetAt instant →
      instant ∈ table.changes.map Prod.fst :=
    fun hchange => mem_of_secondsAt_ne fun heq => hchange (congrArg OffsetTable.offsetOf heq)
  intro first second _ _ hfirst hsecond hlt
  have hsymm : Std.Symm fun a b : Int => a + 86400 < b ∨ b + 86400 < a := ⟨fun _ _ => Or.symm⟩
  have := hapart.forall (hmem hfirst) (hmem hsecond) hlt.ne
  omega

/-- Every zone of the database changes its offset more than a day apart. -/
theorem Atlas.isDaySpaced {name : String} {table : OffsetTable}
    (h : (name, table) ∈ Atlas.zones) : IsDaySpaced table.offsetAt := by
  have hchains : ∀ zone ∈ Atlas.zones,
      (zone.2.changes.map Prod.fst).IsChain (· + 86400 < ·) := by decide +kernel
  exact isDaySpaced_of_isChain (hchains _ h)

theorem isDaySpaced_kolkata : IsDaySpaced Tables.kolkata.offsetAt := by
  have hmem : ("Asia/Kolkata", Tables.kolkata) ∈ Atlas.zones := by simp [Atlas.zones]
  exact Atlas.isDaySpaced hmem

theorem tells_kolkata_1941 :
    Tells Tables.kolkata.offsetAt
      ⟨-891581400, OffsetTable.offsetOf 19800, OffsetTable.offsetOf 23400, none⟩ := by
  refine ⟨?_, ?_, ?_, rfl⟩ <;> decide

/-- From the second before it on, the start of war time in India is told. -/
theorem changes_kolkata_1941 :
    (changes Tables.kolkata.offsetAt (-891581401) (-891495000)).Pairwise
      (·.instant < ·.instant) ∧
    ⟨-891581400, OffsetTable.offsetOf 19800, OffsetTable.offsetOf 23400, none⟩ ∈
      changes Tables.kolkata.offsetAt (-891581401) (-891495000) := by
  have hstart : Representable (-891581401) := by decide
  have hstop : Representable (-891495000) := by decide
  obtain ⟨hpairwise, hmem⟩ := changes_strictly_between isDaySpaced_kolkata hstart hstop
  exact ⟨hpairwise, (hmem _).2 ⟨by decide, by decide, tells_kolkata_1941⟩⟩

/-- From its own instant on it is not told, although the scan starts with it. -/
theorem not_changes_from_kolkata_1941 :
    IsDaySpaced Tables.kolkata.offsetAt ∧
    Tells Tables.kolkata.offsetAt
      ⟨-891581400, OffsetTable.offsetOf 19800, OffsetTable.offsetOf 23400, none⟩ ∧
    changes Tables.kolkata.offsetAt (-891581400) (-891495000) = [] := by
  refine ⟨isDaySpaced_kolkata, tells_kolkata_1941, ?_⟩
  have hstart : Representable (-891581400) := by decide
  have hstop : Representable (-891495000) := by decide
  rw [List.eq_nil_iff_forall_not_mem]
  intro transition hmem
  obtain ⟨hlow, hhigh, htells⟩ := (mem_changesFrom isDaySpaced_kolkata hstart hstop rfl).1 hmem
  have hlisted : transition.instant ∈ Tables.kolkata.changes.map Prod.fst :=
    mem_of_secondsAt_ne fun heq => htells.change (congrArg OffsetTable.offsetOf heq)
  simp only [Tables.kolkata, List.map_cons, List.map_nil, List.mem_cons, List.not_mem_nil,
    or_false] at hlisted
  omega

end Recurrence.Zone
