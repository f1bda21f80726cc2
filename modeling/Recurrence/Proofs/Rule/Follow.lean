import Mathlib
import Recurrence.Proofs.Rule.Judge
import Recurrence.Proofs.Rule.Resume

/-! Two runs that judge the same readings, one of them between two instants. The
limited run sees the same instances, hides those before the first instant and
ends behind the last; `judged_of_trims` says that it gives a slice, and more only
where the whole run has failed. -/
namespace Recurrence
open Calendar

/-- Whether an instance lies between two instants, where they are given. -/
def Instance.isWithin (first last : Option Int) (found : Instance) : Bool :=
  first.all (· ≤ found.key.instant) && last.all (found.key.instant ≤ ·)

/-- Whether items come to their end, or to an instance after an instant, without
a failure. -/
def Run.Reaches (last : Option Int) (items : List Run.Item) : Prop :=
  (∀ error, .error error ∉ items) ∨
    ∃ instant ∈ last, ∃ found, .ok found ∈ items ∧ instant < found.key.instant

theorem Run.not_reaches_error {last : Option Int} {error : Failure} :
    ¬ Run.Reaches last [.error error] := by
  rintro (hclean | ⟨_, _, found, hmem, _⟩)
  · exact hclean error List.mem_cons_self
  · simp at hmem

theorem Run.Reaches.of_cons {last : Option Int} {found : Instance} {items : List Run.Item}
    (h : Run.Reaches last (.ok found :: items)) (hin : ∀ stop ∈ last, found.key.instant ≤ stop) :
    Run.Reaches last items := by
  rcases h with hclean | ⟨stop, hlast, later, hmem, hlt⟩
  · exact .inl fun error hmem => hclean error (List.mem_cons_of_mem _ hmem)
  · rcases List.mem_cons.1 hmem with heq | hmem
    · obtain rfl := Except.ok.inj heq
      exact absurd hlt (not_lt.2 (hin stop hlast))
    · exact .inr ⟨stop, hlast, later, hmem, hlt⟩

namespace Plan

/-- Limits hide instances and end the run, and do nothing else to a reading. -/
theorem judge_limited {plan : Plan} (hh : plan.horizon = none)
    (first last : Option Int) (emitted : Nat) (latest : Option TimelineKey) (wall : Int) :
    (plan.limited first last).judge emitted latest wall =
      match plan.judge emitted latest wall with
      | .found found _ final =>
        if last.any (· < found.key.instant) then .stop
        else .found found (first.all (· ≤ found.key.instant)) final
      | verdict => verdict := by
  have hbound : (plan.limited first last).isPastBound = plan.isPastBound := rfl
  have hinstance : (plan.limited first last).instanceAt = plan.instanceAt := rfl
  have hcount : (plan.limited first last).pattern.count? = plan.pattern.count? := rfl
  have hanchor : (plan.limited first last).anchor = plan.anchor := rfl
  have hhorizon : ∀ found, (plan.limited first last).isPastHorizon found =
      last.any (· < found.key.instant) := by
    intro found
    cases last <;> rfl
  have hshows : ∀ found, (plan.limited first last).shows found =
      first.all (· ≤ found.key.instant) := by
    intro found
    cases first <;> rfl
  have hopen : ∀ found, plan.isPastHorizon found = false := by
    intro found
    simp [isPastHorizon, hh]
  unfold judge
  rw [hbound, hinstance, hcount, hanchor]
  simp only [hhorizon, hshows, hopen, Bool.false_eq_true, if_false]
  by_cases hw : wall < plan.anchor.wall
  · simp [hw]
  · simp only [hw, if_false]
    cases plan.instanceAt wall with
    | error error => rfl
    | ok found =>
      by_cases hb : plan.isPastBound found = true
      · simp [hb]
      · by_cases hl : latest.any (found.key ≤ ·) = true
        · simp [hb, hl]
        · cases plan.pattern.count? with
          | none => simp [hb, hl]
          | some count =>
            by_cases hc : count.toNat ≤ emitted
            · simp [hb, hl, hc]
            · simp [hb, hl, hc]

theorem mem_judged_of_limited {plan : Plan} (hr : plan.resume = none) (hh : plan.horizon = none)
    {first last : Option Int} {behind behind' : List Run.Item}
    (hb : ∀ found, .ok found ∉ behind) (cut : List Int) {found : Instance} {kept : List Int}
    {emitted : Nat} {latest : Option TimelineKey}
    (h : .ok found ∈ (plan.limited first last).judged behind emitted latest kept) :
    .ok found ∈ plan.judged behind' emitted latest (kept ++ cut) := by
  induction kept generalizing emitted latest with
  | nil => exact absurd h (hb found)
  | cons wall kept ih =>
    rw [judged, judge_limited hh] at h
    rw [List.cons_append, judged]
    cases hj : plan.judge emitted latest wall with
    | pass =>
      simp only [hj] at h
      exact ih h
    | stop => simp [hj] at h
    | fail error => simp [hj] at h
    | found one shown final =>
      obtain ⟨-, -, -, -, -, rfl⟩ := of_judge_found hj
      have hshown : plan.shows one = true := by simp [shows, hr]
      simp only [hj, hshown, if_true] at h ⊢
      by_cases hstop : last.any (· < one.key.instant) = true
      · simp [hstop] at h
      · simp only [if_neg hstop, List.mem_append] at h ⊢
        rcases h with hone | hrest
        · left
          split at hone
          · exact hone
          · cases hone
        · right
          cases final with
          | true => cases hrest
          | false => exact ih hrest

/-- Readings of a whole walk beside those of a limited one: the same up to a
reading beyond the horizon, or up to where the whole walk gives up. -/
inductive Trims (last : Option Int) : List Int → Bool → List Int → Bool → Prop
  | gaveUp (kept : List Int) (end' : Bool) : Trims last [] true kept end'
  | done : Trims last [] false [] false
  | cut {walls : List Int} {gaveUp : Bool} (h : ∀ wall ∈ walls, isBeyond last wall = true) :
      Trims last walls gaveUp [] false
  | cons {walls kept : List Int} {gaveUp end' : Bool} (wall : Int)
      (h : Trims last walls gaveUp kept end') : Trims last (wall :: walls) gaveUp (wall :: kept) end'

theorem trims_of_append {last : Option Int} {walls more kept cut : List Int}
    {gaveUp goesOn end' : Bool} (hsplit : walls ++ more = kept ++ cut)
    (hcut : ∀ wall ∈ cut, isBeyond last wall = true)
    (hmore : gaveUp = false → more = [] ∧ goesOn = false)
    (hend : end' = true → cut = [] ∧ goesOn = true) : Trims last walls gaveUp kept end' := by
  induction walls generalizing kept with
  | nil =>
    cases gaveUp with
    | true => exact .gaveUp kept end'
    | false =>
      obtain ⟨rfl, rfl⟩ := hmore rfl
      obtain ⟨rfl, rfl⟩ := List.append_eq_nil_iff.1 hsplit.symm
      cases end' with
      | false => exact .done
      | true => exact absurd (hend rfl).2 (by decide)
  | cons wall walls ih =>
    cases kept with
    | nil =>
      rw [List.nil_append] at hsplit
      cases end' with
      | true => simp [(hend rfl).1] at hsplit
      | false =>
        refine .cut fun v hv => hcut v ?_
        rw [← hsplit]
        exact List.mem_append_left _ hv
    | cons head kept =>
      rw [List.cons_append, List.cons_append] at hsplit
      obtain ⟨rfl, hrest⟩ := List.cons.inj hsplit
      exact .cons wall (ih hrest)

end Plan

/-- The slice of items between two instants. -/
def Run.slice (first last : Option Int) (items : List Run.Item) : List Run.Item :=
  ((successes items).filter (Instance.isWithin first last)).map .ok

theorem Run.slice_ok_cons (first last : Option Int) (found : Instance) (items : List Run.Item) :
    slice first last (.ok found :: items) =
      (if found.isWithin first last then [.ok found] else []) ++ slice first last items := by
  unfold slice
  rw [successes_ok_cons, List.filter_cons]
  split <;> rfl

theorem Run.slice_eq_nil {first last : Option Int} {items : List Run.Item}
    (h : ∀ found, .ok found ∈ items → found.isWithin first last = false) :
    slice first last items = [] := by
  unfold slice
  rw [List.map_eq_nil_iff, List.filter_eq_nil_iff]
  intro found hf
  simp [h found (mem_successes.1 hf)]

theorem Instance.isWithin_of_late {first last : Option Int} {found : Instance}
    (h : ∃ instant ∈ last, instant < found.key.instant) : found.isWithin first last = false := by
  obtain ⟨instant, hlast, hlt⟩ := h
  rw [Option.mem_def] at hlast
  simp [isWithin, hlast, hlt]

theorem Instance.isWithin_of_notLate {first last : Option Int} {found : Instance}
    (h : ∀ stop ∈ last, found.key.instant ≤ stop) :
    found.isWithin first last = first.all (· ≤ found.key.instant) := by
  have hlast : last.all (found.key.instant ≤ ·) = true := by
    rw [Option.all_eq_true]
    exact fun stop hstop => decide_eq_true (h stop hstop)
  rw [isWithin, hlast, Bool.and_true]

/-- The last instant that an end of a rule admits; a day ends with its last
second. -/
def Bound.moment : Bound → Int
  | .day last => midnight last + 86399
  | .instant last => last

namespace Plan

/-- Whether nothing lies between two instants, since the first is behind the
second or behind the end of the rule. -/
def IsLate (plan : Plan) (first last : Option Int) : Prop :=
  ∃ start ∈ first, (∃ stop ∈ last, stop < start) ∨ ∃ bound ∈ plan.bound, bound.moment < start

/-- Whether one run is as far as another, or has only hidden instances and none
behind the latest of the other. -/
def Follows (plan : Plan) (first : Option Int) (emitted : Nat) (latest : Option TimelineKey)
    (emitted' : Nat) (latest' : Option TimelineKey) : Prop :=
  (emitted' = emitted ∨ plan.pattern.count? = none) ∧ latest' = latest ∨
    plan.pattern.count? = none ∧ (∀ key' ∈ latest', ∃ key ∈ latest, key' ≤ key) ∧
      ∀ key ∈ latest, ∃ start ∈ first, key.instant < start

/-- An instance that the whole run has seen before is hidden from the limited run,
and not late. -/
theorem hidden_of_old {first last : Option Int}
    (hopen : ∀ start ∈ first, ∀ stop ∈ last, start ≤ stop) {key : TimelineKey} {found : Instance}
    (hkey : ∃ start ∈ first, key.instant < start) (hle : found.key ≤ key) :
    last.any (· < found.key.instant) = false ∧ first.all (· ≤ found.key.instant) = false := by
  obtain ⟨start, hstart, hlt⟩ := hkey
  have hearly : found.key.instant < start := (TimelineKey.instant_le_of_le hle).trans_lt hlt
  constructor
  · rw [Option.any_eq_false]
    intro stop hstop
    have := hopen start hstart stop hstop
    have hin : found.key.instant ≤ stop := by omega
    simpa using hin
  · rw [Option.mem_def] at hstart
    simpa [hstart] using hearly

/-- A run that has no count and only hidden instances more than another goes on like it:
what the whole run has seen is hidden, and what the limited one has seen the whole run has
seen too. -/
theorem judge_hidden {plan : Plan} (hr : plan.resume = none) (hh : plan.horizon = none)
    {first last : Option Int} (hopen : ∀ start ∈ first, ∀ stop ∈ last, start ≤ stop)
    {emitted emitted' : Nat} {latest latest' : Option TimelineKey}
    (hc : plan.pattern.count? = none) (hbehind : ∀ key' ∈ latest', ∃ key ∈ latest, key' ≤ key)
    (hhidden : ∀ key ∈ latest, ∃ start ∈ first, key.instant < start) (wall : Int) :
    plan.judge emitted' latest' wall = plan.judge emitted latest wall ∨
      plan.judge emitted latest wall = .pass ∧ ∃ found key,
        plan.judge emitted' latest' wall = .found found true false ∧ key ∈ latest ∧
          found.key ≤ key ∧ last.any (· < found.key.instant) = false ∧
            first.all (· ≤ found.key.instant) = false := by
  rw [judge_of_endless hr hh hc, judge_of_endless hr hh hc]
  by_cases hw : wall < plan.anchor.wall
  · simp [hw]
  · simp only [hw, if_false]
    cases plan.instanceAt wall with
    | error error => exact .inl rfl
    | ok found =>
      by_cases hb : plan.isPastBound found = true
      · simp [hb]
      · simp only [hb]
        by_cases hold : latest.any (found.key ≤ ·) = true
        · by_cases hold' : latest'.any (found.key ≤ ·) = true
          · simp [hold, hold']
          · obtain ⟨key, hkey, hle⟩ := (Option.any_eq_true _ _).1 hold
            rw [decide_eq_true_eq] at hle
            obtain ⟨hin, hhide⟩ := hidden_of_old hopen (hhidden key hkey) hle
            exact .inr ⟨by simp [hold], found, key, by simp [hold'], hkey, hle, hin, hhide⟩
        · -- What the limited run has seen, the whole run has seen too.
          have hold' : ¬ latest'.any (found.key ≤ ·) = true := by
            intro hany
            obtain ⟨key', hkey', hle'⟩ := (Option.any_eq_true _ _).1 hany
            rw [decide_eq_true_eq] at hle'
            obtain ⟨key, hkey, hle⟩ := hbehind key' hkey'
            apply hold
            rw [Option.any_eq_true]
            exact ⟨key, hkey, decide_eq_true (le_trans hle' hle)⟩
          simp [hold, hold']

/-- A reading comes to the same for both runs, but for instances that are hidden
or behind the horizon. -/
theorem judge_follows {plan : Plan} (hr : plan.resume = none) (hh : plan.horizon = none)
    {first last : Option Int} (hopen : ∀ start ∈ first, ∀ stop ∈ last, start ≤ stop)
    {emitted emitted' : Nat}
    {latest latest' : Option TimelineKey}
    (h : plan.Follows first emitted latest emitted' latest') (wall : Int) :
    match plan.judge emitted latest wall with
    | .pass => (plan.limited first last).judge emitted' latest' wall = .pass ∨
      ∃ found, (plan.limited first last).judge emitted' latest' wall = .found found false false ∧
        plan.Follows first emitted latest (emitted' + 1) (some found.key)
    | .stop => (plan.limited first last).judge emitted' latest' wall = .stop
    | .fail _ => True
    | .found found shown final => shown = true ∧
      (plan.limited first last).judge emitted' latest' wall =
        if last.any (· < found.key.instant) then .stop
        else .found found (first.all (· ≤ found.key.instant)) final := by
  by_cases hsame : plan.judge emitted' latest' wall = plan.judge emitted latest wall
  · -- The limits alone make a difference then.
    rw [judge_limited hh, hsame]
    cases hj : plan.judge emitted latest wall with
    | pass => exact .inl rfl
    | stop => rfl
    | fail error => trivial
    | found found shown final =>
      obtain ⟨-, -, -, -, -, rfl⟩ := of_judge_found hj
      exact ⟨by simp [shows, hr], rfl⟩
  · rcases h with ⟨he, rfl⟩ | ⟨hc, hbehind, hhidden⟩
    · refine absurd ?_ hsame
      rcases he with rfl | hc
      · rfl
      · rw [judge_of_endless hr hh hc, judge_of_endless hr hh hc]
    · obtain ⟨hpass, found, key, hfound, hkey, hle, hin, hhide⟩ :=
        (judge_hidden hr hh hopen hc hbehind hhidden wall).resolve_left hsame
      rw [hpass, judge_limited hh, hfound]
      refine .inr ⟨found, by simp [hin, hhide], .inr ⟨hc, ?_, hhidden⟩⟩
      rintro _ ⟨⟩
      exact ⟨key, hkey, hle⟩

theorem isWithin_of_isBeyond {plan : Plan} (hn : plan.IsNear) {first last : Option Int}
    {wall : Int} {found : Instance} (hf : plan.instanceAt wall = .ok found)
    (h : isBeyond last wall = true) : found.isWithin first last = false := by
  obtain ⟨horizon, rfl, hlt⟩ := lt_of_isBeyond h
  have := hn wall found hf
  exact Instance.isWithin_of_late ⟨horizon, rfl, by omega⟩

theorem le_of_mem_judged_behind {plan : Plan} {gaveUp : Bool} {emitted : Nat}
    {found later : Instance} {walls : List Int}
    (h : .ok later ∈ .ok found :: plan.judged (plan.ending gaveUp) emitted (some found.key) walls) :
    found.key ≤ later.key := by
  rcases List.mem_cons.1 h with heq | h
  · exact (Except.ok.inj heq) ▸ le_rfl
  · obtain ⟨_, _, _, _, _, _, _, hlater⟩ := exists_wall_of_mem_judged (ok_notMem_ending plan _) h
    exact (hlater found.key rfl).le

theorem slice_eq_nil_of_found {plan : Plan} {first last : Option Int} {found : Instance}
    (hlate : ∃ stop ∈ last, stop < found.key.instant) (final gaveUp : Bool) (emitted : Nat)
    (walls : List Int) :
    Run.slice first last (.ok found :: if final then [] else
      plan.judged (plan.ending gaveUp) emitted (some found.key) walls) = [] := by
  obtain ⟨stop, hlast, hlt⟩ := hlate
  apply Run.slice_eq_nil
  intro later hmem
  have hle : found.key ≤ later.key := by
    cases final with
    | true => exact (Except.ok.inj (List.mem_singleton.1 hmem)) ▸ le_rfl
    | false => exact le_of_mem_judged_behind hmem
  exact Instance.isWithin_of_late ⟨stop, hlast, hlt.trans_le (TimelineKey.instant_le_of_le hle)⟩

theorem Follows.found {plan : Plan} {first : Option Int} {emitted emitted' : Nat}
    {latest latest' : Option TimelineKey} (h : plan.Follows first emitted latest emitted' latest')
    (key : TimelineKey) : plan.Follows first (emitted + 1) (some key) (emitted' + 1) (some key) := by
  rcases h with ⟨rfl | hc, -⟩ | ⟨hc, -⟩
  · exact .inl ⟨.inl rfl, rfl⟩
  · exact .inl ⟨.inr hc, rfl⟩
  · exact .inl ⟨.inr hc, rfl⟩

/-- Behind the resumed step the limited run gives the slice of the whole run, and
nothing else if that reaches the last instant. -/
theorem judged_of_trims {plan : Plan} (hr : plan.resume = none) (hh : plan.horizon = none)
    (hn : plan.IsNear) {first last : Option Int}
    (hopen : ∀ start ∈ first, ∀ stop ∈ last, start ≤ stop)
    {walls kept : List Int} {gaveUp end' : Bool} (ht : Trims last walls gaveUp kept end')
    {emitted emitted' : Nat} {latest latest' : Option TimelineKey}
    (hf : plan.Follows first emitted latest emitted' latest') : ∃ tail,
    (plan.limited first last).judged (plan.ending end') emitted' latest' kept =
      Run.slice first last (plan.judged (plan.ending gaveUp) emitted latest walls) ++ tail ∧
      (Run.Reaches last (plan.judged (plan.ending gaveUp) emitted latest walls) → tail = []) := by
  -- `Follows` is what the readings judged so far leave of the two runs.
  induction ht generalizing emitted emitted' latest latest' with
  | gaveUp kept end' =>
    exact ⟨_, rfl, fun hreach => absurd hreach Run.not_reaches_error⟩
  | done => exact ⟨[], rfl, fun _ => rfl⟩
  | cut h =>
    rw [Run.slice_eq_nil]
    · exact ⟨[], rfl, fun _ => rfl⟩
    · intro found hmem
      obtain ⟨wall, hw, -, hfound, -⟩ :=
        exists_wall_of_mem_judged (ok_notMem_ending plan _) hmem
      exact isWithin_of_isBeyond hn hfound (h wall hw)
  | @cons walls kept gaveUp end' wall _ ih =>
    have hjudge := judge_follows hr hh hopen hf wall
    rw [judged]
    rw [judged]
    cases hj : plan.judge emitted latest wall with
    | pass =>
      simp only [hj] at hjudge ⊢
      rcases hjudge with hpass | ⟨found, hfound, hf'⟩
      · rw [hpass]
        exact ih hf
      · rw [hfound]
        simpa using ih hf'
    | stop =>
      simp only [hj] at hjudge ⊢
      rw [hjudge]
      exact ⟨[], rfl, fun _ => rfl⟩
    | fail error => exact ⟨_, rfl, fun hreach => absurd hreach Run.not_reaches_error⟩
    | found found shown final =>
      simp only [hj] at hjudge ⊢
      obtain ⟨rfl, hjudge⟩ := hjudge
      rw [hjudge]
      simp only [if_true, List.singleton_append]
      by_cases hstop : last.any (· < found.key.instant) = true
      · have hlate : ∃ stop ∈ last, stop < found.key.instant := by
          simpa [Option.any_eq_true] using hstop
        rw [if_pos hstop, slice_eq_nil_of_found hlate]
        exact ⟨[], rfl, fun _ => rfl⟩
      · have hin : ∀ stop ∈ last, found.key.instant ≤ stop := by
          simpa [Option.any_eq_true] using hstop
        rw [if_neg hstop, Run.slice_ok_cons, Instance.isWithin_of_notLate hin]
        simp only [List.append_assoc, List.append_cancel_left_eq]
        cases final with
        | true => exact ⟨[], rfl, fun _ => rfl⟩
        | false =>
          simp only [Bool.false_eq_true, if_false]
          obtain ⟨tail, htail, hnone⟩ := ih (hf.found found.key)
          exact ⟨tail, htail, fun hreach => hnone (hreach.of_cons hin)⟩

end Plan
end Recurrence
