import Mathlib
import Recurrence.Proofs.Rule.Walk

/-! Walks cut at both ends. A walk that begins at a later step gives what the
whole walk gives from there on, since it meets the same steps and has missed
fewer of them. A horizon takes away readings more than a day behind it. -/
namespace Recurrence
open Calendar

/-- Whether a cursor at the same step has missed no more steps than another, and
none before the first that the other missed. -/
structure Cursor.Fresher (fast slow : Cursor) : Prop where
  step : fast.step = slow.step
  count : fast.emptySteps ≤ slow.emptySteps
  since : ∀ late ∈ fast.emptySince, ∃ early ∈ slow.emptySince, early ≤ late

namespace Plan

/-- Whether the steps that a cursor has missed lie before it. -/
def Behind (plan : Plan) (cursor : Cursor) : Prop :=
  ∀ since ∈ cursor.emptySince, since ≤ plan.stepStart cursor.step

theorem behind_before (plan : Plan) (step : Nat) : plan.Behind (.before step) := by
  intro since hs
  simp [Cursor.before] at hs

theorem mem_emptySince_missed {plan : Plan} {cursor : Cursor} {counted : Bool} {next : Nat}
    {since : Int} : since ∈ (plan.missed cursor counted next).emptySince ↔
      since ∈ cursor.emptySince ∨ cursor.emptySince = none ∧
        Representable (plan.stepStart cursor.step) ∧ since = plan.stepStart cursor.step := by
  simp only [missed, stepStart?_eq]
  cases cursor.emptySince with
  | some early => simp
  | none => simp [Option.mem_def, eq_comm]

theorem Behind.missed {plan : Plan} {cursor : Cursor} (h : plan.Behind cursor) {counted : Bool}
    {next : Nat} (hlt : cursor.step < next) : plan.Behind (plan.missed cursor counted next) := by
  intro since hs
  have hle : plan.stepStart cursor.step ≤ plan.stepStart next := stepStart_le_iff.2 hlt.le
  change since ≤ plan.stepStart next
  rcases mem_emptySince_missed.1 hs with hs | ⟨-, -, rfl⟩
  · exact (h since hs).trans hle
  · exact hle

theorem Fresher.missed {plan : Plan} {fast slow : Cursor} (h : fast.Fresher slow)
    (hb : plan.Behind slow) (counted : Bool) (next : Nat) :
    (plan.missed fast counted next).Fresher (plan.missed slow counted next) := by
  refine ⟨rfl, ?_, ?_⟩
  · have := h.count
    simp only [Plan.missed]
    split <;> omega
  · intro late hl
    rcases mem_emptySince_missed.1 hl with hl | ⟨-, hr, rfl⟩
    · obtain ⟨early, he, hle⟩ := h.since late hl
      exact ⟨early, mem_emptySince_missed.2 (.inl he), hle⟩
    · rw [h.step] at hr ⊢
      cases he : slow.emptySince with
      | some early => exact ⟨early, mem_emptySince_missed.2 (.inl he), hb early he⟩
      | none => exact ⟨_, mem_emptySince_missed.2 (.inr ⟨he, hr, rfl⟩), le_rfl⟩

/-- What jumps from a step without memory has missed less than what jumps over the
step from further back. -/
theorem Canonical.fresher_missed {plan : Plan} (hC : plan.Canonical) {cursor : Cursor}
    (hb : plan.Behind cursor) {step : Nat} (hle : cursor.step ≤ step) (counted : Bool)
    (next : Nat) : (plan.missed (.before step) counted next).Fresher
      (plan.missed cursor counted next) := by
  refine ⟨rfl, ?_, ?_⟩
  · simp only [Plan.missed, Cursor.before]
    split <;> omega
  · intro late hl
    rcases mem_emptySince_missed.1 hl with hl | ⟨-, hr, rfl⟩
    · simp [Cursor.before] at hl
    · have hstart : plan.stepStart cursor.step ≤ plan.stepStart step := stepStart_le_iff.2 hle
      cases hc : cursor.emptySince with
      | some early =>
        exact ⟨early, mem_emptySince_missed.2 (.inl hc), (hb early hc).trans hstart⟩
      | none =>
        refine ⟨_, mem_emptySince_missed.2 (.inr ⟨hc, ?_, rfl⟩), hstart⟩
        rw [hC.representable_iff] at hr ⊢
        exact hstart.trans hr

theorem hasSpanned_iff {plan : Plan} {cursor : Cursor} : plan.hasSpanned cursor = true ↔
    ∃ since ∈ cursor.emptySince, Representable (plan.stepStart cursor.step) ∧
      (gregorianCycle * (if plan.frequency.isSubDaily then 1 else plan.interval) : Nat) ≤
        (plan.stepStart cursor.step - since) / 86400 := by
  unfold hasSpanned
  rw [stepStart?_eq]
  cases cursor.emptySince with
  | none => simp
  | some since =>
    by_cases hr : Representable (plan.stepStart cursor.step)
    · simp [hr, secondsPerDay]
    · simp [hr]

theorem givesUp_iff {plan : Plan} {cursor : Cursor} : plan.givesUp cursor = true ↔
    if plan.frequency.isSubDaily then
      plan.emptyLimit.toNat ≤ cursor.emptySteps ∨ plan.hasSpanned cursor = true
    else plan.emptyLimit.toNat ≤ cursor.emptySteps ∧ plan.hasSpanned cursor = true := by
  unfold givesUp
  cases plan.frequency.isSubDaily <;> simp

theorem givesUp_of_fresher {plan : Plan} {fast slow : Cursor} (h : fast.Fresher slow)
    (hg : plan.givesUp slow = false) : plan.givesUp fast = false := by
  have hspan : plan.hasSpanned fast = true → plan.hasSpanned slow = true := by
    rw [hasSpanned_iff, hasSpanned_iff, h.step]
    rintro ⟨late, hl, hr, hle⟩
    obtain ⟨early, he, hearly⟩ := h.since late hl
    exact ⟨early, he, hr, hle.trans (Int.ediv_le_ediv (by decide) (by omega))⟩
  rw [Bool.eq_false_iff, ne_eq, givesUp_iff] at hg ⊢
  intro hfast
  apply hg
  split at hfast
  · next hsub =>
    rw [if_pos hsub]
    exact hfast.imp (fun hle => hle.trans h.count) hspan
  · next hsub =>
    rw [if_neg hsub]
    exact hfast.imp (fun hle => hle.trans h.count) hspan

theorem Canonical.walks_fresher {plan : Plan} (hC : plan.Canonical) {fast slow : Cursor}
    {walls : List Int} {gaveUp : Bool} (h : plan.Walks slow walls gaveUp)
    (hf : fast.Fresher slow) (hb : plan.Behind slow) :
    ∃ more end', plan.Walks fast (walls ++ more) end' ∧
      (gaveUp = false → more = [] ∧ end' = false) := by
  -- The two cursors take the same steps until the slower one gives up.
  induction h generalizing fast with
  | @gaveUp slow hg =>
    obtain ⟨walls, end', hw⟩ := hC.exists_walks fast
    exact ⟨walls, end', hw, by simp⟩
  | @exhausted slow hg he =>
    have hg' := givesUp_of_fresher hf hg
    exact ⟨[], false, .exhausted hg' (hf.step ▸ he), fun _ => ⟨rfl, rfl⟩⟩
  | @missed slow counted next walls gaveUp hg hm rest ih =>
    have hg' := givesUp_of_fresher hf hg
    obtain ⟨more, end', hw, hend⟩ :=
      ih (Fresher.missed hf hb counted next) (hb.missed (lt_of_missesTo? hm))
    exact ⟨more, end', .missed hg' (hf.step ▸ hm) hw, hend⟩
  | @yielded slow walls gaveUp hg hy rest ih =>
    have hg' := givesUp_of_fresher hf hg
    refine ⟨[], gaveUp, ?_, fun hgave => ⟨rfl, hgave⟩⟩
    rw [List.append_nil]
    have := Walks.yielded hg' (hf.step ▸ hy) (hf.step ▸ rest)
    rwa [hf.step] at this

theorem givesUp_before {plan : Plan} {cursor : Cursor} (hg : plan.givesUp cursor = false)
    (step : Nat) : plan.givesUp (.before step) = false := by
  have hspan : ¬ plan.hasSpanned (.before step) = true := by
    rw [hasSpanned_iff]
    rintro ⟨since, hs, -⟩
    simp [Cursor.before] at hs
  rw [Bool.eq_false_iff, ne_eq, givesUp_iff] at hg ⊢
  intro hbefore
  apply hg
  split at hbefore
  · next hsub =>
    rw [if_pos hsub]
    exact .inl ((hbefore.resolve_right hspan).trans (Nat.zero_le _))
  · exact absurd hbefore.2 hspan

theorem Canonical.walls_eq_nil_of_exhausted {plan : Plan} (hC : plan.Canonical) {cursor : Cursor}
    {walls : List Int} {gaveUp : Bool} (h : plan.Walks cursor walls gaveUp) {step : Nat}
    (hle : step ≤ cursor.step) (he : plan.evaluate step = .exhausted) : walls = [] := by
  apply List.eq_nil_iff_forall_not_mem.2
  intro wall hw
  obtain ⟨later, hlater, hy⟩ := h.exists_step wall hw
  simp [yields_of_exhausted (hC.exhausted_mono (hle.trans hlater) he)] at hy

/-- A walk from a later step gives what the whole walk gives from that step on,
and more only where the whole walk gave up. -/
theorem Canonical.walks_resume {plan : Plan} (hC : plan.Canonical) {cursor : Cursor}
    {walls : List Int} {gaveUp : Bool} (h : plan.Walks cursor walls gaveUp)
    (hb : plan.Behind cursor) {step : Nat} (hle : cursor.step ≤ step) :
    ∃ pre post more end', walls = pre ++ post ∧ plan.Walks (.before step) (post ++ more) end' ∧
      (∀ wall ∈ pre, wall < plan.stepStart step) ∧
      (gaveUp = false → more = [] ∧ end' = false) := by
  induction h with
  | gaveUp hg =>
    obtain ⟨walls, end', hw⟩ := hC.exists_walks (.before step)
    exact ⟨[], [], walls, end', rfl, hw, by simp, by simp⟩
  | exhausted hg he =>
    have hw := Walks.exhausted (givesUp_before hg step) (hC.exhausted_mono hle he)
    exact ⟨[], [], [], false, rfl, hw, by simp, fun _ => ⟨rfl, rfl⟩⟩
  | @missed cursor counted next walls gaveUp hg hm rest ih =>
    rcases le_or_gt next step with hnext | hnext
    · exact ih (hb.missed (lt_of_missesTo? hm)) hnext
    · rcases hC.missesTo?_between hm hle hnext with hm' | he
      · -- The jump goes over the step, from which the same jump is taken.
        have hfresh := hC.fresher_missed hb hle counted next
        obtain ⟨more, end', hw, hend⟩ :=
          hC.walks_fresher rest hfresh (hb.missed (lt_of_missesTo? hm))
        exact ⟨[], walls, more, end', rfl, .missed (givesUp_before hg step) hm' hw, by simp, hend⟩
      · have hnil := hC.walls_eq_nil_of_exhausted rest hnext.le he
        subst hnil
        exact ⟨[], [], [], false, rfl, .exhausted (givesUp_before hg step) he, by simp,
          fun _ => ⟨rfl, rfl⟩⟩
  | @yielded cursor walls gaveUp hg hy rest ih =>
    rcases eq_or_lt_of_le hle with rfl | hlt
    · have hw := Walks.yielded (givesUp_before hg cursor.step) hy rest
      exact ⟨[], _, [], gaveUp, rfl, by rwa [List.append_nil], by simp, fun hgave => ⟨rfl, hgave⟩⟩
    · obtain ⟨pre, post, more, end', rfl, hw, hpre, hend⟩ := ih (plan.behind_before _) hlt
      refine ⟨plan.yields cursor.step ++ pre, post, more, end', by rw [List.append_assoc], hw, ?_,
        hend⟩
      intro wall hmem
      rcases List.mem_append.1 hmem with hmem | hmem
      · apply unitOf_lt_iff.1
        rw [hC.unitOf_of_mem_yields hmem]
        exact number_lt_iff.2 hlt
      · exact hpre wall hmem

/-- A plan that hides instances before an instant and ends after another. -/
def limited (plan : Plan) (first last : Option Int) : Plan :=
  { plan with resume := first, horizon := last }

/-- Whether a reading lies so far behind a horizon that no step there is taken. -/
def isBeyond (last : Option Int) (wall : Int) : Bool :=
  (last.bind (move? · secondsPerDay)).any (· < wall)

theorem isBeyond_mono {last : Option Int} {a b : Int} (h : a ≤ b) (ha : isBeyond last a = true) :
    isBeyond last b = true := by
  unfold isBeyond at ha ⊢
  cases hm : last.bind (move? · secondsPerDay) with
  | none => simp [hm] at ha
  | some stop =>
    simp only [hm, Option.any_some, decide_eq_true_eq] at ha ⊢
    omega

theorem lt_of_isBeyond {last : Option Int} {wall : Int} (h : isBeyond last wall = true) :
    ∃ horizon, last = some horizon ∧ horizon + 86400 < wall := by
  unfold isBeyond at h
  cases last with
  | none => simp at h
  | some horizon =>
    simp only [Option.bind_some] at h
    cases hm : move? horizon secondsPerDay with
    | none => simp [hm] at h
    | some stop =>
      obtain ⟨rfl, -⟩ := move?_eq_some_iff.1 hm
      simp only [hm, Option.any_some, decide_eq_true_eq] at h
      exact ⟨horizon, rfl, h⟩

theorem isPastStop_limited {plan : Plan} (hh : plan.horizon = none) (first last : Option Int)
    (wall : Int) : (plan.limited first last).isPastStop wall =
      (plan.isPastStop wall || isBeyond last wall) := by
  unfold isPastStop stopAfter? isBeyond limited
  rw [hh]
  simp only [Option.bind_none]
  generalize (plan.bound.bind fun bound => _) = stop
  cases stop with
  | none => cases last.bind (move? · secondsPerDay) <;> simp
  | some a =>
    cases last.bind (move? · secondsPerDay) with
    | none => simp
    | some b => simp

theorem evaluate_limited {plan : Plan} (hh : plan.horizon = none) (first last : Option Int)
    (step : Nat) : (plan.limited first last).evaluate step =
      if isBeyond last (plan.stepStart step) then .exhausted else plan.evaluate step := by
  have hstart : (plan.limited first last).stepStart step = plan.stepStart step := rfl
  rw [evaluate_eq, evaluate_eq, isPastStop_limited hh, hstart]
  cases isBeyond last (plan.stepStart step) with
  | true => simp
  | false =>
    simp only [Bool.or_false, Bool.false_eq_true, if_false]
    rfl

theorem Canonical.withLimits {plan : Plan} (hC : plan.Canonical) (emptyLimit : UInt32)
    (resume horizon : Option Int) : { plan with emptyLimit, resume, horizon }.Canonical :=
  ⟨hC.anchor_mem, hC.filter_eq, hC.hours_eq, hC.minutes_eq, hC.seconds_eq, hC.times_eq, hC.timed⟩

theorem Canonical.limited {plan : Plan} (hC : plan.Canonical) (first last : Option Int) :
    (plan.limited first last).Canonical :=
  hC.withLimits plan.emptyLimit first last

/-- Whether a plan takes the steps of another up to where they begin beyond a
limit, and nothing from there on. -/
structure CutBy (beyond : Int → Bool) (plan part : Plan) : Prop where
  mono : ∀ {a b : Int}, a ≤ b → beyond a = true → beyond b = true
  givesUp_eq : part.givesUp = plan.givesUp
  missed_eq : part.missed = plan.missed
  evaluate_eq : ∀ step, part.evaluate step =
    if beyond (plan.stepStart step) then .exhausted else plan.evaluate step

section CutBy

variable {plan part : Plan} {beyond : Int → Bool}

theorem CutBy.missesTo?_eq (h : CutBy beyond plan part) {step : Nat}
    (hstep : beyond (plan.stepStart step) = false) :
    part.missesTo? step = plan.missesTo? step := by
  unfold missesTo?
  rw [h.evaluate_eq, hstep]
  simp

theorem CutBy.yields_eq (h : CutBy beyond plan part) {step : Nat}
    (hstep : beyond (plan.stepStart step) = false) : part.yields step = plan.yields step := by
  unfold yields
  rw [h.evaluate_eq, hstep]
  simp

/-- Once a step begins beyond the limit, what is left of a walk lies beyond it. -/
theorem Canonical.beyond_of_mem_walks (hC : plan.Canonical)
    (hmono : ∀ {a b : Int}, a ≤ b → beyond a = true → beyond b = true) {cursor : Cursor}
    {walls : List Int} {gaveUp : Bool} {step : Nat} (h : plan.Walks cursor walls gaveUp)
    (hle : step ≤ cursor.step) (hbeyond : beyond (plan.stepStart step) = true) :
    ∀ wall ∈ walls, beyond wall = true := by
  intro wall hmem
  obtain ⟨later, hlater, hy⟩ := h.exists_step wall hmem
  refine hmono ?_ hbeyond
  calc plan.stepStart step
      ≤ plan.stepStart later := stepStart_le_iff.2 (hle.trans hlater)
    _ ≤ wall := hC.stepStart_le_of_mem_yields hy

/-- A cut leaves of a walk what lies before the first step beyond the limit. -/
theorem Canonical.walks_cut (hC : plan.Canonical) (hpart : CutBy beyond plan part)
    {cursor : Cursor} {walls : List Int} {gaveUp : Bool} (h : plan.Walks cursor walls gaveUp) :
    ∃ kept cut end', walls = kept ++ cut ∧ part.Walks cursor kept end' ∧
      (∀ wall ∈ cut, beyond wall = true) ∧ (end' = true → cut = [] ∧ gaveUp = true) := by
  induction h with
  | gaveUp hg =>
    rw [← hpart.givesUp_eq] at hg
    exact ⟨[], [], true, rfl, .gaveUp hg, by simp, fun _ => ⟨rfl, rfl⟩⟩
  | exhausted hg he =>
    rw [← hpart.givesUp_eq] at hg
    refine ⟨[], [], false, rfl, .exhausted hg ?_, by simp, by simp⟩
    rw [hpart.evaluate_eq, he, ite_self]
  | @missed cursor counted next walls gaveUp hg hm rest ih =>
    have hg' : part.givesUp cursor = false := hpart.givesUp_eq ▸ hg
    cases hbeyond : beyond (plan.stepStart cursor.step) with
    | true =>
      refine ⟨[], walls, false, rfl, .exhausted hg' ?_,
        hC.beyond_of_mem_walks hpart.mono rest (lt_of_missesTo? hm).le hbeyond, by simp⟩
      rw [hpart.evaluate_eq, if_pos hbeyond]
    | false =>
      obtain ⟨kept, cut, end', hsplit, hw, hcut, hend⟩ := ih
      rw [← hpart.missed_eq] at hw
      exact ⟨kept, cut, end', hsplit, .missed hg' (by rwa [hpart.missesTo?_eq hbeyond]) hw, hcut,
        hend⟩
  | @yielded cursor walls gaveUp hg hy rest ih =>
    have hg' : part.givesUp cursor = false := hpart.givesUp_eq ▸ hg
    cases hbeyond : beyond (plan.stepStart cursor.step) with
    | true =>
      refine ⟨[], _, false, rfl, .exhausted hg' ?_,
        hC.beyond_of_mem_walks hpart.mono (.yielded hg hy rest) le_rfl hbeyond, by simp⟩
      rw [hpart.evaluate_eq, if_pos hbeyond]
    | false =>
      obtain ⟨kept, cut, end', rfl, hw, hcut, hend⟩ := ih
      have hy' := hpart.yields_eq hbeyond
      refine ⟨plan.yields cursor.step ++ kept, cut, end', by rw [List.append_assoc], ?_, hcut, hend⟩
      rw [← hy']
      exact .yielded hg' (by rwa [hy']) hw

end CutBy

/-- A horizon cuts a walk off where steps begin more than a day behind it. -/
theorem Canonical.walks_limited {plan : Plan} (hC : plan.Canonical) (hh : plan.horizon = none)
    (first last : Option Int) {cursor : Cursor} {walls : List Int} {gaveUp : Bool}
    (h : plan.Walks cursor walls gaveUp) : ∃ kept cut end', walls = kept ++ cut ∧
      (plan.limited first last).Walks cursor kept end' ∧
      (∀ wall ∈ cut, isBeyond last wall = true) ∧
      (end' = true → cut = [] ∧ gaveUp = true) := by
  have hcut : CutBy (isBeyond last) plan (plan.limited first last) :=
    ⟨isBeyond_mono, rfl, rfl, evaluate_limited hh first last⟩
  exact hC.walks_cut hcut h

end Plan
end Recurrence
