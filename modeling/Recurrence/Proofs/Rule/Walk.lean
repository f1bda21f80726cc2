import Mathlib
import Recurrence.Proofs.Rule.Reach

/-! A run as two passes. A walk takes the steps and gives their readings,
whatever becomes of these; `judged` goes through readings and keeps instances.
`items_of_walks` says that a run is the second pass over the first. -/
namespace Recurrence
open Calendar

/-- A cursor before a step, as it is behind a candidate. -/
def Cursor.before (step : Nat) : Cursor := ⟨step, [], 0, 0, none, none⟩

namespace Plan

/-- Where a step without readings leads, and whether it counts against the
limit. -/
def missesTo? (plan : Plan) (step : Nat) : Option (Bool × Nat) :=
  match plan.evaluate step with
  | .skip next => some (true, next)
  | .skipDay next => some (false, next)
  | .candidates [] => some (true, step + 1)
  | .candidates (_ :: _) => none
  | .exhausted => none

/-- The readings of the steps from a cursor on, and whether the run gives up
behind them. -/
inductive Walks (plan : Plan) : Cursor → List Int → Bool → Prop
  | gaveUp {cursor : Cursor} (hg : plan.givesUp cursor = true) : Walks plan cursor [] true
  | exhausted {cursor : Cursor} (hg : plan.givesUp cursor = false)
      (he : plan.evaluate cursor.step = .exhausted) : Walks plan cursor [] false
  | missed {cursor : Cursor} {counted : Bool} {next : Nat} {walls : List Int} {gaveUp : Bool}
      (hg : plan.givesUp cursor = false) (hm : plan.missesTo? cursor.step = some (counted, next))
      (rest : Walks plan (plan.missed cursor counted next) walls gaveUp) :
      Walks plan cursor walls gaveUp
  | yielded {cursor : Cursor} {walls : List Int} {gaveUp : Bool}
      (hg : plan.givesUp cursor = false) (hy : plan.yields cursor.step ≠ [])
      (rest : Walks plan (.before (cursor.step + 1)) walls gaveUp) :
      Walks plan cursor (plan.yields cursor.step ++ walls) gaveUp

/-- The items that readings come to, after `emitted` instances of which the
latest has key `latest`, with what follows if they do not end the run. -/
def judged (plan : Plan) (behind : List Run.Item) (emitted : Nat) (latest : Option TimelineKey) :
    List Int → List Run.Item
  | [] => behind
  | wall :: walls =>
    match plan.judge emitted latest wall with
    | .pass => plan.judged behind emitted latest walls
    | .stop => []
    | .fail error => [.error error]
    | .found found shown last =>
      (if shown then [.ok found] else []) ++
        if last then [] else plan.judged behind (emitted + 1) (some found.key) walls

/-- What a run ends with behind its readings. -/
def ending (plan : Plan) (gaveUp : Bool) : List Run.Item :=
  if gaveUp then [.error (.evaluation (.emptySteps plan.emptyLimit))] else []

theorem evaluate_outcome (plan : Plan) (step : Nat) : plan.evaluate step = .exhausted ∨
    (∃ counted next, plan.missesTo? step = some (counted, next)) ∨ plan.yields step ≠ [] := by
  unfold missesTo? yields
  cases plan.evaluate step with
  | exhausted => exact .inl rfl
  | skip next => exact .inr (.inl ⟨_, _, rfl⟩)
  | skipDay next => exact .inr (.inl ⟨_, _, rfl⟩)
  | candidates walls =>
    cases walls with
    | nil => exact .inr (.inl ⟨_, _, rfl⟩)
    | cons wall walls => exact .inr (.inr (List.cons_ne_nil _ _))

theorem missesTo?_of_exhausted {plan : Plan} {step : Nat} (h : plan.evaluate step = .exhausted) :
    plan.missesTo? step = none := by
  simp [missesTo?, h]

theorem missesTo?_of_yields {plan : Plan} {step : Nat} (h : plan.yields step ≠ []) :
    plan.missesTo? step = none := by
  unfold missesTo?
  unfold yields at h
  split <;> simp_all

/-- A step without readings leaps to where its miss ends, or goes on to the next step. -/
theorem missesTo?_cases {plan : Plan} {step next : Nat} {counted : Bool}
    (h : plan.missesTo? step = some (counted, next)) :
    (∃ byDay, plan.evaluate step = .leap byDay next ∧ counted = !byDay) ∨
      plan.evaluate step = .candidates [] ∧ counted = true ∧ next = step + 1 := by
  unfold missesTo? at h
  split at h
  · next he =>
    cases h
    exact .inl ⟨false, he, rfl⟩
  · next he =>
    cases h
    exact .inl ⟨true, he, rfl⟩
  · next he =>
    cases h
    exact .inr ⟨he, rfl, rfl⟩
  · cases h
  · cases h

theorem evaluate_ne_exhausted_of_missesTo? {plan : Plan} {step next : Nat} {counted : Bool}
    (h : plan.missesTo? step = some (counted, next)) : plan.evaluate step ≠ .exhausted := by
  intro he
  simp [missesTo?_of_exhausted he] at h

theorem evaluate_ne_exhausted_of_yields {plan : Plan} {step : Nat} (h : plan.yields step ≠ []) :
    plan.evaluate step ≠ .exhausted := by
  intro he
  exact h (yields_of_exhausted he)

theorem lt_of_missesTo? {plan : Plan} {step next : Nat} {counted : Bool}
    (h : plan.missesTo? step = some (counted, next)) : step < next := by
  rcases missesTo?_cases h with ⟨byDay, he, -⟩ | ⟨-, -, rfl⟩
  · cases byDay with
    | false => exact lt_of_evaluate (.inl he)
    | true => exact lt_of_evaluate (.inr he)
  · exact Nat.lt_succ_self step

/-- Up to the step where a miss leads, all steps miss alike until they are
exhausted. -/
theorem Canonical.missesTo?_between {plan : Plan} (hC : plan.Canonical) {i j next : Nat}
    {counted : Bool} (h : plan.missesTo? i = some (counted, next)) (hij : i ≤ j) (hj : j < next) :
    plan.missesTo? j = some (counted, next) ∨ plan.evaluate j = .exhausted := by
  rcases missesTo?_cases h with ⟨byDay, he, rfl⟩ | ⟨-, -, rfl⟩
  · refine (hC.evaluate_between he hij hj).imp_left fun he => ?_
    cases byDay <;> simp [missesTo?, he, Step.leap]
  · obtain rfl : j = i := by omega
    exact .inl h

theorem Canonical.lt_stepLimit {plan : Plan} (hC : plan.Canonical) {step : Nat}
    (h : plan.evaluate step ≠ .exhausted) : step < stepLimit := by
  by_contra hle
  exact h (evaluate_eq_exhausted_iff.2 (.inl (hC.not_representable (not_lt.1 hle))))

theorem Canonical.next_le {plan : Plan} (hC : plan.Canonical) {step next : Nat} {counted : Bool}
    (h : plan.missesTo? step = some (counted, next)) : next ≤ stepLimit := by
  have hlt := hC.lt_stepLimit (evaluate_ne_exhausted_of_missesTo? h)
  rcases missesTo?_cases h with ⟨byDay, he, -⟩ | ⟨-, -, rfl⟩
  · obtain ⟨-, -, target, hm, ht, rfl⟩ := evaluate_eq_leap_iff.1 he
    exact (stepFrom_le_iff (isSubDaily_of_miss? hm)).2 ⟨hlt, ht.2.trans hC.lastSecond_lt.le⟩
  · exact hlt

theorem Canonical.exists_walks {plan : Plan} (hC : plan.Canonical) (cursor : Cursor) :
    ∃ walls gaveUp, plan.Walks cursor walls gaveUp := by
  induction h : stepLimit - cursor.step using Nat.strong_induction_on generalizing cursor with
  | _ left ih =>
    cases hg : plan.givesUp cursor with
    | true => exact ⟨_, _, .gaveUp hg⟩
    | false =>
      by_cases he : plan.evaluate cursor.step = .exhausted
      · exact ⟨_, _, .exhausted hg he⟩
      · have hlt := hC.lt_stepLimit he
        rcases plan.evaluate_outcome cursor.step with he' | ⟨counted, next, hm⟩ | hy
        · exact absurd he' he
        · have hnext := lt_of_missesTo? hm
          obtain ⟨walls, gaveUp, rest⟩ :=
            ih (stepLimit - next) (by omega) (plan.missed cursor counted next) rfl
          exact ⟨_, _, .missed hg hm rest⟩
        · obtain ⟨walls, gaveUp, rest⟩ :=
            ih (stepLimit - (cursor.step + 1)) (by omega) (.before (cursor.step + 1)) rfl
          exact ⟨_, _, .yielded hg hy rest⟩

/-- The items from the answer of a cursor. -/
def itemsBehind (plan : Plan) : Option (Run.Item × Option Cursor) → List Run.Item
  | none => []
  | some (item, none) => [item]
  | some (item, some rest) => item :: plan.items rest

theorem items_eq_behind (plan : Plan) (cursor : Cursor) :
    plan.items cursor = plan.itemsBehind (plan.next? cursor) := by
  rw [items]
  split <;> simp [itemsBehind, *]

theorem items_of_walls {plan : Plan} {cursor : Cursor} {wall : Int} {walls : List Int}
    (h : cursor.walls = wall :: walls) : plan.items cursor =
      match plan.judge cursor.emitted cursor.latest wall with
      | .pass => plan.items { cursor with walls }
      | .stop => []
      | .fail error => [.error error]
      | .found found shown last =>
        (if shown then [.ok found] else []) ++
          if last then []
          else plan.items
            { cursor with walls, emitted := cursor.emitted + 1, latest := some found.key } := by
  rw [items_eq_behind, next?]
  split
  · next first others hw =>
    obtain ⟨rfl, rfl⟩ := List.cons.inj (h.symm.trans hw)
    cases hj : plan.judge cursor.emitted cursor.latest wall with
    | pass => simp only [items_eq_behind]
    | stop => rfl
    | fail error => rfl
    | found found shown last =>
      cases shown with
      | true => cases last <;> rfl
      | false =>
        cases last with
        | true => rfl
        | false => exact (items_eq_behind _ _).symm
  · next hw => simp [h] at hw

theorem items_of_no_walls {plan : Plan} {cursor : Cursor} (h : cursor.walls = []) :
    plan.items cursor =
      if plan.givesUp cursor then [.error (.evaluation (.emptySteps plan.emptyLimit))]
      else if stepLimit ≤ cursor.step then []
      else
        match plan.missesTo? cursor.step with
        | some (counted, next) => plan.items (plan.missed cursor counted next)
        | none =>
          if plan.evaluate cursor.step = .exhausted then []
          else plan.items { cursor with
            step := cursor.step + 1, walls := plan.yields cursor.step
            emptySteps := 0, emptySince := none } := by
  rw [items_eq_behind, next?]
  split
  · next hw => simp [h] at hw
  · split
    · rfl
    · split
      · rfl
      · unfold missesTo? yields
        split
        · next he => simp only [he, itemsBehind, if_true]
        · next he => simp only [he, items_eq_behind]
        · next he => simp only [he, items_eq_behind]
        · next he => simp only [he, items_eq_behind]
        · next walls hne he =>
          cases walls with
          | nil => exact absurd rfl hne
          | cons wall walls => simp [he, items_eq_behind]

theorem items_append {plan : Plan} {cursor : Cursor} {behind : List Run.Item} {later : List Int}
    (h : ∀ emitted latest, plan.items { cursor with walls := [], emitted, latest } =
      plan.judged behind emitted latest later) (walls : List Int) (emitted : Nat)
    (latest : Option TimelineKey) : plan.items { cursor with walls, emitted, latest } =
      plan.judged behind emitted latest (walls ++ later) := by
  induction walls generalizing emitted latest with
  | nil => exact h emitted latest
  | cons wall walls ih =>
    rw [items_of_walls rfl, List.cons_append, judged]
    cases plan.judge emitted latest wall with
    | pass => exact ih emitted latest
    | stop => rfl
    | fail error => rfl
    | found found shown last =>
      cases last with
      | true => rfl
      | false =>
        simp only [Bool.false_eq_true, if_false, List.append_cancel_left_eq]
        exact ih (emitted + 1) (some found.key)

/-- A run is its walk, judged. -/
theorem Canonical.items_of_walks {plan : Plan} (hC : plan.Canonical) {cursor : Cursor}
    {walls : List Int} {gaveUp : Bool} (h : plan.Walks cursor walls gaveUp) (emitted : Nat)
    (latest : Option TimelineKey) : plan.items { cursor with walls := [], emitted, latest } =
      plan.judged (plan.ending gaveUp) emitted latest walls := by
  induction h generalizing emitted latest with
  | gaveUp hg =>
    rw [items_of_no_walls rfl, if_pos (by exact hg)]
    rfl
  | @exhausted cursor hg he =>
    rw [items_of_no_walls rfl, if_neg (by exact ne_true_of_eq_false hg)]
    simp only [missesTo?_of_exhausted he, he, if_true, ite_self]
    rfl
  | @missed cursor counted next walls gaveUp hg hm rest ih =>
    have hlt := hC.lt_stepLimit (evaluate_ne_exhausted_of_missesTo? hm)
    rw [items_of_no_walls rfl, if_neg (by exact ne_true_of_eq_false hg), if_neg (not_le.2 hlt)]
    simp only [hm]
    exact ih emitted latest
  | @yielded cursor walls gaveUp hg hy rest ih =>
    have he := evaluate_ne_exhausted_of_yields hy
    rw [items_of_no_walls rfl, if_neg (by exact ne_true_of_eq_false hg),
      if_neg (not_le.2 (hC.lt_stepLimit he))]
    simp only [missesTo?_of_yields hy, if_neg he]
    exact items_append ih _ emitted latest

theorem yields_of_missesTo? {plan : Plan} {step next : Nat} {counted : Bool}
    (h : plan.missesTo? step = some (counted, next)) : plan.yields step = [] := by
  by_contra hy
  simp [missesTo?_of_yields hy] at h

theorem Canonical.lt_of_mem_yields {plan : Plan} (hC : plan.Canonical) {i j : Nat} (hij : i < j)
    {a b : Int} (ha : a ∈ plan.yields i) (hb : b ∈ plan.yields j) : a < b := by
  refine @lt_of_unitOf_lt plan _ _ ?_
  rw [hC.unitOf_of_mem_yields ha, hC.unitOf_of_mem_yields hb]
  exact number_lt_iff.2 hij

theorem Canonical.stepStart_le_of_mem_yields {plan : Plan} (hC : plan.Canonical) {step : Nat}
    {wall : Int} (h : wall ∈ plan.yields step) : plan.stepStart step ≤ wall :=
  le_unitOf_iff.1 (hC.unitOf_of_mem_yields h).ge

theorem Walks.exists_step {plan : Plan} {cursor : Cursor} {walls : List Int} {gaveUp : Bool}
    (h : plan.Walks cursor walls gaveUp) : ∀ wall ∈ walls, ∃ step, cursor.step ≤ step ∧
      wall ∈ plan.yields step := by
  induction h with
  | gaveUp hg => simp
  | exhausted hg he => simp
  | missed hg hm rest ih =>
    intro wall hw
    obtain ⟨step, hle, hy⟩ := ih wall hw
    exact ⟨step, (lt_of_missesTo? hm).le.trans hle, hy⟩
  | @yielded cursor walls gaveUp hg hy rest ih =>
    intro wall hw
    rcases List.mem_append.1 hw with hw | hw
    · exact ⟨cursor.step, le_rfl, hw⟩
    · obtain ⟨step, hle, hy⟩ := ih wall hw
      exact ⟨step, (Nat.le_succ _).trans hle, hy⟩

theorem Canonical.walks_pairwise {plan : Plan} (hC : plan.Canonical) {cursor : Cursor}
    {walls : List Int} {gaveUp : Bool} (h : plan.Walks cursor walls gaveUp) :
    walls.Pairwise (· < ·) := by
  induction h with
  | gaveUp hg => exact List.Pairwise.nil
  | exhausted hg he => exact List.Pairwise.nil
  | missed hg hm rest ih => exact ih
  | @yielded cursor walls gaveUp hg hy rest ih =>
    refine List.pairwise_append.2 ⟨hC.yields_pairwise _, ih, ?_⟩
    intro a ha b hb
    obtain ⟨step, hle, hb⟩ := rest.exists_step b hb
    exact hC.lt_of_mem_yields hle ha hb

/-- A walk misses nothing that a step yields, unless it gave up before that. -/
theorem Canonical.mem_of_walks {plan : Plan} (hC : plan.Canonical) {cursor : Cursor}
    {walls : List Int} {gaveUp : Bool} (h : plan.Walks cursor walls gaveUp) {step : Nat}
    {wall : Int} (hle : cursor.step ≤ step) (hw : wall ∈ plan.yields step) :
    wall ∈ walls ∨ gaveUp = true ∧ ∀ v ∈ walls, v < wall := by
  induction h with
  | gaveUp hg => exact .inr ⟨rfl, by simp⟩
  | exhausted hg he => simp [yields_of_exhausted (hC.exhausted_mono hle he)] at hw
  | @missed cursor counted next walls gaveUp hg hm rest ih =>
    rcases lt_or_ge step next with hlt | hge
    · rcases hC.missesTo?_between hm hle hlt with hmiss | he
      · simp [yields_of_missesTo? hmiss] at hw
      · simp [yields_of_exhausted he] at hw
    · exact ih hge
  | @yielded cursor walls gaveUp hg hy rest ih =>
    rcases eq_or_lt_of_le hle with rfl | hlt
    · exact .inl (List.mem_append_left _ hw)
    · rcases ih hlt with hmem | ⟨hgave, hall⟩
      · exact .inl (List.mem_append_right _ hmem)
      · refine .inr ⟨hgave, fun v hv => ?_⟩
        rcases List.mem_append.1 hv with hv | hv
        · exact hC.lt_of_mem_yields hlt hv hw
        · exact hall v hv

end Plan
end Recurrence
