import Recurrence.Error
/-!
Sources give items one at a time and end at last. `next?` answers with an item and with what is
left behind it; `toList` is all that a source gives, and its law says that `next?` takes that list
apart. A lookahead holds one item back from its source.
-/
namespace Recurrence

class Source (σ : Type) (α : outParam Type) where
  /-- The next item, which may be a failure, and the source behind it unless that was the last. -/
  next? : σ → Option (Except Failure α × Option σ)
  toList : σ → List (Except Failure α)
  toList_eq : ∀ source, toList source =
    match next? source with
    | none => []
    | some (item, none) => [item]
    | some (item, some rest) => item :: toList rest

namespace Source

variable {σ α : Type} [Source σ α]

/-- The items of what is left of a source. -/
def restList (rest : Option σ) : List (Except Failure α) :=
  match rest with
  | some source => toList source
  | none => []

@[simp] theorem restList_none : restList (none : Option σ) = [] := rfl

@[simp] theorem restList_some (source : σ) : restList (some source) = toList source := rfl

theorem toList_of_next? {source : σ} {item : Except Failure α} {rest : Option σ}
    (h : next? source = some (item, rest)) : toList source = item :: restList rest := by
  rw [toList_eq, h]
  cases rest <;> rfl

theorem toList_eq_nil_iff {source : σ} : toList source = [] ↔ next? source = none := by
  rw [toList_eq]
  cases h : next? source with
  | none => simp
  | some pair => obtain ⟨item, _ | rest⟩ := pair <;> simp

/-- At most `limit` items, and whether the end was seen before there were as many. -/
def take (limit : Nat) (rest : Option σ) : List (Except Failure α) × Bool :=
  match limit, rest with
  | 0, _ => ([], false)
  | _ + 1, none => ([], true)
  | limit + 1, some source =>
    match next? source with
    | none => ([], true)
    | some (item, rest) =>
      let (items, ended) := take limit rest
      (item :: items, ended)

end Source

/-- A source with its next item held ready, where that was asked for. -/
structure Lookahead (σ α : Type) where
  head : Option α
  rest : Option σ

namespace Lookahead

variable {σ α : Type} [Source σ α]

/-- A lookahead before its first item. -/
def ofSource (source : σ) : Lookahead σ α := ⟨none, some source⟩

/-- An item with nothing behind it. -/
def single (item : α) : Lookahead σ α := ⟨some item, none⟩

/-- All that is still to come. -/
def toList (ahead : Lookahead σ α) : List (Except Failure α) :=
  ahead.head.toList.map .ok ++ Source.restList ahead.rest

/-- Gets the next item ready, unless one is or none is left. A failure is given back instead. -/
def fill (ahead : Lookahead σ α) : Option Failure × Lookahead σ α :=
  match ahead.head, ahead.rest with
  | none, some source =>
    match Source.next? source with
    | none => (none, ⟨none, none⟩)
    | some (.ok item, rest) => (none, ⟨some item, rest⟩)
    | some (.error error, rest) => (some error, ⟨none, rest⟩)
  | _, _ => (none, ahead)

/-- Gets items ready one lookahead after the other, up to the first failure. -/
def fillAll : List (Lookahead σ α) → Option Failure × List (Lookahead σ α)
  | [] => (none, [])
  | ahead :: others =>
    match ahead.fill with
    | (some error, ahead) => (some error, ahead :: others)
    | (none, ahead) =>
      let (error, others) := fillAll others
      (error, ahead :: others)

/-- Drops the item held ready if it passes a test. -/
def dropIf (test : α → Bool) (ahead : Lookahead σ α) : Lookahead σ α :=
  if ahead.head.any test then { ahead with head := none } else ahead

/-- A measure that getting ready, dropping and failing all lessen: an item held ready weighs one,
one still in the source two. -/
def weight (ahead : Lookahead σ α) : Nat :=
  ahead.head.toList.length + 2 * (Source.restList ahead.rest).length

/-- The weight of several lookaheads. -/
def weightAll : List (Lookahead σ α) → Nat
  | [] => 0
  | ahead :: others => ahead.weight + weightAll others

theorem weight_fill_le (ahead : Lookahead σ α) : ahead.fill.2.weight ≤ ahead.weight := by
  obtain ⟨head, rest⟩ := ahead
  unfold fill
  split
  · next hh hr =>
    simp only at hh hr
    subst hh hr
    split
    · simp [weight]
    · next h =>
      simp only [weight, Source.restList_some, Source.toList_of_next? h, Option.toList_some,
        Option.toList_none, List.length_cons, List.length_nil]
      omega
    · next h =>
      simp only [weight, Source.restList_some, Source.toList_of_next? h, Option.toList_none,
        List.length_cons, List.length_nil]
      omega
  · exact Nat.le_refl _

theorem weight_lt_of_fill {ahead next : Lookahead σ α} {error : Failure}
    (h : ahead.fill = (some error, next)) : next.weight < ahead.weight := by
  obtain ⟨head, rest⟩ := ahead
  unfold fill at h
  split at h
  · next hh hr =>
    simp only at hh hr
    subst hh hr
    split at h
    · simp at h
    · simp at h
    · next hn =>
      simp only [Prod.mk.injEq, Option.some.injEq] at h
      obtain ⟨-, rfl⟩ := h
      simp [weight, Source.toList_of_next? hn]
  · simp at h

theorem weightAll_fillAll_le (aheads : List (Lookahead σ α)) :
    weightAll (fillAll aheads).2 ≤ weightAll aheads := by
  induction aheads with
  | nil => simp [fillAll]
  | cons ahead others ih =>
    have hw := ahead.weight_fill_le
    unfold fillAll
    split
    · next h => simp only [h] at hw; simpa [weightAll] using hw
    · next h =>
      simp only [h] at hw
      simp only [weightAll] at ih ⊢
      omega

theorem weightAll_lt_of_fillAll {aheads next : List (Lookahead σ α)} {error : Failure}
    (h : fillAll aheads = (some error, next)) : weightAll next < weightAll aheads := by
  induction aheads generalizing next with
  | nil => simp [fillAll] at h
  | cons ahead others ih =>
    unfold fillAll at h
    split at h
    · next hf =>
      simp only [Prod.mk.injEq] at h
      obtain ⟨-, rfl⟩ := h
      simpa [weightAll] using weight_lt_of_fill hf
    · next hf =>
      -- This one is ready now, and the failure comes from one behind it.
      have hw := ahead.weight_fill_le
      simp only [hf] at hw
      rcases hr : fillAll others with ⟨failed, rest⟩
      rw [hr] at h
      simp only [Prod.mk.injEq] at h
      obtain ⟨rfl, rfl⟩ := h
      have := ih hr
      simp only [weightAll] at this ⊢
      omega

theorem weight_dropIf_le (test : α → Bool) (ahead : Lookahead σ α) :
    (ahead.dropIf test).weight ≤ ahead.weight := by
  unfold dropIf
  split <;> simp [weight]

theorem weightAll_dropIf_le (test : α → Bool) (aheads : List (Lookahead σ α)) :
    weightAll (aheads.map (dropIf test)) ≤ weightAll aheads := by
  induction aheads with
  | nil => simp [weightAll]
  | cons ahead others ih =>
    have := ahead.weight_dropIf_le test
    simp only [weightAll, List.map_cons] at ih ⊢
    omega

theorem weightAll_dropIf_lt {test : α → Bool} {aheads : List (Lookahead σ α)} {item : α}
    (hm : item ∈ aheads.filterMap head) (ht : test item = true) :
    weightAll (aheads.map (dropIf test)) < weightAll aheads := by
  induction aheads with
  | nil => simp at hm
  | cons ahead others ih =>
    have hle := ahead.weight_dropIf_le test
    have hall := weightAll_dropIf_le test others
    rw [List.filterMap_cons] at hm
    simp only [weightAll, List.map_cons] at ih hall ⊢
    cases hh : ahead.head with
    | none =>
      rw [hh] at hm
      have := ih hm
      omega
    | some first =>
      rw [hh] at hm
      rcases List.mem_cons.1 hm with rfl | hm
      · have : (ahead.dropIf test).weight < ahead.weight := by
          simp [dropIf, hh, ht, weight]
        omega
      · have := ih hm
        omega

end Lookahead
end Recurrence
