import Mathlib
import Recurrence.Error

/-! Results that may be failures, taken apart. A chain of steps succeeds exactly
when each of them does. -/
namespace Recurrence

@[simp] theorem bind_eq_ok_iff {ε α β : Type} {result : Except ε α} {f : α → Except ε β}
    {value : β} : (result >>= f) = .ok value ↔ ∃ a, result = .ok a ∧ f a = .ok value := by
  cases result with
  | error error => simp [bind, Except.bind]
  | ok a => simp [bind, Except.bind]

@[simp] theorem pure_eq_ok_iff {ε α : Type} {a value : α} :
    (pure a : Except ε α) = .ok value ↔ a = value := by
  simp [pure, Except.pure]

@[simp] theorem map_eq_ok_iff {ε α β : Type} {result : Except ε α} {f : α → β} {value : β} :
    result.map f = .ok value ↔ ∃ a, result = .ok a ∧ f a = value := by
  cases result <;> simp [Except.map]

@[simp] theorem orZone_eq_ok_iff {α : Type} {result : Except ZoneError α} {value : α} :
    orZone result = .ok value ↔ result = .ok value := by
  cases result <;> simp [orZone, Except.mapError]

@[simp] theorem orInvalid_eq_ok_iff {α : Type} {result : Except InvalidValue α} {value : α} :
    orInvalid result = .ok value ↔ result = .ok value := by
  cases result <;> simp [orInvalid, Except.mapError]

theorem mapM_eq_ok_iff {ε α β : Type} {f : α → Except ε β} {values : List α} {results : List β} :
    values.mapM f = .ok results ↔ values.map f = results.map .ok := by
  induction values generalizing results with
  | nil => cases results <;> simp
  | cons value values ih =>
    rw [List.mapM_cons]
    simp only [bind_eq_ok_iff, pure_eq_ok_iff, ih]
    cases results with
    | nil => simp
    | cons result results => simp

theorem mem_of_map_eq_ok {ε α β : Type} {f : α → Except ε β} {values : List α} {results : List β}
    (h : values.map f = results.map .ok) {result : β} :
    result ∈ results ↔ ∃ value ∈ values, f value = .ok result := by
  rw [← List.mem_map, h]
  simp

theorem exists_mem_zip_of_map_eq_ok {ε α β : Type} {f : α → Except ε β} {values : List α}
    {results : List β} (h : values.map f = results.map .ok) {value : α} (hmem : value ∈ values) :
    ∃ result, f value = .ok result ∧ (value, result) ∈ values.zip results := by
  induction values generalizing results with
  | nil => cases hmem
  | cons first others ih =>
    cases results with
    | nil => cases h
    | cons result results =>
      obtain ⟨hfirst, hothers⟩ := List.cons.inj h
      rw [List.zip_cons_cons]
      rcases List.mem_cons.1 hmem with rfl | hmem
      · exact ⟨result, hfirst, List.mem_cons_self⟩
      · obtain ⟨later, hlater, hzip⟩ := ih hothers hmem
        exact ⟨later, hlater, List.mem_cons_of_mem _ hzip⟩

theorem exists_map_eq_ok {ε α β : Type} {f : α → Except ε β} {values : List α}
    (h : ∀ value ∈ values, ∃ result, f value = .ok result) :
    ∃ results : List β, values.map f = results.map .ok := by
  induction values with
  | nil => exact ⟨[], rfl⟩
  | cons value values ih =>
    obtain ⟨result, hresult⟩ := h value List.mem_cons_self
    obtain ⟨results, hresults⟩ := ih fun other ho => h other (List.mem_cons_of_mem _ ho)
    exact ⟨result :: results, by rw [List.map_cons, List.map_cons, hresult, hresults]⟩

theorem map_eq_of_map_eq_ok {ε α β γ : Type} {f : α → Except ε β} {g : α → γ} {h : β → γ}
    {values : List α} {results : List β} (hok : values.map f = results.map .ok)
    (hsame : ∀ value result, f value = .ok result → g value = h result) :
    values.map g = results.map h := by
  induction values generalizing results with
  | nil =>
    obtain rfl := List.map_eq_nil_iff.1 hok.symm
    rfl
  | cons value values ih =>
    cases results with
    | nil => cases hok
    | cons result results =>
      obtain ⟨hvalue, hvalues⟩ := List.cons.inj hok
      rw [List.map_cons, List.map_cons, hsame value result hvalue, ih hvalues]

/-- A run of steps stays a failure from the first on. -/
theorem toOption_foldlM {ε α β : Type} (f : β → α → Except ε β) (values : List α) (start : β) :
    (values.foldlM f start).toOption =
      values.foldl (fun last value => last.bind fun b => (f b value).toOption) (some start) := by
  have hnone : ∀ values : List α,
      values.foldl (fun last value => last.bind fun b => (f b value).toOption) none = none := by
    intro values
    induction values with
    | nil => rfl
    | cons value values ih => exact ih
  induction values generalizing start with
  | nil => rfl
  | cons value values ih =>
    rw [List.foldlM_cons, List.foldl_cons, Option.bind_some]
    cases f start value with
    | error error => exact (hnone values).symm
    | ok next => exact ih next

/-- The successes among results. -/
def successes {α : Type} (results : List (Except Failure α)) : List α :=
  results.filterMap Except.toOption

section Successes

variable {α : Type} {results : List (Except Failure α)}

@[simp] theorem successes_nil : successes ([] : List (Except Failure α)) = [] := rfl

@[simp] theorem successes_ok_cons (value : α) (results : List (Except Failure α)) :
    successes (.ok value :: results) = value :: successes results := rfl

@[simp] theorem successes_error_cons (error : Failure) (results : List (Except Failure α)) :
    successes (.error error :: results) = successes results := rfl

@[simp] theorem successes_append (left right : List (Except Failure α)) :
    successes (left ++ right) = successes left ++ successes right :=
  List.filterMap_append

theorem successes_map {β : Type} (f : α → β) (results : List (Except Failure α)) :
    successes (results.map (Except.map f)) = (successes results).map f := by
  induction results with
  | nil => rfl
  | cons result results ih =>
    cases result with
    | error error => exact ih
    | ok value => exact congrArg (f value :: ·) ih

@[simp] theorem mem_successes {value : α} : value ∈ successes results ↔ .ok value ∈ results := by
  unfold successes
  rw [List.mem_filterMap]
  constructor
  · rintro ⟨_ | one, hmem, ho⟩
    · cases ho
    · cases ho
      exact hmem
  · intro hmem
    exact ⟨_, hmem, rfl⟩

/-- The failures among results. -/
def failures : List (Except Failure α) → List Failure
  | [] => []
  | .error error :: results => error :: failures results
  | .ok _ :: results => failures results

@[simp] theorem failures_append (left right : List (Except Failure α)) :
    failures (left ++ right) = failures left ++ failures right := by
  induction left with
  | nil => rfl
  | cons result left ih => cases result <;> simp [failures, ih]

@[simp] theorem mem_failures {error : Failure} : error ∈ failures results ↔ .error error ∈ results := by
  induction results with
  | nil => simp [failures]
  | cons result results ih => cases result <;> simp [failures, ih]

/-- Whether results come to one with a property, or to their end, before a
failure. -/
def Arrives (test : α → Prop) : List (Except Failure α) → Prop
  | [] => True
  | .error _ :: _ => False
  | .ok value :: results => test value ∨ Arrives test results

variable {test : α → Prop}

theorem Arrives.imp_of_mem {test' : α → Prop}
    (htest : ∀ value, .ok value ∈ results → test value → test' value) (h : Arrives test results) :
    Arrives test' results := by
  induction results with
  | nil => trivial
  | cons result results ih =>
    cases result with
    | error error => exact h
    | ok value =>
      refine Or.imp (htest value List.mem_cons_self) (ih fun later hl => ?_) h
      exact htest later (List.mem_cons_of_mem _ hl)

theorem Arrives.imp {test' : α → Prop} (htest : ∀ value, test value → test' value)
    (h : Arrives test results) : Arrives test' results :=
  h.imp_of_mem fun value _ => htest value

theorem arrives_append_right {left right : List (Except Failure α)} (hleft : failures left = [])
    (h : Arrives test right) : Arrives test (left ++ right) := by
  induction left with
  | nil => exact h
  | cons result left ih =>
    cases result with
    | error error => cases hleft
    | ok value => exact .inr (ih hleft)

theorem arrives_of_failures (h : failures results = []) : Arrives test results := by
  simpa using arrives_append_right h (show Arrives test [] from trivial)

theorem Arrives.of_append {left right : List (Except Failure α)} (h : Arrives test (left ++ right))
    (hleft : ∀ value ∈ successes left, ¬ test value) :
    failures left = [] ∧ Arrives test right := by
  induction left with
  | nil => exact ⟨rfl, h⟩
  | cons result left ih =>
    cases result with
    | error error => cases h
    | ok value =>
      rw [successes_ok_cons, List.forall_mem_cons] at hleft
      exact ih (h.resolve_left hleft.1) hleft.2

theorem arrives_append_left {left right : List (Except Failure α)} (hleft : failures left = [])
    {value : α} (hmem : value ∈ successes left) (h : test value) :
    Arrives test (left ++ right) := by
  induction left with
  | nil => cases hmem
  | cons result left ih =>
    cases result with
    | error error => cases hleft
    | ok first =>
      rcases List.mem_cons.1 hmem with rfl | hmem
      · exact .inl h
      · exact .inr (ih hleft hmem)

theorem Arrives.eq_nil (h : Arrives test results) (hnone : successes results = []) :
    results = [] := by
  cases results with
  | nil => rfl
  | cons result results =>
    cases result with
    | error error => cases h
    | ok value => cases hnone

/-- Results that arrive have what they come to, or no failure at all. -/
theorem Arrives.cases_on_end (h : Arrives test results) :
    failures results = [] ∨ ∃ value, .ok value ∈ results ∧ test value := by
  induction results with
  | nil => exact .inl rfl
  | cons result results ih =>
    cases result with
    | error error => cases h
    | ok value =>
      rcases h with h | h
      · exact .inr ⟨value, List.mem_cons_self, h⟩
      · rcases ih h with hnone | ⟨later, hmem, hlater⟩
        · exact .inl hnone
        · exact .inr ⟨later, List.mem_cons_of_mem _ hmem, hlater⟩

@[simp] theorem successes_map_ok (values : List α) :
    successes (values.map .ok) = values := by
  induction values with
  | nil => rfl
  | cons value values ih => rw [List.map_cons, successes_ok_cons, ih]

@[simp] theorem failures_map_ok (values : List α) :
    failures (values.map .ok) = [] := by
  induction values with
  | nil => rfl
  | cons value values ih => exact ih

end Successes
end Recurrence
