import Mathlib
import Recurrence.Text.Blank
import Recurrence.Text.Decimal
import Recurrence.Text.Fields

/-! Words and what stands between them. Text that is put together from parts without the
separator comes apart into the same parts, and words have no blanks to take off. -/
namespace Recurrence.Text

section Fields

variable {separator : Char}

theorem fields_of_not_mem {part : List Char} (h : separator ∉ part) :
    fields separator part = [part] := by
  induction part with
  | nil => rfl
  | cons c part ih =>
    rw [List.mem_cons, not_or] at h
    rw [fields, if_neg (Ne.symm h.1), ih h.2]

theorem fields_append {part : List Char} (h : separator ∉ part) (rest : List Char) :
    fields separator (part ++ separator :: rest) = part :: fields separator rest := by
  induction part with
  | nil => simp [fields]
  | cons c part ih =>
    rw [List.mem_cons, not_or] at h
    rw [List.cons_append, fields, if_neg (Ne.symm h.1), ih h.2]

theorem fields_intercalate {parts : List (List Char)} (hne : parts ≠ [])
    (h : ∀ part ∈ parts, separator ∉ part) :
    fields separator ([separator].intercalate parts) = parts := by
  induction parts with
  | nil => exact absurd rfl hne
  | cons part parts ih =>
    obtain ⟨hpart, hparts⟩ := List.forall_mem_cons.1 h
    cases parts with
    | nil =>
      rw [List.intercalate_singleton]
      exact fields_of_not_mem hpart
    | cons next parts =>
      rw [List.intercalate_cons_cons, List.append_assoc, List.singleton_append,
        fields_append hpart, ih (by simp) hparts]

theorem exists_intercalate_cons_eq (separator : Char) (part : List Char)
    (parts : List (List Char)) :
    ∃ rest, [separator].intercalate (part :: parts) = part ++ rest := by
  cases parts with
  | nil => exact ⟨[], by rw [List.intercalate_singleton, List.append_nil]⟩
  | cons next parts => exact ⟨_, by rw [List.intercalate_cons_cons, List.append_assoc]⟩

theorem not_mem_intercalate {parts : List (List Char)} {c : Char} (hc : c ≠ separator)
    (h : ∀ part ∈ parts, c ∉ part) : c ∉ [separator].intercalate parts := by
  induction parts with
  | nil => exact List.not_mem_nil
  | cons part parts ih =>
    obtain ⟨hpart, hparts⟩ := List.forall_mem_cons.1 h
    cases parts with
    | nil => rwa [List.intercalate_singleton]
    | cons next parts =>
      rw [List.intercalate_cons_cons, List.append_assoc, List.singleton_append, List.mem_append,
        List.mem_cons]
      rintro (hmem | rfl | hmem)
      · exact hpart hmem
      · exact hc rfl
      · exact ih hparts hmem

theorem cut?_append {before : List Char} (h : separator ∉ before) (after : List Char) :
    cut? separator (before ++ separator :: after) = some (before, after) := by
  induction before with
  | nil => simp [cut?]
  | cons c before ih =>
    rw [List.mem_cons, not_or] at h
    rw [List.cons_append, cut?, if_neg (Ne.symm h.1), ih h.2]
    rfl

theorem cut?_eq_ite (separator : Char) (cs : List Char) : cut? separator cs =
    if separator ∈ cs then
      some (cs.takeWhile (· ≠ separator), (cs.dropWhile (· ≠ separator)).tail)
    else none := by
  induction cs with
  | nil => rfl
  | cons c cs ih =>
    by_cases hc : c = separator
    · simp [cut?, hc]
    · rw [cut?, if_neg hc, ih]
      by_cases hmem : separator ∈ cs
      · simp [hmem, hc]
      · simp [hmem, Ne.symm hc]

end Fields

theorem eq_append_of_after? {beginning cs rest : List Char}
    (h : after? beginning cs = some rest) : cs = beginning ++ rest := by
  induction beginning generalizing cs with
  | nil => exact Option.some.inj h
  | cons b beginning ih =>
    cases cs with
    | nil => cases h
    | cons c cs =>
      rw [after?] at h
      split at h
      · next hc => rw [hc, List.cons_append, ← ih h]
      · cases h

/-- Whether a character stands in words: a letter or digit of ASCII, or a minus sign. -/
def isWordChar (c : Char) : Bool := c.isAlphanum || c = '-'

/-- Whether text is made of word characters only. -/
def IsWord (cs : List Char) : Prop := ∀ c ∈ cs, isWordChar c = true

theorem IsWord.append {left right : List Char} (hleft : IsWord left) (hright : IsWord right) :
    IsWord (left ++ right) :=
  fun c hc => (List.mem_append.1 hc).elim (hleft c) (hright c)

theorem isWord_of_isDigit {cs : List Char} (h : cs.all Char.isDigit = true) : IsWord cs := by
  intro c hc
  have hdigit := List.all_eq_true.1 h c hc
  simp [isWordChar, Char.isAlphanum, hdigit]

theorem IsWord.not_mem {cs : List Char} (h : IsWord cs) {c : Char} (hc : isWordChar c = false) :
    c ∉ cs := by
  intro hmem
  rw [h c hmem] at hc
  cases hc

theorem isWordChar_bounds {c : Char} (h : isWordChar c = true) : 45 ≤ c.toNat ∧ c.toNat ≤ 122 := by
  simp only [isWordChar, Char.isAlphanum, Char.isAlpha, Char.isUpper, Char.isLower, Char.isDigit,
    Bool.or_eq_true, Bool.and_eq_true, decide_eq_true_eq, UInt32.le_iff_toNat_le, ge_iff_le] at h
  change (((65 ≤ c.toNat ∧ c.toNat ≤ 90) ∨ (97 ≤ c.toNat ∧ c.toNat ≤ 122)) ∨
    (48 ≤ c.toNat ∧ c.toNat ≤ 57)) ∨ c = '-' at h
  rcases h with ((hupper | hlower) | hdigit) | rfl
  · omega
  · omega
  · omega
  · decide

theorem isBlank_of_isWordChar {c : Char} (h : isWordChar c = true) : isBlank c = false := by
  obtain ⟨hlow, hhigh⟩ := isWordChar_bounds h
  simp only [isBlank, inRanges, blanks, List.any_cons, List.any_nil, Bool.or_false,
    Bool.or_eq_false_iff, Bool.and_eq_false_iff, decide_eq_false_iff_not]
  omega

theorem trim_eq_nil_iff {cs : List Char} : trim cs = [] ↔ ∀ c ∈ cs, isBlank c = true := by
  unfold trim
  rw [List.reverse_eq_nil_iff, List.dropWhile_eq_nil_iff]
  constructor
  · intro h
    rw [← List.dropWhile_eq_nil_iff]
    -- what is left would begin with a character that is not blank
    cases hrest : cs.dropWhile isBlank with
    | nil => rfl
    | cons c rest =>
      have hc := List.head?_dropWhile_not isBlank cs
      rw [hrest, List.head?_cons] at hc
      rw [hrest] at h
      exact absurd (h c (List.mem_reverse.2 List.mem_cons_self)) (by simpa using hc)
  · intro h c hc
    exact h c ((List.dropWhile_sublist _).mem (List.mem_reverse.1 hc))

theorem trim_eq_self {cs : List Char} (hfirst : ∀ c ∈ cs.head?, isBlank c = false)
    (hlast : ∀ c ∈ cs.getLast?, isBlank c = false) : trim cs = cs := by
  have hdrop {ds : List Char} (h : ∀ c ∈ ds.head?, isBlank c = false) :
      ds.dropWhile isBlank = ds := by
    cases ds with
    | nil => rfl
    | cons d ds => exact List.dropWhile_cons_of_neg (by simp [h d rfl])
  have hreverse : ∀ c ∈ cs.reverse.head?, isBlank c = false := by rwa [List.head?_reverse]
  rw [trim, hdrop hfirst, hdrop hreverse, List.reverse_reverse]

theorem trim_of_isWord {cs : List Char} (h : IsWord cs) : trim cs = cs :=
  trim_eq_self (fun c hc => isBlank_of_isWordChar (h c (List.mem_of_head? hc)))
    fun c hc => isBlank_of_isWordChar (h c (List.mem_of_getLast? hc))

end Recurrence.Text
