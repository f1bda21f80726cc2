import Mathlib
import Recurrence.Proofs.Text.Words

/-! Numbers read back. Each reader gives the number that was written, within its bounds. In a
fixed number of digits each number has one text. -/
namespace Recurrence.Text

theorem isWord_digits (n : Nat) : IsWord (digits n) := isWord_of_isDigit (all_isDigit_digits n)

theorem isWord_natText (n : Nat) : IsWord (natText n).toList := by
  rw [natText, String.toList_ofList]
  exact isWord_digits n

theorem intText_toList (i : Int) : (intText i).toList =
    if i < 0 then '-' :: digits i.natAbs else digits i.natAbs := by
  unfold intText natText
  split
  · simp
  · rw [String.toList_ofList]

theorem isWord_intText (i : Int) : IsWord (intText i).toList := by
  rw [intText_toList]
  split
  · exact List.forall_mem_cons.2 ⟨rfl, isWord_digits _⟩
  · exact isWord_digits _

theorem readWord?_digits (n : UInt32) : readWord? (digits n.toNat) = some n := by
  rw [readWord?, readNat?_digits]
  simp [n.toNat_lt]

theorem readNat?_eq_some_iff {cs : List Char} {n : Nat} : readNat? cs = some n ↔
    cs ≠ [] ∧ (∀ c ∈ cs, c.isDigit = true) ∧ digitsValue cs = n := by
  simp [readNat?, and_assoc]

/-- Whether a run of digits stands for a number of 32 bits. Zeros may stand in front. -/
structure Spells (cs : List Char) (n : UInt32) : Prop where
  ne_nil : cs ≠ []
  isDigit : ∀ c ∈ cs, c.isDigit = true
  value_eq : digitsValue cs = n.toNat

theorem readWord?_eq_some_iff {cs : List Char} {n : UInt32} :
    readWord? cs = some n ↔ Spells cs n := by
  constructor
  · intro h
    unfold readWord? at h
    split at h
    · next m hread =>
      obtain ⟨hne, hdigit, hvalue⟩ := readNat?_eq_some_iff.1 hread
      split at h
      · next hlt =>
        cases h
        exact ⟨hne, hdigit, hvalue.trans (UInt32.toNat_ofNat_of_lt' hlt).symm⟩
      · cases h
    · cases h
  · rintro ⟨hne, hdigit, hvalue⟩
    have hread : readNat? cs = some n.toNat := readNat?_eq_some_iff.2 ⟨hne, hdigit, hvalue⟩
    simp [readWord?, hread, n.toNat_lt]

theorem head_digits (n : Nat) : ∃ c cs, digits n = c :: cs ∧ c ≠ '+' ∧ c ≠ '-' := by
  cases h : digits n with
  | nil => exact absurd h (digits_ne_nil n)
  | cons c cs =>
    have hall := all_isDigit_digits n
    rw [h, List.all_cons, Bool.and_eq_true] at hall
    refine ⟨c, cs, rfl, ?_, ?_⟩
    · rintro rfl
      exact absurd hall.1 (by decide)
    · rintro rfl
      exact absurd hall.1 (by decide)

theorem readUnsigned?_digits {most n : Nat} (h : n ≤ most) :
    readUnsigned? most (digits n) = some n := by
  have hread : (readNat? (digits n)).filter (· ≤ most) = some n := by simp [h]
  obtain ⟨c, cs, hcs, hplus, -⟩ := head_digits n
  rw [hcs] at hread ⊢
  unfold readUnsigned?
  split
  · next hcons => exact absurd (List.cons.inj hcons).1 hplus
  · exact hread

theorem readSigned?_intText {least most i : Int} (hlow : least ≤ i) (hhigh : i ≤ most) :
    readSigned? least most (intText i).toList = some i := by
  rw [intText_toList]
  by_cases hneg : i < 0
  · have hi : -(i.natAbs : Int) = i := by omega
    rw [if_pos hneg]
    simp only [readSigned?, readNat?_digits, Option.map_some, Int.ofNat_eq_natCast, hi]
    simp [hlow, hhigh]
  · have hi : (i.natAbs : Int) = i := by omega
    have hread : ((readNat? (digits i.natAbs)).map Int.ofNat).filter
        (fun j => least ≤ j ∧ j ≤ most) = some i := by
      simp only [readNat?_digits, Option.map_some, Int.ofNat_eq_natCast, hi]
      simp [hlow, hhigh]
    -- Without a minus the text begins with a digit, which is no sign.
    obtain ⟨c, cs, hcs, hplus, hminus⟩ := head_digits i.natAbs
    rw [if_neg hneg]
    rw [hcs] at hread ⊢
    unfold readSigned?
    dsimp only
    split
    · next hcons => exact absurd (List.cons.inj hcons).1 hplus
    · next hcons => exact absurd (List.cons.inj hcons).1 hminus
    · exact hread

theorem length_digits_le {width n : Nat} (hpos : 0 < width) (h : n < 10 ^ width) :
    (digits n).length ≤ width := by
  induction width generalizing n with
  | zero => omega
  | succ width ih =>
    unfold digits
    split
    · simp
    · next hlarge =>
      rw [List.length_append, List.length_singleton]
      have hwidth : 0 < width := by
        by_contra hzero
        obtain rfl : width = 0 := by omega
        omega
      have := ih hwidth (n := n / 10) (by rw [pow_succ] at h; omega)
      omega

theorem length_padded {width n : Nat} (hpos : 0 < width) (h : n < 10 ^ width) :
    (padded width n).length = width := by
  have := length_digits_le hpos h
  rw [padded, List.length_append, List.length_replicate]
  omega

theorem isDigit_padded (width n : Nat) : (padded width n).all Char.isDigit = true := by
  rw [padded, List.all_append, all_isDigit_digits, Bool.and_true]
  simp [List.all_replicate]

theorem digitsValue_padded (width n : Nat) : digitsValue (padded width n) = n := by
  unfold padded
  induction width - (digits n).length with
  | zero => simp
  | succ zeros ih =>
    rw [List.replicate_succ, List.cons_append]
    exact ih

theorem readNat?_padded (width n : Nat) : readNat? (padded width n) = some n := by
  have hne : padded width n ≠ [] := by simp [padded, digits_ne_nil]
  rw [readNat?, isDigit_padded, digitsValue_padded]
  simp [hne]

theorem isDigit_bounds {c : Char} (h : c.isDigit = true) : 48 ≤ c.toNat ∧ c.toNat ≤ 57 := by
  simp only [Char.isDigit, Bool.and_eq_true, decide_eq_true_eq, UInt32.le_iff_toNat_le,
    ge_iff_le] at h
  exact h

theorem digitValue_lt {c : Char} (h : c.isDigit = true) : digitValue c < 10 := by
  have := isDigit_bounds h
  unfold digitValue
  omega

theorem digitChar_digitValue {c : Char} (h : c.isDigit = true) : digitChar (digitValue c) = c := by
  have := isDigit_bounds h
  have hcode : digitValue c + 48 = c.toNat := by
    unfold digitValue
    omega
  rw [digitChar, hcode, Char.ofNat_toNat]

theorem digitsValue_eq_ofDigits (cs : List Char) :
    digitsValue cs = Nat.ofDigits 10 (cs.reverse.map digitValue) := by
  induction cs using List.reverseRecOn with
  | nil => rfl
  | append_singleton cs c ih =>
    rw [digitsValue_append, List.reverse_append, List.reverse_singleton, List.singleton_append,
      List.map_cons, Nat.ofDigits_cons, ih, Nat.add_comm]

/-- Whether text is a number in a fixed number of digits, with zeros in front as needed. -/
structure Numeral (width : Nat) (cs : List Char) (n : Nat) : Prop where
  length_eq : cs.length = width
  isDigit : ∀ c ∈ cs, c.isDigit = true
  value_eq : digitsValue cs = n

section Numerals

variable {width n : Nat} {cs ds : List Char}

theorem numeral_of_readNat? (h : readNat? cs = some n) : Numeral cs.length cs n :=
  ⟨rfl, (readNat?_eq_some_iff.1 h).2.1, (readNat?_eq_some_iff.1 h).2.2⟩

theorem Numeral.readNat?_eq [NeZero width] (h : Numeral width cs n) : readNat? cs = some n := by
  refine readNat?_eq_some_iff.2 ⟨?_, h.isDigit, h.value_eq⟩
  rintro rfl
  exact NeZero.ne width h.length_eq.symm

theorem Numeral.values_lt (h : Numeral width cs n) : ∀ v ∈ cs.reverse.map digitValue, v < 10 := by
  intro v hv
  obtain ⟨c, hc, rfl⟩ := List.mem_map.1 hv
  exact digitValue_lt (h.isDigit c (List.mem_reverse.1 hc))

theorem Numeral.lt_pow (h : Numeral width cs n) : n < 10 ^ width := by
  have hlt := Nat.ofDigits_lt_base_pow_length (by decide : 1 < 10) h.values_lt
  rwa [← digitsValue_eq_ofDigits, h.value_eq, List.length_map, List.length_reverse,
    h.length_eq] at hlt

theorem Numeral.unique (h : Numeral width cs n) (h' : Numeral width ds n) : cs = ds := by
  have hvalues : cs.reverse.map digitValue = ds.reverse.map digitValue := by
    refine Nat.ofDigits_inj_of_len_eq (by decide : 1 < 10) ?_ h.values_lt h'.values_lt ?_
    · simp only [List.length_map, List.length_reverse, h.length_eq, h'.length_eq]
    · rw [← digitsValue_eq_ofDigits, ← digitsValue_eq_ofDigits, h.value_eq, h'.value_eq]
  have hback {es : List Char} (hes : Numeral width es n) :
      (es.reverse.map digitValue).map digitChar = es.reverse := by
    rw [List.map_map]
    refine (List.map_congr_left fun c hc => ?_).trans (List.map_id _)
    exact digitChar_digitValue (hes.isDigit c (List.mem_reverse.1 hc))
  refine List.reverse_injective ?_
  rw [← hback h, ← hback h', hvalues]

theorem Numeral.eq_zero_iff (h : Numeral width cs n) : n = 0 ↔ ∀ c ∈ cs, c = '0' := by
  have hzeros : Numeral width (List.replicate width '0') 0 := by
    refine ⟨List.length_replicate, fun c hc => ?_, ?_⟩
    · rw [List.eq_of_mem_replicate hc]
      rfl
    · rw [digitsValue_eq_ofDigits, List.reverse_replicate, List.map_replicate]
      exact Nat.ofDigits_replicate_zero
  constructor
  · rintro rfl c hc
    rw [h.unique hzeros] at hc
    exact List.eq_of_mem_replicate hc
  · intro hall
    have hcs : cs = List.replicate width '0' := List.eq_replicate_iff.2 ⟨h.length_eq, hall⟩
    rw [hcs] at h
    exact h.value_eq.symm.trans hzeros.value_eq

theorem numeral_padded [NeZero width] (h : n < 10 ^ width) : Numeral width (padded width n) n :=
  ⟨length_padded (NeZero.pos width) h, List.all_eq_true.1 (isDigit_padded width n),
    digitsValue_padded width n⟩

theorem Numeral.eq_padded [NeZero width] (h : Numeral width cs n) : cs = padded width n :=
  h.unique (numeral_padded h.lt_pow)

end Numerals

end Recurrence.Text
