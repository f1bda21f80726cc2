import Mathlib
import Recurrence.Offset.Reader
import Recurrence.Proofs.Text.Numbers

/-! The written forms of offsets. A sign stands before hours and minutes, and seconds where
they are given, of two digits each. No offset is written as a zero below zero, and none loses
more by being read and written again than seconds that are zero. -/
namespace Recurrence.Offset
open Calendar

/-- Hours and minutes, with or without seconds, of two digits each. -/
inductive Fields : List Char → Nat → Nat → Nat → Prop
  | toMinutes {hour minute : List Char} {h m : Nat} (hhour : Text.Numeral 2 hour h)
      (hminute : Text.Numeral 2 minute m) : Fields (hour ++ minute) h m 0
  | toSeconds {hour minute second : List Char} {h m s : Nat} (hhour : Text.Numeral 2 hour h)
      (hminute : Text.Numeral 2 minute m) (hsecond : Text.Numeral 2 second s) :
      Fields (hour ++ minute ++ second) h m s

/-- The fields of a time of day, and its seconds. -/
inductive Magnitude : List Char → Nat → Prop
  | intro {cs : List Char} {h m s : Nat} (hfields : Fields cs h m s) (hh : h ≤ 23) (hm : m ≤ 59)
      (hs : s ≤ 59) : Magnitude cs (timeOfDay h m s)

/-- An offset as it may be written. Behind a minus not all digits are zeros. -/
inductive Written : List Char → Offset → Prop
  | plus {cs : List Char} {n : Nat} {offset : Offset} (h : Magnitude cs n)
      (hseconds : offset.seconds = n) : Written ('+' :: cs) offset
  | minus {cs : List Char} {n : Nat} {offset : Offset} (h : Magnitude cs n)
      (hsome : ∃ c ∈ cs, c ≠ '0') (hseconds : offset.seconds = -n) : Written ('-' :: cs) offset

theorem numeral_zero : Text.Numeral 1 ['0'] 0 := ⟨rfl, by simp, rfl⟩

theorem readMagnitude?_append {hour minute : List Char} (hhour : hour.length = 2)
    (hminute : minute.length = 2) : readMagnitude? (hour ++ minute) =
      (Text.readNat? hour).bind fun hour => (Text.readNat? minute).bind fun minute =>
        (Text.readNat? ['0']).bind fun second =>
          if minute ≤ 59 ∧ second ≤ 59 then some (timeOfDay hour minute second) else none := by
  match hour, minute, hhour, hminute with
  | [_, _], [_, _], rfl, rfl => rfl

theorem readMagnitude?_append_append {hour minute second : List Char} (hhour : hour.length = 2)
    (hminute : minute.length = 2) (hsecond : second.length = 2) :
    readMagnitude? (hour ++ minute ++ second) =
      (Text.readNat? hour).bind fun hour => (Text.readNat? minute).bind fun minute =>
        (Text.readNat? second).bind fun second =>
          if minute ≤ 59 ∧ second ≤ 59 then some (timeOfDay hour minute second) else none := by
  match hour, minute, second, hhour, hminute, hsecond with
  | [_, _], [_, _], [_, _], rfl, rfl, rfl => rfl

variable {cs : List Char}

theorem readMagnitude?_eq_some_iff {n : Nat} : readMagnitude? cs = some n ↔
    ∃ h m s, Fields cs h m s ∧ m ≤ 59 ∧ s ≤ 59 ∧ timeOfDay h m s = n := by
  constructor
  · intro hread
    unfold readMagnitude? at hread
    split at hread
    · simp only [Option.bind_eq_bind, Option.bind_some, Option.bind_eq_some_iff,
        Option.ite_none_right_eq_some, Option.some.injEq] at hread
      obtain ⟨h, hhour, m, hminute, s, hsecond, ⟨hm, hs⟩, rfl⟩ := hread
      obtain rfl : 0 = s := Option.some.inj (numeral_zero.readNat?_eq.symm.trans hsecond)
      exact ⟨h, m, 0, .toMinutes (Text.numeral_of_readNat? hhour)
        (Text.numeral_of_readNat? hminute), hm, hs, rfl⟩
    · simp only [Option.bind_eq_bind, Option.bind_some, Option.bind_eq_some_iff,
        Option.ite_none_right_eq_some, Option.some.injEq] at hread
      obtain ⟨h, hhour, m, hminute, s, hsecond, ⟨hm, hs⟩, rfl⟩ := hread
      exact ⟨h, m, s, .toSeconds (Text.numeral_of_readNat? hhour)
        (Text.numeral_of_readNat? hminute) (Text.numeral_of_readNat? hsecond), hm, hs, rfl⟩
    · cases hread
  · rintro ⟨h, m, s, hfields, hm, hs, rfl⟩
    cases hfields with
    | toMinutes hhour hminute =>
      rw [readMagnitude?_append hhour.length_eq hminute.length_eq, hhour.readNat?_eq,
        hminute.readNat?_eq, numeral_zero.readNat?_eq, Option.bind_some, Option.bind_some,
        Option.bind_some, if_pos ⟨hm, hs⟩]
    | toSeconds hhour hminute hsecond =>
      rw [readMagnitude?_append_append hhour.length_eq hminute.length_eq hsecond.length_eq,
        hhour.readNat?_eq, hminute.readNat?_eq, hsecond.readNat?_eq, Option.bind_some,
        Option.bind_some, Option.bind_some, if_pos ⟨hm, hs⟩]

theorem Fields.exists_ne_zero_iff {h m s : Nat} (hfields : Fields cs h m s) :
    (∃ c ∈ cs, c ≠ '0') ↔ timeOfDay h m s ≠ 0 := by
  have htime : timeOfDay h m s = 0 ↔ h = 0 ∧ m = 0 ∧ s = 0 := by
    unfold timeOfDay
    omega
  have hall : (∀ c ∈ cs, c = '0') ↔ timeOfDay h m s = 0 := by
    cases hfields with
    | toMinutes hhour hminute =>
      rw [htime, hhour.eq_zero_iff, hminute.eq_zero_iff, List.forall_mem_append]
      simp
    | toSeconds hhour hminute hsecond =>
      rw [htime, hhour.eq_zero_iff, hminute.eq_zero_iff, hsecond.eq_zero_iff,
        List.forall_mem_append, List.forall_mem_append, and_assoc]
  rw [ne_eq, ← hall]
  simp

theorem Magnitude.exists_ne_zero_iff {n : Nat} (h : Magnitude cs n) :
    (∃ c ∈ cs, c ≠ '0') ↔ n ≠ 0 := by
  obtain ⟨hfields, -, -, -⟩ := h
  exact hfields.exists_ne_zero_iff

variable {s : String} {offset : Offset}

theorem readMagnitude?_of_magnitude {n : Nat} (h : Magnitude cs n) : readMagnitude? cs = some n := by
  obtain ⟨hfields, -, hm, hs⟩ := h
  exact readMagnitude?_eq_some_iff.2 ⟨_, _, _, hfields, hm, hs, rfl⟩

theorem magnitude_of_readMagnitude? {n : Nat} (h : readMagnitude? cs = some n) (hday : n < 86400) :
    Magnitude cs n := by
  obtain ⟨h, m, s, hfields, hm, hs, rfl⟩ := readMagnitude?_eq_some_iff.1 h
  refine .intro hfields ?_ hm hs
  unfold timeOfDay at hday
  omega

theorem written_of_read (h : read s = .ok offset) : Written s.toList offset := by
  have hday := offset.within_day
  unfold read at h
  split at h
  · cases h
  · next negative rest hsign =>
    split at h
    · cases h
    · next n hn =>
      split at h
      · cases h
      · next hzero =>
        split at h
        · next found hfound =>
          cases h
          have hseconds := ofSeconds?_eq_some_iff.1 hfound
          have hmagnitude : Magnitude rest n := by
            refine magnitude_of_readMagnitude? hn ?_
            split at hseconds <;> omega
          unfold cutSign? at hsign
          split at hsign
          · next cs htext =>
            cases hsign
            rw [htext]
            exact .plus hmagnitude hseconds
          · next cs htext =>
            cases hsign
            rw [htext]
            refine .minus hmagnitude (hmagnitude.exists_ne_zero_iff.2 ?_) hseconds
            simpa using hzero
          · cases hsign
        · cases h

theorem read_of_written (h : Written s.toList offset) : read s = .ok offset := by
  generalize htext : s.toList = text at h
  cases h with
  | plus h hseconds =>
    have hread := readMagnitude?_of_magnitude h
    simp only [read, htext, cutSign?, hread, Bool.false_and, Bool.false_eq_true, if_false,
      ofSeconds?_eq_some_iff.2 hseconds]
  | minus h hsome hseconds =>
    have hne := h.exists_ne_zero_iff.1 hsome
    have hread := readMagnitude?_of_magnitude h
    simp only [read, htext, cutSign?, hread, Bool.true_and, beq_iff_eq, hne, if_false, if_true,
      ofSeconds?_eq_some_iff.2 hseconds]

theorem read_eq_ok_iff : read s = .ok offset ↔ Written s.toList offset :=
  ⟨written_of_read, read_of_written⟩

/-- The fields of a time of day in digits, without seconds that are zero. -/
def fieldsText (h m s : Nat) : List Char :=
  Text.padded 2 h ++ Text.padded 2 m ++ if s = 0 then [] else Text.padded 2 s

theorem fields_fieldsText {h m s : Nat} (hh : h ≤ 99) (hm : m ≤ 99) (hs : s ≤ 99) :
    Fields (fieldsText h m s) h m s := by
  have hhour : Text.Numeral 2 (Text.padded 2 h) h := Text.numeral_padded (by omega)
  have hminute : Text.Numeral 2 (Text.padded 2 m) m := Text.numeral_padded (by omega)
  unfold fieldsText
  split
  · next hzero =>
    subst hzero
    rw [List.append_nil]
    exact .toMinutes hhour hminute
  · exact .toSeconds hhour hminute (Text.numeral_padded (by omega))

theorem text_toList (offset : Offset) : offset.text.toList =
    (if 0 ≤ offset.seconds then '+' else '-') ::
      fieldsText (offset.seconds.natAbs / 3600) (offset.seconds.natAbs % 3600 / 60)
        (offset.seconds.natAbs % 60) := by
  have hsign : (if 0 ≤ offset.seconds then "+" else "-").toList =
      [if 0 ≤ offset.seconds then '+' else '-'] := by
    split <;> rfl
  have hlast : (if offset.seconds.natAbs % 60 = 0 then ""
      else Text.paddedText 2 (offset.seconds.natAbs % 60)).toList =
        if offset.seconds.natAbs % 60 = 0 then []
        else Text.padded 2 (offset.seconds.natAbs % 60) := by
    split <;> simp [Text.paddedText]
  simp only [text, fieldsText, String.toList_append, hsign, hlast]
  simp [Text.paddedText]

/-- The text of an offset that is left of one where its seconds are zero. -/
def dropZeroSeconds (cs : List Char) : List Char :=
  if cs.drop 5 = ['0', '0'] then cs.take 5 else cs

theorem Fields.dropZeroSeconds_cons {h m s : Nat} (hfields : Fields cs h m s) (sign : Char) :
    dropZeroSeconds (sign :: cs) = sign :: fieldsText h m s := by
  unfold dropZeroSeconds fieldsText
  cases hfields with
  | @toMinutes hour minute _ _ hhour hminute =>
    have hlength : (sign :: (hour ++ minute)).length = 5 := by
      simp [hhour.length_eq, hminute.length_eq]
    rw [List.drop_of_length_le hlength.le, if_neg (by simp), if_pos rfl, List.append_nil,
      hhour.eq_padded, hminute.eq_padded]
  | @toSeconds hour minute second _ _ _ hhour hminute hsecond =>
    -- The sign, the hours and the minutes are five characters.
    have hlength : (sign :: (hour ++ minute)).length = 5 := by
      simp [hhour.length_eq, hminute.length_eq]
    have hdrop : ((sign :: (hour ++ minute)) ++ second).drop 5 = second := List.drop_left' hlength
    have htake : ((sign :: (hour ++ minute)) ++ second).take 5 = sign :: (hour ++ minute) :=
      List.take_left' hlength
    have hzero : second = ['0', '0'] ↔ s = 0 := by
      rw [hsecond.eq_zero_iff]
      exact List.eq_replicate_iff.trans (and_iff_right hsecond.length_eq)
    rw [← List.cons_append, hdrop, htake]
    simp only [hzero, ← hhour.eq_padded, ← hminute.eq_padded, ← hsecond.eq_padded]
    split
    · rw [List.append_nil]
    · rfl

theorem text_toList_of_natAbs {h m s : Nat} (hm : m ≤ 59) (hs : s ≤ 59)
    (habs : offset.seconds.natAbs = timeOfDay h m s) : offset.text.toList =
      (if 0 ≤ offset.seconds then '+' else '-') :: fieldsText h m s := by
  have hfields : timeOfDay h m s / 3600 = h ∧ timeOfDay h m s % 3600 / 60 = m ∧
      timeOfDay h m s % 60 = s := by
    unfold timeOfDay
    omega
  rw [text_toList, habs, hfields.1, hfields.2.1, hfields.2.2]

theorem Written.text_toList (h : Written cs offset) :
    offset.text.toList = dropZeroSeconds cs := by
  cases h with
  | plus h hseconds =>
    obtain ⟨hfields, -, hm, hs⟩ := h
    have habs := (congrArg Int.natAbs hseconds).trans (Int.natAbs_natCast _)
    rw [hfields.dropZeroSeconds_cons, text_toList_of_natAbs hm hs habs, if_pos (by omega)]
  | minus h hsome hseconds =>
    have hne := h.exists_ne_zero_iff.1 hsome
    obtain ⟨hfields, -, hm, hs⟩ := h
    have habs := (congrArg Int.natAbs hseconds).trans (Int.natAbs_neg _)
    rw [hfields.dropZeroSeconds_cons, text_toList_of_natAbs hm hs habs, if_neg (by omega)]

theorem written_text (offset : Offset) : Written offset.text.toList offset := by
  have hday := offset.within_day
  obtain ⟨total, htotal⟩ : ∃ total, total = offset.seconds.natAbs := ⟨_, rfl⟩
  have hfields := fields_fieldsText (show total / 3600 ≤ 99 by omega)
    (show total % 3600 / 60 ≤ 99 by omega) (show total % 60 ≤ 99 by omega)
  have hmagnitude := Magnitude.intro hfields (by omega) (by omega) (by omega)
  have hsum : timeOfDay (total / 3600) (total % 3600 / 60) (total % 60) = total := by
    unfold timeOfDay
    omega
  rw [hsum] at hmagnitude
  rw [text_toList, ← htotal]
  split
  · exact .plus hmagnitude (by omega)
  · exact .minus hmagnitude (hmagnitude.exists_ne_zero_iff.2 (by omega)) (by omega)

/-- **Offsets are read just as they are written.** A text is read as an offset if and only if it is
one of its written forms; it is the text of that offset, but for seconds that are zero. And each
offset is read back from its text. -/
theorem read_undoes_text (s : String) (offset : Offset) :
    (read s = .ok offset ↔ Written s.toList offset) ∧
      (read s = .ok offset → offset.text.toList = dropZeroSeconds s.toList) ∧
      read offset.text = .ok offset :=
  ⟨read_eq_ok_iff, fun h => (written_of_read h).text_toList, read_of_written (written_text offset)⟩

/-- Half past four to the west. -/
theorem read_undoes_text_west : ∃ offset, read "-043000" = .ok offset ∧ offset.seconds = -16200 ∧
    offset.text = "-0430" ∧ read "-0430" = .ok offset := by
  have hread : read "-043000" = .ok ⟨-16200, by decide⟩ := by decide +kernel
  obtain ⟨-, hwritten, hback⟩ := read_undoes_text "-043000" ⟨-16200, by decide⟩
  have htext : text ⟨-16200, by decide⟩ = "-0430" := String.toList_inj.1 (hwritten hread)
  rw [htext] at hback
  exact ⟨_, hread, rfl, htext, hback⟩

end Recurrence.Offset
