import Mathlib
import Recurrence.Duration.Reader
import Recurrence.Proofs.Failure
import Recurrence.Proofs.Text.Numbers

/-! The grammar of durations. Text is read one character after the other, with digits
pending until their designator comes; what may follow at each point is told by a relation
of its own, from which components are taken off in their order. -/
namespace Recurrence.Duration

/-- A component as it may be written: left out for zero, or a number and its designator. -/
inductive Component (designator : Char) : List Char → UInt32 → Prop
  | absent : Component designator [] 0
  | written {number : List Char} {n : UInt32} (h : Text.Spells number n) :
      Component designator (number ++ [designator]) n

/-- Hours, minutes and seconds as they may be written: left out, or at least one of them
behind a T. -/
inductive TimePart : List Char → UInt32 → UInt32 → UInt32 → Prop
  | absent : TimePart [] 0 0 0
  | written {first second third : List Char} {hours minutes seconds : UInt32}
      (hhours : Component 'H' first hours) (hminutes : Component 'M' second minutes)
      (hseconds : Component 'S' third seconds) (hne : first ++ second ++ third ≠ []) :
      TimePart ('T' :: (first ++ second ++ third)) hours minutes seconds

/-- An optional sign, and whether it is a minus. -/
inductive Sign : List Char → Bool → Prop
  | minus : Sign ['-'] true
  | plus : Sign ['+'] false
  | none : Sign [] false

/-- A duration as it may be written: a sign, P, weeks, days and times, at least one of
them. -/
inductive Written : List Char → Duration → Prop
  | intro {sign weeks days time : List Char} {d : Duration} (hsign : Sign sign d.negative)
      (hweeks : Component 'W' weeks d.weeks) (hdays : Component 'D' days d.days)
      (htime : TimePart time d.hours d.minutes d.seconds) (hne : weeks ++ days ++ time ≠ []) :
      Written (sign ++ 'P' :: (weeks ++ days ++ time)) d

/-- What may follow where designators up to some rank have been read, from the duration
read so far to the whole. The text may end only behind a component, and behind a T only
after one more. -/
inductive Follows : Bool → Nat → Bool → List Char → Duration → Duration → Prop
  | done {inTime : Bool} {rank : Nat} {d : Duration} : Follows inTime rank true [] d d
  | component {inTime ready : Bool} {rank next : Nat} {designator : Char}
      {number rest : List Char} {n : UInt32} {d updated whole : Duration}
      (hnumber : Text.Spells number n)
      (hset : setComponent? designator inTime n d = some (next, updated)) (hrank : rank < next)
      (h : Follows inTime next true rest updated whole) :
      Follows inTime rank ready (number ++ designator :: rest) d whole
  | time {ready : Bool} {rank : Nat} {rest : List Char} {d whole : Duration}
      (h : Follows true rank false rest d whole) : Follows false rank ready ('T' :: rest) d whole

/-- Designators are no digits and no T, and those of times come after those of dates. -/
theorem of_setComponent? {designator : Char} {inTime : Bool} {n : UInt32} {d updated : Duration}
    {rank : Nat} (h : setComponent? designator inTime n d = some (rank, updated)) :
    designator.isDigit = false ∧ designator ≠ 'T' ∧ 0 < rank ∧ (inTime = false → rank ≤ 2) ∧
      (inTime = true → 3 ≤ rank) := by
  unfold setComponent? at h
  split at h <;> cases h <;> decide

theorem eq_of_setComponent? {c c' : Char} {inTime : Bool} {n n' : UInt32}
    {d d' updated updated' : Duration} {rank : Nat}
    (h : setComponent? c inTime n d = some (rank, updated))
    (h' : setComponent? c' inTime n' d' = some (rank, updated')) : c = c' := by
  unfold setComponent? at h h'
  split at h <;> cases h <;> split at h' <;> cases h' <;> rfl

theorem eq_of_append_digits {left right : List Char} {c c' : Char} {rest rest' : List Char}
    (hleft : ∀ d ∈ left, d.isDigit = true) (hright : ∀ d ∈ right, d.isDigit = true)
    (hc : c.isDigit = false) (hc' : c'.isDigit = false)
    (h : left ++ c :: rest = right ++ c' :: rest') : left = right ∧ c = c' ∧ rest = rest' := by
  have htake : ∀ {ds : List Char} {c : Char} (rest : List Char), (∀ d ∈ ds, d.isDigit = true) →
      c.isDigit = false → (ds ++ c :: rest).takeWhile Char.isDigit = ds := by
    intro ds c rest hds hc
    rw [List.takeWhile_append_of_pos hds, List.takeWhile_cons_of_neg (by simp [hc]),
      List.append_nil]
  have heq := congrArg (List.takeWhile Char.isDigit) h
  rw [htake rest hleft hc, htake rest' hright hc'] at heq
  subst heq
  exact ⟨rfl, List.cons.inj (List.append_cancel_left h)⟩

namespace Follows

variable {inTime ready : Bool} {rank : Nat} {d whole : Duration}

theorem not_digits {digits : List Char} (hdigits : ∀ c ∈ digits, c.isDigit = true)
    (hne : digits ≠ []) : ¬ Follows inTime rank ready digits d whole := by
  intro h
  cases h with
  | done => exact hne rfl
  | component hnumber hset =>
    have hdesignator := hdigits _ (List.mem_append_right _ List.mem_cons_self)
    rw [(of_setComponent? hset).1] at hdesignator
    cases hdesignator
  | time => exact absurd (hdigits 'T' List.mem_cons_self) (by decide)

theorem nil_iff : Follows inTime rank ready [] d whole ↔ ready = true ∧ whole = d := by
  constructor
  · generalize htext : ([] : List Char) = text
    intro h
    cases h with
    | done => exact ⟨rfl, rfl⟩
    | component => simp at htext
    | time => cases htext
  · rintro ⟨rfl, rfl⟩
    exact .done

/-- A T stands behind dates, and nothing else does but designators with their numbers. -/
theorem append_cons_iff {digits rest : List Char} {c : Char}
    (hdigits : ∀ d ∈ digits, d.isDigit = true) (hc : c.isDigit = false) :
    Follows inTime rank ready (digits ++ c :: rest) d whole ↔
      (c = 'T' ∧ digits = [] ∧ inTime = false ∧ Follows true rank false rest d whole) ∨
      ∃ n next updated, Text.Spells digits n ∧ setComponent? c inTime n d = some (next, updated) ∧
        rank < next ∧ Follows inTime next true rest updated whole := by
  constructor
  · generalize htext : digits ++ c :: rest = text
    intro h
    cases h with
    | done => simp at htext
    | component hnumber hset hrank h =>
      obtain ⟨rfl, rfl, rfl⟩ := eq_of_append_digits hdigits hnumber.isDigit hc
        (of_setComponent? hset).1 htext
      exact .inr ⟨_, _, _, hnumber, hset, hrank, h⟩
    | time h =>
      obtain ⟨rfl, rfl, rfl⟩ := eq_of_append_digits hdigits (List.forall_mem_nil _) hc
        (by decide) (htext.trans (List.nil_append _).symm)
      exact .inl ⟨rfl, rfl, rfl, h⟩
  · rintro (⟨rfl, rfl, rfl, h⟩ | ⟨n, next, updated, hnumber, hset, hrank, h⟩)
    · exact .time h
    · exact .component hnumber hset hrank h

end Follows

namespace Reading

/-- Whether the text may end where a reading stands, but for digits pending. -/
def isReady (reading : Reading) : Bool :=
  reading.rank != 0 && (!reading.inTime || decide (3 ≤ reading.rank))

theorem isReady_time {reading : Reading} (hrank : reading.rank ≤ 2) :
    isReady { reading with inTime := true } = false := by
  simp only [isReady, Bool.not_true, Bool.false_or, Bool.and_eq_false_iff, decide_eq_false_iff_not]
  omega

theorem isReady_component {reading : Reading} {c : Char} {n : UInt32} {rank : Nat}
    {value : Duration} (hset : setComponent? c reading.inTime n reading.value = some (rank, value)) :
    isReady { reading with value, rank, pending := [] } = true := by
  obtain ⟨-, -, hpos, -, hin⟩ := of_setComponent? hset
  simp only [isReady, bne_iff_ne, Bool.and_eq_true, Bool.or_eq_true, Bool.not_eq_true',
    decide_eq_true_eq]
  refine ⟨by omega, ?_⟩
  cases h : reading.inTime with
  | false => exact .inl rfl
  | true => exact .inr (hin h)

theorem next_of_isDigit {c : Char} (hc : c.isDigit = true) (reading : Reading) :
    reading.next c = .ok { reading with pending := c :: reading.pending } := by
  unfold next
  rw [if_pos hc]

theorem next_T_iff {reading after : Reading} :
    reading.next 'T' = .ok after ↔ reading.pending.reverse = [] ∧ reading.inTime = false ∧
      after = { reading with inTime := true } := by
  unfold next
  rw [if_neg (by decide), if_pos rfl, List.reverse_eq_nil_iff]
  split
  · next hout =>
    simp only [reduceCtorEq, false_iff, not_and]
    intro hpending hin
    simp [hpending, hin] at hout
  · next hin =>
    simp only [Bool.or_eq_true, Bool.not_eq_true', not_or, Bool.not_eq_true,
      Bool.not_eq_false, List.isEmpty_iff] at hin
    rw [Except.ok.injEq, and_iff_right hin.2, and_iff_right hin.1, eq_comm]

theorem next_designator_iff {reading after : Reading} {c : Char} (hc : c.isDigit = false)
    (hT : c ≠ 'T') : reading.next c = .ok after ↔
      ∃ n rank value, Text.Spells reading.pending.reverse n ∧
        setComponent? c reading.inTime n reading.value = some (rank, value) ∧
        reading.rank < rank ∧ after = { reading with value, rank, pending := [] } := by
  unfold next
  rw [if_neg (by simp [hc]), if_neg hT]
  simp only [← Text.readWord?_eq_some_iff]
  cases hread : Text.readWord? reading.pending.reverse with
  | none => simp
  | some n =>
    dsimp only
    cases hset : setComponent? c reading.inTime n reading.value with
    | none =>
      simp only [reduceCtorEq, false_iff]
      rintro ⟨_, _, _, ⟨⟩, hsome, -⟩
      rw [hset] at hsome
      cases hsome
    | some found =>
      obtain ⟨rank, value⟩ := found
      dsimp only
      constructor
      · intro h
        split at h
        · cases h
        · next hle =>
          cases h
          exact ⟨n, rank, value, rfl, hset, by omega, rfl⟩
      · rintro ⟨_, _, _, ⟨⟩, hsome, hlt, rfl⟩
        rw [hset] at hsome
        cases hsome
        rw [if_neg (by omega)]

/-- Other characters than digits are a T behind dates, or designators of a number. -/
theorem next_eq_ok_iff {reading after : Reading} {c : Char} (hc : c.isDigit = false) :
    reading.next c = .ok after ↔
      (c = 'T' ∧ reading.pending.reverse = [] ∧ reading.inTime = false ∧
        after = { reading with inTime := true }) ∨
      ∃ n rank value, Text.Spells reading.pending.reverse n ∧
        setComponent? c reading.inTime n reading.value = some (rank, value) ∧
        reading.rank < rank ∧ after = { reading with value, rank, pending := [] } := by
  by_cases hT : c = 'T'
  · subst hT
    rw [next_T_iff, and_iff_right rfl, or_iff_left]
    rintro ⟨_, _, _, -, hset, -⟩
    exact (of_setComponent? hset).2.1 rfl
  · rw [next_designator_iff hc hT, or_iff_right fun h => hT h.1]

theorem isComplete_iff_follows {reading : Reading}
    (hpending : ∀ c ∈ reading.pending.reverse, c.isDigit = true) (d : Duration) :
    (reading.isComplete = true ∧ reading.value = d) ↔
      Follows reading.inTime reading.rank reading.isReady reading.pending.reverse
        reading.value d := by
  cases hp : reading.pending with
  | nil =>
    rw [List.reverse_nil, Follows.nil_iff, eq_comm (a := d)]
    simp [isComplete, isReady, hp]
  | cons c pending =>
    have hnot := @Follows.not_digits reading.inTime reading.isReady reading.rank reading.value d
      _ hpending (by simp [hp])
    rw [hp] at hnot
    simp only [isComplete, hp, hnot, iff_false, not_and]
    rintro ⟨⟩

end Reading

/-- A reading comes to a whole duration where the rest of the text, behind the digits
pending, may follow. -/
theorem foldlM_next_iff {reading : Reading} (hpending : ∀ c ∈ reading.pending, c.isDigit = true)
    (hrank : reading.inTime = false → reading.rank ≤ 2) (cs : List Char) (d : Duration) :
    (∃ last, cs.foldlM Reading.next reading = .ok last ∧ last.isComplete = true ∧ last.value = d) ↔
      Follows reading.inTime reading.rank reading.isReady (reading.pending.reverse ++ cs)
        reading.value d := by
  have hdigits : ∀ {pending : List Char}, (∀ c ∈ pending, c.isDigit = true) →
      ∀ c ∈ pending.reverse, c.isDigit = true := fun h c hc => h c (List.mem_reverse.1 hc)
  induction cs generalizing reading with
  | nil =>
    simp only [List.foldlM_nil, pure_eq_ok_iff, exists_eq_left', List.append_nil]
    exact Reading.isComplete_iff_follows (hdigits hpending) d
  | cons c cs ih =>
    simp only [List.foldlM_cons, bind_eq_ok_iff]
    cases hc : c.isDigit with
    | true =>
      have ih' := @ih { reading with pending := c :: reading.pending }
        (List.forall_mem_cons.2 ⟨hc, hpending⟩) hrank
      simp only [Reading.next_of_isDigit hc, Except.ok.injEq, exists_eq_left']
      rw [List.append_cons, ← List.reverse_cons]
      exact ih'
    | false =>
      rw [Follows.append_cons_iff (hdigits hpending) hc]
      simp only [Reading.next_eq_ok_iff hc]
      -- The two ways on are those of the grammar, each with what is left to read behind it.
      have htime (hin : reading.inTime = false) (hp : reading.pending.reverse = []) :
          (∃ last, cs.foldlM Reading.next { reading with inTime := true } = .ok last ∧
            last.isComplete = true ∧ last.value = d) ↔
              Follows true reading.rank false cs reading.value d := by
        have hlater := @ih { reading with inTime := true } hpending (by rintro ⟨⟩)
        rw [Reading.isReady_time (hrank hin)] at hlater
        simpa only [hp, List.nil_append] using hlater
      have hcomponent {n : UInt32} {rank : Nat} {value : Duration}
          (hset : setComponent? c reading.inTime n reading.value = some (rank, value)) :
          (∃ last, cs.foldlM Reading.next { reading with value, rank, pending := [] } = .ok last ∧
            last.isComplete = true ∧ last.value = d) ↔
              Follows reading.inTime rank true cs value d := by
        have hlater := @ih { reading with value, rank, pending := [] } (List.forall_mem_nil _)
          (of_setComponent? hset).2.2.2.1
        rwa [Reading.isReady_component hset] at hlater
      constructor
      · rintro ⟨last, ⟨middle, hmiddle, hfold⟩, hlast⟩
        rcases hmiddle with ⟨hT, hp, hin, rfl⟩ | ⟨n, rank, value, hn, hset, hlt, rfl⟩
        · exact .inl ⟨hT, hp, hin, (htime hin hp).1 ⟨last, hfold, hlast⟩⟩
        · exact .inr ⟨n, rank, value, hn, hset, hlt, (hcomponent hset).1 ⟨last, hfold, hlast⟩⟩
      · rintro (⟨hT, hp, hin, h⟩ | ⟨n, rank, value, hn, hset, hlt, h⟩)
        · obtain ⟨last, hfold, hlast⟩ := (htime hin hp).2 h
          exact ⟨last, ⟨_, .inl ⟨hT, hp, hin, rfl⟩, hfold⟩, hlast⟩
        · obtain ⟨last, hfold, hlast⟩ := (hcomponent hset).2 h
          exact ⟨last, ⟨_, .inr ⟨n, rank, value, hn, hset, hlt, rfl⟩, hfold⟩, hlast⟩

theorem readComponents_eq_ok_iff {negative : Bool} {cs : List Char} {d : Duration} :
    readComponents negative cs = .ok d ↔ Follows false 0 false cs { zero with negative } d := by
  have h := @foldlM_next_iff ⟨{ zero with negative }, [], false, 0⟩ (List.forall_mem_nil _)
    (fun _ => Nat.zero_le 2) cs d
  refine Iff.trans ?_ h
  unfold readComponents
  rw [bind_eq_ok_iff]
  refine exists_congr fun last => and_congr_right fun _ => ?_
  cases last.isComplete with
  | false => simp [throw, throwThe, MonadExceptOf.throw]
  | true => simp

namespace Follows

variable {inTime ready : Bool} {rank place : Nat} {text : List Char} {d whole : Duration}

theorem of_le_two (hplace : place ≤ 2) (h : Follows true rank ready text d whole) :
    Follows true place ready text d whole := by
  cases h with
  | done => exact .done
  | component hnumber hset _ h =>
    have := (of_setComponent? hset).2.2.2.2 rfl
    exact .component hnumber hset (by omega) h

theorem of_le (hle : place ≤ rank) (h : Follows inTime rank ready text d whole) :
    Follows inTime place ready text d whole := by
  induction h with
  | done => exact .done
  | component hnumber hset hrank h => exact .component hnumber hset (by omega) h
  | time _ ih => exact .time (ih hle)

variable {designator : Char} {set : UInt32 → Duration → Duration}

theorem component_iff
    (hset : ∀ n d, setComponent? designator inTime n d = some (rank + 1, set n d))
    (hzero : set 0 d = d) : Follows inTime rank ready text d whole ↔
      ∃ part n rest, text = part ++ rest ∧ Component designator part n ∧
        Follows inTime (rank + 1) (ready || !part.isEmpty) rest (set n d) whole := by
  constructor
  · intro h
    cases h with
    | done => exact ⟨[], 0, [], rfl, .absent, hzero.symm ▸ .done⟩
    | @component _ _ _ next c number rest n _ updated _ hnumber hc hrank h =>
      rcases Nat.lt_or_eq_of_le hrank with hlater | rfl
      · refine ⟨[], 0, _, rfl, .absent, ?_⟩
        rw [hzero]
        exact .component hnumber hc hlater h
      · obtain rfl := eq_of_setComponent? hc (hset n d)
        rw [hset] at hc
        cases hc
        have hne : (number ++ [c]).isEmpty = false := by simp
        refine ⟨number ++ [c], n, rest, by simp, .written hnumber, ?_⟩
        rwa [hne, Bool.not_false, Bool.or_true]
    | @time _ _ rest _ _ h =>
      refine ⟨[], 0, _, rfl, .absent, ?_⟩
      rw [hzero]
      exact .time (h.of_le_two ((of_setComponent? (hset 0 d)).2.2.2.1 rfl))
  · rintro ⟨part, n, rest, rfl, hpart, h⟩
    cases hpart with
    | absent =>
      rw [hzero, List.isEmpty_nil, Bool.not_true, Bool.or_false] at h
      exact h.of_le (Nat.le_succ rank)
    | @written number n hnumber =>
      have hne : (number ++ [designator]).isEmpty = false := by simp
      rw [hne, Bool.not_false, Bool.or_true] at h
      rw [List.append_assoc]
      exact .component hnumber (hset n d) (Nat.lt_succ_self rank) h

theorem seconds_end : Follows true 5 ready text d whole ↔
    text = [] ∧ ready = true ∧ whole = d := by
  constructor
  · intro h
    cases h with
    | done => exact ⟨rfl, rfl, rfl⟩
    | component _ hset hrank =>
      unfold setComponent? at hset
      split at hset <;> cases hset <;> omega
  · rintro ⟨rfl, rfl, rfl⟩
    exact .done

theorem days_end : Follows false 2 ready text d whole ↔ (text = [] ∧ ready = true ∧ whole = d) ∨
    ∃ rest, text = 'T' :: rest ∧ Follows true 2 false rest d whole := by
  constructor
  · intro h
    cases h with
    | done => exact .inl ⟨rfl, rfl, rfl⟩
    | component _ hset hrank =>
      have := (of_setComponent? hset).2.2.2.1 rfl
      omega
    | time h => exact .inr ⟨_, rfl, h⟩
  · rintro (⟨rfl, rfl, rfl⟩ | ⟨rest, rfl, h⟩)
    · exact .done
    · exact .time h

theorem times_iff (hhours : d.hours = 0) (hminutes : d.minutes = 0) (hseconds : d.seconds = 0) :
    Follows true 2 false text d whole ↔ ∃ first second third hours minutes seconds,
      text = first ++ second ++ third ∧ text ≠ [] ∧ Component 'H' first hours ∧
        Component 'M' second minutes ∧ Component 'S' third seconds ∧
        whole = { d with hours, minutes, seconds } := by
  have hhour {ready text} := @component_iff true ready 2 text d whole 'H'
    (fun n d => { d with hours := n }) (fun _ _ => rfl) (by rw [← hhours])
  have hminute {ready text hours} := @component_iff true ready 3 text { d with hours } whole 'M'
    (fun n d => { d with minutes := n }) (fun _ _ => rfl) (by rw [← hminutes])
  have hsecond {ready text hours minutes} := @component_iff true ready 4 text
    { d with hours, minutes } whole 'S' (fun n d => { d with seconds := n }) (fun _ _ => rfl)
    (by rw [← hseconds])
  constructor
  · intro h
    obtain ⟨first, hours, rest, rfl, hfirst, h⟩ := hhour.1 h
    obtain ⟨second, minutes, rest, rfl, hnext, h⟩ := hminute.1 h
    obtain ⟨third, seconds, rest, rfl, hlast, h⟩ := hsecond.1 h
    obtain ⟨rfl, hready, rfl⟩ := seconds_end.1 h
    refine ⟨first, second, third, hours, minutes, seconds, by simp, ?_, hfirst, hnext, hlast, rfl⟩
    simpa [imp_iff_not_or, or_assoc] using hready
  · rintro ⟨first, second, third, hours, minutes, seconds, rfl, hne, hfirst, hnext, hlast, rfl⟩
    refine hhour.2 ⟨first, hours, second ++ third, List.append_assoc .., hfirst,
      hminute.2 ⟨second, minutes, third, rfl, hnext,
        hsecond.2 ⟨third, seconds, [], (List.append_nil _).symm, hlast,
          seconds_end.2 ⟨rfl, ?_, rfl⟩⟩⟩⟩
    simpa [imp_iff_not_or, or_assoc] using hne

/-- The components of a duration, of which there is one at least. -/
theorem start_iff {negative : Bool} : Follows false 0 false text { zero with negative } whole ↔
    ∃ weeks days time, text = weeks ++ days ++ time ∧ text ≠ [] ∧
      Component 'W' weeks whole.weeks ∧ Component 'D' days whole.days ∧
      TimePart time whole.hours whole.minutes whole.seconds ∧ whole.negative = negative := by
  have hweek {ready text} := @component_iff false ready 0 text { zero with negative } whole 'W'
    (fun n d => { d with weeks := n }) (fun _ _ => rfl) rfl
  have hday {ready text weeks} := @component_iff false ready 1 text { zero with negative, weeks }
    whole 'D' (fun n d => { d with days := n }) (fun _ _ => rfl) rfl
  constructor
  · intro h
    obtain ⟨first, weeks, rest, rfl, hfirst, h⟩ := hweek.1 h
    obtain ⟨second, days, rest, rfl, hsecond, h⟩ := hday.1 h
    rcases days_end.1 h with ⟨rfl, hready, rfl⟩ | ⟨rest, rfl, htimes⟩
    · refine ⟨first, second, [], by simp, ?_, hfirst, hsecond, .absent, rfl⟩
      simpa [imp_iff_not_or] using hready
    · obtain ⟨third, fourth, fifth, hours, minutes, seconds, rfl, hne, hthird, hfourth, hfifth,
        rfl⟩ := (times_iff rfl rfl rfl).1 htimes
      exact ⟨first, second, _, by simp, by simp, hfirst, hsecond,
        .written hthird hfourth hfifth hne, rfl⟩
  · rintro ⟨first, second, time, rfl, hne, hfirst, hsecond, htime, rfl⟩
    refine hweek.2 ⟨first, _, second ++ time, List.append_assoc .., hfirst,
      hday.2 ⟨second, _, time, rfl, hsecond, days_end.2 ?_⟩⟩
    obtain ⟨negative, weeks, days, hours, minutes, seconds⟩ := whole
    cases htime with
    | absent =>
      refine .inl ⟨rfl, ?_, rfl⟩
      simpa [imp_iff_not_or] using hne
    | written hthird hfourth hfifth hsome =>
      exact .inr ⟨_, rfl, (times_iff rfl rfl rfl).2
        ⟨_, _, _, _, _, _, rfl, hsome, hthird, hfourth, hfifth, rfl⟩⟩

end Follows

theorem read_eq {s : String} {negative : Bool} {body : List Char}
    (h : cutSign s.toList = (negative, 'P' :: body)) :
    read s = (readComponents negative body).mapError fun detail => ⟨.duration, s, detail⟩ := by
  simp only [read, h]

theorem cutSign_append {sign : List Char} {negative : Bool} (h : Sign sign negative)
    (body : List Char) : cutSign (sign ++ 'P' :: body) = (negative, 'P' :: body) := by
  cases h <;> rfl

theorem read_of_written {s : String} {d : Duration} (h : Written s.toList d) : read s = .ok d := by
  generalize htext : s.toList = text at h
  obtain @⟨sign, weeks, days, time, d, hsign, hweeks, hdays, htime, hne⟩ := h
  rw [read_eq (htext ▸ cutSign_append hsign _)]
  have hread : readComponents d.negative (weeks ++ days ++ time) = .ok d :=
    readComponents_eq_ok_iff.2
      (Follows.start_iff.2 ⟨weeks, days, time, rfl, hne, hweeks, hdays, htime, rfl⟩)
  rw [hread]
  rfl

theorem exists_sign (cs : List Char) :
    ∃ sign, Sign sign (cutSign cs).1 ∧ cs = sign ++ (cutSign cs).2 := by
  unfold cutSign
  split
  · exact ⟨_, .minus, rfl⟩
  · exact ⟨_, .plus, rfl⟩
  · exact ⟨_, .none, rfl⟩

theorem written_of_read {s : String} {d : Duration} (h : read s = .ok d) : Written s.toList d := by
  obtain ⟨sign, hsign, htext⟩ := exists_sign s.toList
  rcases hcut : cutSign s.toList with ⟨negative, rest⟩
  rw [hcut] at hsign htext
  simp only [read, hcut] at h
  split at h
  · next body =>
    cases hread : readComponents negative body with
    | error detail =>
      rw [hread] at h
      cases h
    | ok found =>
      rw [hread] at h
      cases h
      obtain ⟨weeks, days, time, rfl, hne, hweeks, hdays, htime, rfl⟩ :=
        Follows.start_iff.1 (readComponents_eq_ok_iff.1 hread)
      rw [htext]
      exact .intro hsign hweeks hdays htime hne
  · cases h

/-- Reading accepts just what may be written as a duration, and gives its components and
its sign. -/
theorem read_eq_ok_iff_written (s : String) (d : Duration) :
    read s = .ok d ↔ Written s.toList d :=
  ⟨written_of_read, read_of_written⟩

end Recurrence.Duration
