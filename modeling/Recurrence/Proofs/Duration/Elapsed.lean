import Mathlib
import Recurrence.Duration.Signed
import Recurrence.Proofs.Duration.Sign

/-! Elapsed time as a duration. It is split into whole days and a rest whose hours,
minutes and seconds make no larger unit. Durations that are split so are told by their
seconds alone, so that all durations of one length come to the same. -/
namespace Recurrence.Duration

/-- Whether a duration is split as elapsed time is, with a sign only below zero. -/
structure IsNormal (d : Duration) : Prop where
  weeks_eq : d.weeks = 0
  hours_lt : d.hours.toNat < 24
  minutes_lt : d.minutes.toNat < 60
  seconds_lt : d.seconds.toNat < 60
  negative_iff : d.negative = true ↔ d.totalSeconds < 0

variable {d other : Duration} {elapsed : Int}

theorem IsNormal.length_eq (h : d.IsNormal) : d.length = d.days.toNat * 86400 +
    (d.hours.toNat * 3600 + d.minutes.toNat * 60 + d.seconds.toNat) := by
  rw [length, h.weeks_eq, UInt32.toNat_zero, Nat.zero_mul, Nat.zero_add]

theorem IsNormal.eq (h : d.IsNormal) (h' : other.IsNormal)
    (heq : d.totalSeconds = other.totalSeconds) : d = other := by
  have hlength : d.length = other.length := by
    rw [← natAbs_totalSeconds, heq, natAbs_totalSeconds]
  rw [h.length_eq, h'.length_eq] at hlength
  have hhours := h.hours_lt
  have hhours' := h'.hours_lt
  have hminutes := h.minutes_lt
  have hminutes' := h'.minutes_lt
  have hseconds := h.seconds_lt
  have hseconds' := h'.seconds_lt
  have hnegative : d.negative = other.negative := by
    rw [Bool.eq_iff_iff, h.negative_iff, h'.negative_iff, heq]
  -- Fields within their bounds are the quotients and remainders of the length.
  have hparts : d.days = other.days ∧ d.hours = other.hours ∧ d.minutes = other.minutes ∧
      d.seconds = other.seconds := by
    simp only [← UInt32.toNat_inj]
    omega
  cases d
  cases other
  exact mk.injEq .. ▸ ⟨hnegative, h.weeks_eq.trans h'.weeks_eq.symm, hparts⟩

theorem exists_ofElapsed_iff :
    (∃ d, ofElapsed elapsed = .ok d) ↔ elapsed.natAbs / 86400 < 4294967296 := by
  unfold ofElapsed
  dsimp only
  split
  · next hfits => exact iff_of_true ⟨_, rfl⟩ hfits
  · next hlarge => exact iff_of_false (fun ⟨_, h⟩ => nomatch h) hlarge

theorem of_ofElapsed (h : ofElapsed elapsed = .ok d) :
    d.negative = decide (elapsed < 0) ∧ d.weeks = 0 ∧
      d.days.toNat = elapsed.natAbs / 86400 ∧
      d.hours.toNat = elapsed.natAbs % 86400 / 3600 ∧
      d.minutes.toNat = elapsed.natAbs % 86400 % 3600 / 60 ∧
      d.seconds.toNat = elapsed.natAbs % 86400 % 60 := by
  have hfits := exists_ofElapsed_iff.1 ⟨d, h⟩
  unfold ofElapsed at h
  dsimp only at h
  rw [if_pos hfits] at h
  obtain rfl := Except.ok.inj h
  refine ⟨rfl, rfl, UInt32.toNat_ofNat_of_lt' hfits, UInt32.toNat_ofNat_of_lt' ?_,
    UInt32.toNat_ofNat_of_lt' ?_, UInt32.toNat_ofNat_of_lt' ?_⟩
  all_goals
    change _ < 4294967296
    omega

theorem totalSeconds_of_ofElapsed (h : ofElapsed elapsed = .ok d) : d.totalSeconds = elapsed := by
  obtain ⟨hnegative, hweeks, hdays, hhours, hminutes, hseconds⟩ := of_ofElapsed h
  have hlength : d.length = elapsed.natAbs := by
    rw [length, hweeks, hdays, hhours, hminutes, hseconds, UInt32.toNat_zero]
    omega
  rw [totalSeconds_eq_signed, hlength, signed, hnegative]
  by_cases hlt : elapsed < 0
  · rw [if_pos (decide_eq_true hlt)]
    omega
  · rw [if_neg (ne_true_of_eq_false (decide_eq_false hlt))]
    omega

theorem isNormal_of_ofElapsed (h : ofElapsed elapsed = .ok d) : d.IsNormal := by
  have htotal := totalSeconds_of_ofElapsed h
  obtain ⟨hnegative, hweeks, -, hhours, hminutes, hseconds⟩ := of_ofElapsed h
  refine ⟨hweeks, ?_, ?_, ?_, ?_⟩
  · omega
  · omega
  · omega
  · rw [hnegative, htotal, decide_eq_true_iff]

/-- Elapsed time comes to the normal duration that lasts as long, and to no other. -/
theorem ofElapsed_eq_ok_iff :
    ofElapsed elapsed = .ok d ↔ d.IsNormal ∧ d.totalSeconds = elapsed := by
  constructor
  · exact fun h => ⟨isNormal_of_ofElapsed h, totalSeconds_of_ofElapsed h⟩
  · rintro ⟨hnormal, rfl⟩
    have hfits : d.totalSeconds.natAbs / 86400 < 4294967296 := by
      have hdays := d.days.toNat_lt
      have hhours := hnormal.hours_lt
      have hminutes := hnormal.minutes_lt
      have hseconds := hnormal.seconds_lt
      rw [natAbs_totalSeconds, hnormal.length_eq]
      omega
    obtain ⟨other, hother⟩ := exists_ofElapsed_iff.2 hfits
    rw [hother, (isNormal_of_ofElapsed hother).eq hnormal (totalSeconds_of_ofElapsed hother)]

theorem ofElapsed_inj {other : Int} : ofElapsed elapsed = ofElapsed other ↔ elapsed = other := by
  refine ⟨fun h => ?_, congrArg ofElapsed⟩
  cases hd : ofElapsed elapsed with
  | ok d => rw [← totalSeconds_of_ofElapsed hd, totalSeconds_of_ofElapsed (h.symm.trans hd)]
  | error error =>
    -- A refusal names the time that is refused.
    have hrefused {time : Int} (hr : ofElapsed time = .error error) :
        error = .elapsedTooLarge time := by
      unfold ofElapsed at hr
      dsimp only at hr
      split at hr
      · cases hr
      · exact (Except.error.inj hr).symm
    exact InvalidValue.elapsedTooLarge.inj ((hrefused hd).symm.trans (hrefused (h.symm.trans hd)))

/-- Elapsed time makes a duration exactly when its days fit 32 bits, and this is the
normal duration that lasts as long. The seconds of any duration are an elapsed time.
Where they make a duration it lasts as long as the first, and it is the same for two
durations exactly when these last as long as each other. -/
theorem ofElapsed_normalizes :
    (∀ elapsed : Int,
      ((∃ d, ofElapsed elapsed = .ok d) ↔ elapsed.natAbs / 86400 < 2 ^ 32) ∧
      ∀ d, ofElapsed elapsed = .ok d ↔ d.IsNormal ∧ d.totalSeconds = elapsed) ∧
    (∀ d : Duration, d.totalSeconds.natAbs * 1000 < 2 ^ 63 ∧
      (d.totalSeconds.natAbs / 86400 < 2 ^ 32 → ∃ normal,
        ofElapsed d.totalSeconds = .ok normal ∧ normal.totalSeconds = d.totalSeconds)) ∧
    ∀ d other : Duration, ofElapsed d.totalSeconds = ofElapsed other.totalSeconds ↔
      d.totalSeconds = other.totalSeconds := by
  refine ⟨fun elapsed => ⟨exists_ofElapsed_iff, fun d => ofElapsed_eq_ok_iff⟩,
    fun d => ⟨?_, fun hfits => ?_⟩, fun d other => ofElapsed_inj⟩
  · rw [natAbs_totalSeconds]
    exact Nat.lt_succ_of_le d.length_le
  · obtain ⟨normal, hnormal⟩ := exists_ofElapsed_iff.2 hfits
    exact ⟨normal, hnormal, totalSeconds_of_ofElapsed hnormal⟩

/-- A week and 26:30:61 before are eight days and 02:31:01 before. -/
theorem ofElapsed_normalizes_eightDays :
    (⟨true, 1, 0, 26, 30, 61⟩ : Duration).totalSeconds.natAbs / 86400 < 2 ^ 32 ∧
    ∃ normal, ofElapsed (⟨true, 1, 0, 26, 30, 61⟩ : Duration).totalSeconds = .ok normal ∧
      normal.totalSeconds = -700261 ∧ normal = ⟨true, 0, 8, 2, 31, 1⟩ := by
  have hfits : (⟨true, 1, 0, 26, 30, 61⟩ : Duration).totalSeconds.natAbs / 86400 < 2 ^ 32 := by
    decide
  obtain ⟨helapsed, hagain, hsame⟩ := ofElapsed_normalizes
  obtain ⟨normal, hnormal, htotal⟩ := (hagain ⟨true, 1, 0, 26, 30, 61⟩).2 hfits
  have height : ofElapsed (⟨true, 0, 8, 2, 31, 1⟩ : Duration).totalSeconds =
      .ok ⟨true, 0, 8, 2, 31, 1⟩ :=
    ((helapsed _).2 _).2 ⟨⟨rfl, by decide, by decide, by decide, by decide⟩, rfl⟩
  have heq := (hsame ⟨true, 1, 0, 26, 30, 61⟩ ⟨true, 0, 8, 2, 31, 1⟩).2 (by decide)
  exact ⟨hfits, normal, hnormal, htotal, Except.ok.inj (hnormal.symm.trans (heq.trans height))⟩

end Recurrence.Duration
