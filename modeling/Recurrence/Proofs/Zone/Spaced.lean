import Mathlib
import Recurrence.Proofs.Zone.Steady

/-! Zones whose offset changes at most once in two days. Their clocks put readings
in the order of time, but for one that is skipped: it moves past the gap, and with
it past the readings that follow the gap at once. -/
namespace Recurrence
open Calendar Zone

/-- Whether changes of the offset lie two days apart or more. -/
def Zone.IsSpaced (offsetAt : Int → Offset) : Prop :=
  ∀ first second third, Representable first → Representable third → first ≤ second →
    second ≤ third → third - first ≤ 172800 →
    offsetAt first = offsetAt second ∨ offsetAt second = offsetAt third

theorem Zone.isSpaced_of_once (onset : Int) (before after : Offset) :
    Zone.IsSpaced fun instant => if onset ≤ instant then after else before := by
  intro first second third _ _ hle hle' _
  dsimp only
  by_cases h : onset ≤ second
  · right
    rw [if_pos h, if_pos (h.trans hle')]
  · left
    rw [if_neg h, if_neg (by omega)]

section Once

variable (clocks : Clocks) {o : Observance} {onset : Int}
  (honset : o.onsetAt? o.start = some onset) (hrule : o.rule = none) (hextra : o.extra = [])
include honset hrule hextra

theorem Zone.Observance.onsets_of_once (first : Option Moment) (last : Moment) :
    o.onsets clocks first last =
      if first.all (·.ceiling ≤ onset) && decide (onset ≤ last.second) then [onset] else [] := by
  simp only [onsets, hrule, hextra, List.filterMap, honset, List.append_nil, List.filter,
    Moment.le_ofSecond_iff, Moment.ofSecond_le_iff]
  cases first.all (·.ceiling ≤ onset) && decide (onset ≤ last.second) <;> simp [distinctSorted]

theorem Zone.Observance.latestOnset?_of_once (moment : Moment) :
    o.latestOnset? clocks moment = if onset ≤ moment.second then some onset else none := by
  unfold latestOnset?
  simp only [onsets_of_once clocks honset hrule hextra]
  generalize moment.move? _ = first
  by_cases hlate : onset ≤ moment.second
  · cases first with
    | none => simp [hlate]
    | some first => by_cases hf : first.ceiling ≤ onset <;> simp [hlate, hf]
  · simp [hlate]

end Once

theorem Zone.VTimezone.offsetAt_of_once (clocks : Clocks) {zone : VTimezone} {o : Observance}
    {onset : Int} (hzone : zone.observances = [o]) (honset : o.onsetAt? o.start = some onset)
    (hrule : o.rule = none) (hextra : o.extra = []) (instant : Int) :
    zone.offsetAt clocks instant = if onset ≤ instant then o.offsetTo else o.offsetFrom := by
  have hlatest : o.latestOnset? clocks instant = if onset ≤ instant then some onset else none :=
    Observance.latestOnset?_of_once clocks honset hrule hextra instant
  unfold offsetAt offsetAtMoment observanceAt?
  rw [hzone]
  simp only [List.filterMap_cons, List.filterMap_nil, hlatest]
  by_cases hlate : onset ≤ instant
  · simp only [if_pos hlate]
    rfl
  · simp only [if_neg hlate]
    rfl

/-- Whether an instant shows a reading that an earlier instant shows as well. -/
def Zone.Repeats (offsetAt : Int → Offset) (instant : Int) : Prop :=
  ∃ earlier < instant, Representable earlier ∧
    earlier + (offsetAt earlier).seconds = instant + (offsetAt instant).seconds

theorem Zone.not_repeats_of_const {offsetAt : Int → Offset}
    (hconst : ∀ one other, offsetAt one = offsetAt other) (instant : Int) :
    ¬ Zone.Repeats offsetAt instant := by
  rintro ⟨earlier, hlt, -, heq⟩
  rw [hconst earlier instant] at heq
  omega

/-- Whether a clock takes a reading that it shows for the first instant at which it
does. -/
def Clock.TakesFirst (clock : Clock) (offsetAt : Int → Offset) : Prop :=
  ∀ instant first, Representable instant →
    clock.toUtc (instant + (offsetAt instant).seconds) = .ok first →
    first ≤ instant ∧ first + (offsetAt first).seconds = instant + (offsetAt instant).seconds

theorem Zone.takesFirst_utcOf {offsetAt : Int → Offset} {offsets : List Offset}
    (hmem : ∀ instant, offsetAt instant ∈ offsets) :
    Clock.TakesFirst ⟨utcOf offsetAt offsets, localOf offsetAt⟩ offsetAt := by
  intro instant first hr h
  obtain ⟨found, hle, hfound⟩ := firstInstant?_le hr (hmem instant)
  have hat := (firstInstant?_eq_some hfound).2
  simp only [utcOf, hfound, Except.ok.injEq] at h
  subst h
  omega

theorem Clock.Shows.takesFirst_of_const {clock : Clock} {offsetAt : Int → Offset}
    (h : clock.Shows offsetAt) (hconst : ∀ one other, offsetAt one = offsetAt other) :
    clock.TakesFirst offsetAt := by
  intro instant first hr hi
  obtain ⟨-, seen, -, heq, -⟩ := h.of_toUtc hi
  rw [hconst seen instant] at heq
  rw [hconst first instant]
  omega

theorem TimeZone.clock_takesFirst (clocks : Clocks) (zone : TimeZone) :
    (zone.clock clocks).TakesFirst (zone.offsetAt clocks) := by
  cases zone with
  | system zone =>
    cases zone with
    | fixed name offset => exact (shows_fixed name offset).takesFirst_of_const fun _ _ => rfl
    | named zone => exact takesFirst_utcOf zone.table.offsetAt_mem
  | described zone =>
    by_cases h : zone.observances = []
    · apply (zone.shows clocks).takesFirst_of_const
      intro one other
      simp [VTimezone.offsetAt, VTimezone.offsetAtMoment, VTimezone.observanceAt?, h,
        VTimezone.earliest?]
    · exact takesFirst_utcOf (VTimezone.offsetAt_mem h)

namespace Clock.Shows

variable {clock : Clock} {offsetAt : Int → Offset} (h : clock.Shows offsetAt)
  (hfirst : clock.TakesFirst offsetAt) (hs : Zone.IsSpaced offsetAt)
  {wall later instant earlier : Int} (hi : clock.toUtc wall = .ok instant)

include h hfirst hs hi

/-- What a clock shows at the instant of a reading stands for that instant, also where
the reading is skipped: the gap does not move it to a reading that is repeated. -/
theorem toUtc_toLocal (hlow : firstSecond + 86400 ≤ instant)
    (hhigh : instant ≤ lastSecond - 172800) : clock.toUtc (clock.toLocal instant) = .ok instant := by
  obtain ⟨hr, seen, hrseen, heq, hseen⟩ := h.of_toUtc hi
  have hnear := (offsetAt seen).within_day
  have hnear' := (offsetAt instant).within_day
  have hlocal : Representable (instant + (offsetAt instant).seconds) := by
    unfold Representable
    omega
  rw [h.toLocal_eq_add hlocal]
  by_cases hsame : offsetAt seen = offsetAt instant
  · rw [← hsame, heq, Int.sub_add_cancel, ← heq]
    exact hi
  obtain rfl : seen = wall - 86400 := by
    rcases hseen with rfl | hbefore
    · exact absurd rfl hsame
    · exact hbefore
  obtain ⟨first, hle, hto⟩ := h.toUtc_le hi le_rfl hr
  obtain ⟨-, hreads⟩ := hfirst instant first hr hto
  obtain ⟨hrfirst, -⟩ := h.of_toUtc hto
  have hnear'' := (offsetAt first).within_day
  rcases eq_or_lt_of_le hle with rfl | hlt
  · exact hto
  -- An earlier instant would have a greater offset, which the change at the gap had before it.
  have hbefore : offsetAt first = offsetAt (wall - 86400) := by
    rcases le_total first (wall - 86400) with hle | hle
    · exact (hs _ _ _ hrfirst hr hle (by omega) (by omega)).resolve_right hsame
    · refine ((hs _ _ _ hrseen hr hle (by omega) (by omega)).resolve_right fun heq' => ?_).symm
      rw [heq'] at hreads
      omega
  rw [hbefore] at hreads
  -- So the offset has fallen, and its reading is shown behind the change.
  have hafter : Representable (wall - (offsetAt instant).seconds) := by
    unfold Representable at hr ⊢
    omega
  have hkept : offsetAt instant = offsetAt (wall - (offsetAt instant).seconds) :=
    (hs _ _ _ hrseen hafter (by omega) (by omega) (by omega)).resolve_left hsame
  have hshown : wall - (offsetAt instant).seconds +
      (offsetAt (wall - (offsetAt instant).seconds)).seconds = wall := by
    rw [← hkept]
    omega
  obtain ⟨-, hwall⟩ := hfirst _ instant hafter (hshown.symm ▸ hi)
  omega

variable (hj : clock.toUtc later = .ok earlier)
include hj

/-- A later reading that stands for an earlier instant is shown there, since two changes
would be needed to skip it. -/
theorem shown_of_reversed (hlow : firstSecond + 86400 ≤ wall) (hhigh : later ≤ lastSecond - 86400)
    (hlt : wall < later) (hshown : instant + (offsetAt instant).seconds = wall)
    (hrev : earlier < instant) : earlier + (offsetAt earlier).seconds = later := by
  obtain ⟨hri, -⟩ := h.of_toUtc hi
  obtain ⟨hrj, seen, -, heq, hseen⟩ := h.of_toUtc hj
  have hnear := (offsetAt seen).within_day
  have hnear' := (offsetAt earlier).within_day
  have hnear'' := (offsetAt instant).within_day
  rcases hseen with rfl | rfl
  · omega
  have hdayBefore : Representable (later - 86400) := by
    unfold Representable at hri ⊢
    omega
  rcases hs (later - 86400) earlier instant hdayBefore hri (by omega) (by omega) (by omega)
    with hsame | hsame
  · rw [← hsame]
    omega
  -- The offset has fallen, so the later reading is shown after the change.
  have hafter : Representable (later - (offsetAt earlier).seconds) := by
    unfold Representable at hrj ⊢
    rw [hsame] at hnear' ⊢
    omega
  rcases hs (later - 86400) earlier (later - (offsetAt earlier).seconds) hdayBefore hafter
    (by omega) (by rw [hsame]; omega) (by omega) with hsame' | hsame'
  · rw [← hsame']
    omega
  · have hreads : later - (offsetAt earlier).seconds +
        (offsetAt (later - (offsetAt earlier).seconds)).seconds = later := by
      rw [← hsame']
      omega
    have := hfirst _ earlier hafter (hreads.symm ▸ hj)
    omega

theorem le_of_shown (hlow : firstSecond + 86400 ≤ wall) (hhigh : later ≤ lastSecond - 86400)
    (hlt : wall < later) (hshown : instant + (offsetAt instant).seconds = wall) :
    instant ≤ earlier := by
  by_contra hrev
  have hjshown := h.shown_of_reversed hfirst hs hi hj hlow hhigh hlt hshown (not_le.1 hrev)
  obtain ⟨hri, -⟩ := h.of_toUtc hi
  have hnear' := (offsetAt earlier).within_day
  have hnear'' := (offsetAt instant).within_day
  -- Under the earlier offset the first reading would be shown before its instant.
  have hbefore : Representable (wall - (offsetAt earlier).seconds) := by
    unfold Representable at hri ⊢
    omega
  rcases hs (wall - (offsetAt earlier).seconds) earlier instant hbefore hri (by omega) (by omega)
    (by omega) with hsame | hsame
  · have hreads : wall - (offsetAt earlier).seconds +
        (offsetAt (wall - (offsetAt earlier).seconds)).seconds = wall := by
      rw [hsame]
      omega
    have := hfirst _ instant hbefore (hreads.symm ▸ hi)
    omega
  · rw [hsame] at hjshown
    omega

/-- A reading that stands for a later instant than a reading behind it is skipped,
and moves past that. -/
theorem lt_toLocal_of_reversed (hlow : firstSecond + 172800 ≤ wall)
    (hhigh : later ≤ lastSecond - 172800) (hlt : wall < later) (hrev : earlier < instant) :
    later < clock.toLocal instant := by
  obtain ⟨hri, seen, -, heq, hseen⟩ := h.of_toUtc hi
  obtain ⟨hrj, seen', -, heq', hseen'⟩ := h.of_toUtc hj
  have hnear := (offsetAt seen).within_day
  have hnear' := (offsetAt seen').within_day
  have hnear'' := (offsetAt instant).within_day
  have hlocal : Representable (instant + (offsetAt instant).seconds) := by
    unfold Representable
    omega
  rw [h.toLocal_eq_add hlocal]
  -- A reading that is shown is not reversed; a skipped one moves past the gap.
  rcases hseen with rfl | rfl
  · have := h.le_of_shown hfirst hs hi hj (by omega) (by omega) hlt (by omega)
    omega
  · have hdayBefore : Representable (wall - 86400) := by
      unfold Representable
      omega
    rcases hs (wall - 86400) seen' instant hdayBefore hri (by rcases hseen' with rfl | rfl <;> omega)
      (by rcases hseen' with rfl | rfl <;> omega) (by omega) with hsame | hsame
    · rw [hsame] at heq
      omega
    · rw [← hsame]
      omega

end Clock.Shows
end Recurrence
