/-!
Cutting text at a separator: once at its first place, or at every place.
-/
namespace Recurrence.Text

/-- The parts before and after the first separator, if there is one. -/
def cut? (separator : Char) : List Char → Option (List Char × List Char)
  | [] => none
  | c :: cs =>
    if c = separator then some ([], cs)
    else (cut? separator cs).map fun (before, after) => (c :: before, after)

/-- The parts between separators; a text without one is its only part. -/
def fields (separator : Char) : List Char → List (List Char)
  | [] => [[]]
  | c :: cs =>
    if c = separator then [] :: fields separator cs
    else match fields separator cs with
      | part :: parts => (c :: part) :: parts
      | [] => [[c]]

/-- The rest of a text behind a given beginning, if it begins so. -/
def after? : (beginning text : List Char) → Option (List Char)
  | [], cs => some cs
  | _ :: _, [] => none
  | b :: bs, c :: cs => if b = c then after? bs cs else none

/-- ASCII letters in upper case; all other characters stay. -/
def upper (cs : List Char) : List Char := cs.map Char.toUpper

theorem eq_of_cut? {separator : Char} {cs before after : List Char}
    (h : cut? separator cs = some (before, after)) : cs = before ++ separator :: after := by
  induction cs generalizing before with
  | nil => simp [cut?] at h
  | cons c cs ih =>
    unfold cut? at h
    split at h
    · next hc => simp_all
    · obtain ⟨⟨b, a⟩, hb, hp⟩ := Option.map_eq_some_iff.1 h
      simp only [Prod.mk.injEq] at hp
      obtain ⟨rfl, rfl⟩ := hp
      simp [ih hb]

end Recurrence.Text
