import Mathlib
import Recurrence.Proofs.Failure
import Recurrence.Proofs.Text.Words
import Recurrence.Rule.Reader

/-! The order in which a rule says things. Each key has a field of its own, which its part sets
to what the value says whatever stands in the rule, unless a count meets a last moment. So two
parts of different keys do the same in either order, and one of an unknown key does nothing. -/
namespace Recurrence.Rule

/-- The rule with the field of a key taken from another. -/
def withField (rule : Rule) (key : Key) (source : Rule) : Rule :=
  match key with
  | .frequency => { rule with frequency := source.frequency }
  | .interval => { rule with interval := source.interval }
  | .count => { rule with count := source.count }
  | .endsAt => { rule with endsAt := source.endsAt }
  | .weekStart => { rule with weekStart := source.weekStart }
  | .seconds => rule.setLists ({ · with seconds := source.lists.seconds })
  | .minutes => rule.setLists ({ · with minutes := source.lists.minutes })
  | .hours => rule.setLists ({ · with hours := source.lists.hours })
  | .days => rule.setLists ({ · with days := source.lists.days })
  | .monthDays => rule.setLists ({ · with monthDays := source.lists.monthDays })
  | .yearDays => rule.setLists ({ · with yearDays := source.lists.yearDays })
  | .weekNumbers => rule.setLists ({ · with weekNumbers := source.lists.weekNumbers })
  | .months => rule.setLists ({ · with months := source.lists.months })
  | .positions => rule.setLists ({ · with positions := source.lists.positions })

/-- Whether a rule has the one end already that a key would set beside the other. -/
def hasOtherEnd (rule : Rule) : Key → Bool
  | .count => rule.endsAt.isSome
  | .endsAt => rule.count.isSome
  | _ => false

/-- Whether two keys are those of the two ends. -/
def Key.isOtherEnd : Key → Key → Bool
  | .count, .endsAt => true
  | .endsAt, .count => true
  | _, _ => false

variable {rule next : Rule} {key other : Key} {value : List Char}

theorem withField_comm (hne : key ≠ other) (rule source source' : Rule) :
    (rule.withField key source).withField other source' =
      (rule.withField other source').withField key source := by
  cases key <;> cases other <;> first | contradiction | rfl

theorem readPart_eq (rule : Rule) (key : Key) (value : List Char) : rule.readPart key value =
    if rule.hasOtherEnd key then .error .untilWithCount
    else (blank.readPart key value).map (rule.withField key) := by
  cases key with
  | frequency =>
    unfold readPart
    cases Frequency.read? value <;> rfl
  | weekStart =>
    unfold readPart
    cases Calendar.Weekday.read? value <;> rfl
  | interval =>
    unfold readPart
    cases orRule (Text.readWord? value) <;> rfl
  | count =>
    unfold readPart hasOtherEnd
    cases orRule (Text.readWord? value) <;> rfl
  | endsAt =>
    unfold readPart hasOtherEnd
    cases readUntil value <;> rfl
  | seconds | minutes | hours | months =>
    unfold readPart
    cases readCounts value <;> rfl
  | monthDays | weekNumbers =>
    unfold readPart
    cases readShortPlaces value <;> rfl
  | yearDays | positions =>
    unfold readPart
    cases readLongPlaces value <;> rfl
  | days =>
    unfold readPart
    cases readValues readWeekdayNum value <;> rfl

theorem isSome_of_readPart {source : Rule} (h : blank.readPart key value = .ok source) :
    (key = .count → source.count.isSome = true) ∧ (key = .endsAt → source.endsAt.isSome = true) := by
  constructor
  · rintro rfl
    obtain ⟨n, -, rfl⟩ := map_eq_ok_iff.1 h
    rfl
  · rintro rfl
    obtain ⟨last, -, rfl⟩ := map_eq_ok_iff.1 h
    rfl

theorem hasOtherEnd_withField {source : Rule} (hne : key ≠ other)
    (h : blank.readPart key value = .ok source) (rule : Rule) :
    (rule.withField key source).hasOtherEnd other =
      (rule.hasOtherEnd other || key.isOtherEnd other) := by
  obtain ⟨hcount, hends⟩ := isSome_of_readPart h
  cases other with
  | count => cases key <;> simp_all [withField, setLists, hasOtherEnd, Key.isOtherEnd]
  | endsAt => cases key <;> simp_all [withField, setLists, hasOtherEnd, Key.isOtherEnd]
  | _ => cases key <;> rfl

/-- Two parts are read if both values can be and no end meets the other. -/
theorem readPart_readPart (hne : key ≠ other) (rule : Rule) (value text : List Char) :
    ((rule.readPart key value).toOption.bind fun next => (next.readPart other text).toOption) =
      if rule.hasOtherEnd key || rule.hasOtherEnd other || key.isOtherEnd other then none
      else (blank.readPart key value).toOption.bind fun source =>
        (blank.readPart other text).toOption.map fun source' =>
          (rule.withField key source).withField other source' := by
  rw [readPart_eq rule key]
  cases hkey : rule.hasOtherEnd key with
  | true => rfl
  | false =>
    cases hread : blank.readPart key value with
    | error kind => exact (ite_self none).symm
    | ok source =>
      change ((rule.withField key source).readPart other text).toOption =
        if rule.hasOtherEnd other || key.isOtherEnd other then none
        else (blank.readPart other text).toOption.map _
      rw [readPart_eq, hasOtherEnd_withField hne hread]
      split
      · rfl
      · cases blank.readPart other text <;> rfl

theorem Key.isOtherEnd_comm (key other : Key) : key.isOtherEnd other = other.isOtherEnd key := by
  cases key <;> cases other <;> rfl

theorem readPart_comm (hne : key ≠ other) (rule : Rule) (value text : List Char) :
    ((rule.readPart key value).toOption.bind fun next => (next.readPart other text).toOption) =
      (rule.readPart other text).toOption.bind fun next => (next.readPart key value).toOption := by
  rw [readPart_readPart hne, readPart_readPart hne.symm, key.isOtherEnd_comm,
    Bool.or_comm (rule.hasOtherEnd key)]
  cases (blank.readPart key value).toOption with
  | none => cases (blank.readPart other text).toOption <;> rfl
  | some source =>
    cases (blank.readPart other text).toOption with
    | none => rfl
    | some source' =>
      simp only [Option.bind_some, Option.map_some, withField_comm hne]

/-! ### Pieces of text -/

/-- The name of the key of a part, which ends at the first equals sign. -/
def nameOf (piece : List Char) : List Char := piece.takeWhile (· ≠ '=')

/-- The value of a part, behind the first equals sign. -/
def valueOf (piece : List Char) : List Char := (piece.dropWhile (· ≠ '=')).tail

variable {piece : List Char}

theorem readPiece_of_not_mem (h : '=' ∉ piece) (rule : Rule) :
    rule.readPiece piece = .error .rule := by
  rw [readPiece, Text.cut?_eq_ite, if_neg h]

theorem readPiece_of_read? (h : '=' ∈ piece) (hkey : Key.read? (nameOf piece) = some key)
    (rule : Rule) : rule.readPiece piece = rule.readPart key (valueOf piece) := by
  unfold nameOf at hkey
  simp only [readPiece, Text.cut?_eq_ite, if_pos h, hkey]
  rfl

theorem readPiece_of_unknown (h : '=' ∈ piece) (hkey : Key.read? (nameOf piece) = none)
    (rule : Rule) : rule.readPiece piece = .ok rule := by
  unfold nameOf at hkey
  simp only [readPiece, Text.cut?_eq_ite, if_pos h, hkey]

theorem upper_eq_of_read? {name name' : List Char} (h : Key.read? name = some key)
    (h' : Key.read? name' = some key) : Text.upper name = Text.upper name' := by
  have hentry {name : List Char} (h : Key.read? name = some key) :
      ∃ entry ∈ keys, entry.1.toList = Text.upper name ∧ entry.2 = key := by
    obtain ⟨entry, hfind, rfl⟩ := Option.map_eq_some_iff.1 h
    exact ⟨entry, List.mem_of_find?_eq_some hfind, by simpa using List.find?_some hfind, rfl⟩
  have hinj : ∀ entry ∈ keys, ∀ entry' ∈ keys, entry.2 = entry'.2 → entry = entry' := by decide
  obtain ⟨entry, hmem, hname, hkey⟩ := hentry h
  obtain ⟨entry', hmem', hname', hkey'⟩ := hentry h'
  rw [← hname, ← hname', hinj entry hmem entry' hmem' (hkey.trans hkey'.symm)]

theorem readPiece_comm {first second : List Char}
    (hne : Text.upper (nameOf first) ≠ Text.upper (nameOf second)) (rule : Rule) :
    ((rule.readPiece first).toOption.bind fun next => (next.readPiece second).toOption) =
      (rule.readPiece second).toOption.bind fun next => (next.readPiece first).toOption := by
  by_cases hfirst : '=' ∈ first
  · by_cases hsecond : '=' ∈ second
    · cases hkey : Key.read? (nameOf first) with
      | none =>
        simp only [readPiece_of_unknown hfirst hkey]
        exact (Option.bind_fun_some _).symm
      | some key =>
        cases hother : Key.read? (nameOf second) with
        | none =>
          simp only [readPiece_of_unknown hsecond hother]
          exact Option.bind_fun_some _
        | some other =>
          have hkeys : key ≠ other := by
            rintro rfl
            exact hne (upper_eq_of_read? hkey hother)
          simp only [readPiece_of_read? hfirst hkey, readPiece_of_read? hsecond hother]
          exact readPart_comm hkeys rule _ _
    · simp only [readPiece_of_not_mem hsecond]
      exact Option.bind_fun_none _
  · simp only [readPiece_of_not_mem hfirst]
    exact (Option.bind_fun_none _).symm

/-! ### Runs of pieces -/

theorem foldlM_readPiece_perm {pieces others : List (List Char)} (h : pieces.Perm others)
    (hkeys : (pieces.map fun piece => Text.upper (nameOf piece)).Nodup) (rule : Rule) :
    (pieces.foldlM readPiece rule).toOption = (others.foldlM readPiece rule).toOption := by
  rw [toOption_foldlM, toOption_foldlM]
  refine h.foldl_eq' (fun first hfirst second hsecond last => ?_) _
  by_cases heq : first = second
  · rw [heq]
  · have hne := mt (List.inj_on_of_nodup_map hkeys hfirst hsecond) heq
    cases last with
    | none => rfl
    | some rule => exact readPiece_comm hne rule

theorem foldlM_readPiece_filter {pieces : List (List Char)} (h : ∀ piece ∈ pieces, '=' ∈ piece)
    (rule : Rule) :
    (pieces.filter fun piece => (Key.read? (nameOf piece)).isSome).foldlM readPiece rule =
      pieces.foldlM readPiece rule := by
  induction pieces generalizing rule with
  | nil => rfl
  | cons piece pieces ih =>
    obtain ⟨hpiece, hpieces⟩ := List.forall_mem_cons.1 h
    cases hkey : Key.read? (nameOf piece) with
    | none =>
      rw [List.filter_cons_of_neg (by simp [hkey]), List.foldlM_cons,
        readPiece_of_unknown hpiece hkey]
      exact ih hpieces rule
    | some key =>
      rw [List.filter_cons_of_pos (by simp [hkey]), List.foldlM_cons, List.foldlM_cons]
      exact congrArg _ (funext fun next => ih hpieces next)

/-- Whether a rule has no more than one end. -/
def HasOneEnd (rule : Rule) : Prop := rule.count = none ∨ rule.endsAt = none

theorem HasOneEnd.readPart (h : rule.HasOneEnd) (hread : rule.readPart key value = .ok next) :
    next.HasOneEnd := by
  rw [readPart_eq] at hread
  split at hread
  · cases hread
  · next hother =>
    obtain ⟨source, -, rfl⟩ := map_eq_ok_iff.1 hread
    cases key with
    | count =>
      have hnone : rule.endsAt = none := by simpa [hasOtherEnd] using hother
      exact .inr hnone
    | endsAt =>
      have hnone : rule.count = none := by simpa [hasOtherEnd] using hother
      exact .inl hnone
    | _ => exact h

theorem HasOneEnd.readPiece (h : rule.HasOneEnd) (hread : rule.readPiece piece = .ok next) :
    next.HasOneEnd := by
  by_cases hpiece : '=' ∈ piece
  · cases hkey : Key.read? (nameOf piece) with
    | none =>
      rw [readPiece_of_unknown hpiece hkey] at hread
      obtain rfl := Except.ok.inj hread
      exact h
    | some key =>
      rw [readPiece_of_read? hpiece hkey] at hread
      exact h.readPart hread
  · rw [readPiece_of_not_mem hpiece] at hread
    cases hread

theorem HasOneEnd.foldlM_readPiece {pieces : List (List Char)} (h : rule.HasOneEnd)
    (hread : pieces.foldlM Rule.readPiece rule = .ok next) : next.HasOneEnd := by
  induction pieces generalizing rule with
  | nil =>
    obtain rfl := Except.ok.inj hread
    exact h
  | cons piece pieces ih =>
    rw [List.foldlM_cons] at hread
    obtain ⟨middle, hmiddle, hread⟩ := bind_eq_ok_iff.1 hread
    exact ih (h.readPiece hmiddle) hread

/-! ### Texts of parts -/

/-- Parts that are whole, and none of which ends the name of the property, come apart again. -/
theorem pieces_intercalate {parts : List (List Char)} (h : ∀ part ∈ parts, part ≠ [] ∧ ';' ∉ part)
    (hbare : Text.after? "RRULE:".toList ([';'].intercalate parts) = none) :
    pieces ([';'].intercalate parts) = parts := by
  rw [pieces, hbare, Option.getD_none]
  cases parts with
  | nil => rfl
  | cons part parts =>
    rw [Text.fields_intercalate (by simp) fun part hpart => (h part hpart).2, List.filter_eq_self]
    exact fun part hpart => decide_eq_true (h part hpart).1

/-- A part of a rule: a key, an equals sign and a value, in one piece, of a rule whose text does
not begin with the name of the property. -/
structure IsPart (part : String) : Prop where
  equals : '=' ∈ part.toList
  whole : ';' ∉ part.toList
  bare : ¬ "RRULE:".toList <+: part.toList

instance : DecidablePred IsPart := fun part =>
  decidable_of_iff ('=' ∈ part.toList ∧ ';' ∉ part.toList ∧ ¬ "RRULE:".toList <+: part.toList)
    ⟨fun ⟨hequals, hwhole, hbare⟩ => ⟨hequals, hwhole, hbare⟩,
      fun ⟨hequals, hwhole, hbare⟩ => ⟨hequals, hwhole, hbare⟩⟩

theorem after?_intercalate {parts : List String} (h : ∀ part ∈ parts, IsPart part) :
    Text.after? "RRULE:".toList ([';'].intercalate (parts.map String.toList)) = none := by
  cases parts with
  | nil => rfl
  | cons part parts =>
    obtain ⟨hpart, -⟩ := List.forall_mem_cons.1 h
    obtain ⟨rest, hrest⟩ := Text.exists_intercalate_cons_eq ';' part.toList
      (parts.map String.toList)
    rw [List.map_cons, hrest, Option.eq_none_iff_forall_ne_some]
    intro body hbody
    -- the name ends within the first part, or the part within the name
    rcases List.append_eq_append_iff.1 (Text.eq_append_of_after? hbody) with
      ⟨tail, hname, -⟩ | ⟨tail, hname, -⟩
    · have hmem : '=' ∈ "RRULE:".toList := hname ▸ List.mem_append_left _ hpart.equals
      exact absurd hmem (by decide)
    · exact hpart.bare ⟨tail, hname.symm⟩

theorem pieces_of_isPart {parts : List String} (h : ∀ part ∈ parts, IsPart part) :
    pieces (";".intercalate parts).toList = parts.map String.toList := by
  rw [String.toList_intercalate]
  refine pieces_intercalate (fun piece hpiece => ?_) (after?_intercalate h)
  obtain ⟨part, hpart, rfl⟩ := List.mem_map.1 hpiece
  exact ⟨List.ne_nil_of_mem (h part hpart).equals, (h part hpart).whole⟩

theorem toOption_read (s : String) :
    (read s).toOption = ((pieces s.toList).foldlM readPiece blank).toOption := by
  rw [read]
  cases (pieces s.toList).foldlM readPiece blank <;> rfl

theorem mapError_kind_read (s : String) :
    (read s).mapError ReadError.kind = (pieces s.toList).foldlM readPiece blank := by
  rw [read]
  cases (pieces s.toList).foldlM readPiece blank <;> rfl

/-- **The order of parts does not matter.** Parts of different keys, whichever their case, make
the same rule in any order, or none in any; parts of unknown keys may be left out, also when the
rule is refused; and no text at all makes a rule with a count and a last moment. -/
theorem read_parts_anyOrder :
    (∀ parts : List String, (∀ part ∈ parts, IsPart part) →
      ((parts.map fun part => Text.upper (nameOf part.toList)).Nodup →
        ∀ others, parts.Perm others →
          (read (";".intercalate parts)).toOption = (read (";".intercalate others)).toOption) ∧
      (read (";".intercalate
          (parts.filter fun part => (Key.read? (nameOf part.toList)).isSome))).mapError
            ReadError.kind =
        (read (";".intercalate parts)).mapError ReadError.kind) ∧
    ∀ s rule, read s = .ok rule → rule.count = none ∨ rule.endsAt = none := by
  refine ⟨fun parts hparts => ⟨fun hkeys others hperm => ?_, ?_⟩, fun s rule hread => ?_⟩
  · have hothers : ∀ part ∈ others, IsPart part :=
      fun part hpart => hparts part (hperm.mem_iff.2 hpart)
    rw [toOption_read, toOption_read, pieces_of_isPart hparts, pieces_of_isPart hothers]
    refine foldlM_readPiece_perm (hperm.map String.toList) ?_ blank
    rwa [List.map_map]
  · have hknown : ∀ part ∈ parts.filter fun part => (Key.read? (nameOf part.toList)).isSome,
        IsPart part := fun part hpart => hparts part (List.mem_of_mem_filter hpart)
    have hequals : ∀ piece ∈ parts.map String.toList, '=' ∈ piece := by
      intro piece hpiece
      obtain ⟨part, hpart, rfl⟩ := List.mem_map.1 hpiece
      exact (hparts part hpart).equals
    rw [mapError_kind_read, mapError_kind_read, pieces_of_isPart hknown, pieces_of_isPart hparts,
      ← foldlM_readPiece_filter hequals, List.filter_map]
    rfl
  · have hblank : blank.HasOneEnd := .inl rfl
    have hrun := mapError_kind_read s
    rw [hread] at hrun
    exact hblank.foldlM_readPiece hrun.symm

/-- The third day is the last, said in any order, beside a part of a key that is not known. -/
theorem read_parts_anyOrder_threeDays :
    (∃ rule, read "FREQ=DAILY;X-NAME=a=b;count=3" = .ok rule ∧ rule.count = some 3 ∧
      (read "count=3;X-NAME=a=b;FREQ=DAILY").toOption = some rule ∧
      (read "FREQ=DAILY;count=3").mapError ReadError.kind = .ok rule) ∧
    (read "UNTIL=20240105;FREQ=DAILY;COUNT=3").toOption =
      (read "COUNT=3;FREQ=DAILY;UNTIL=20240105").toOption := by
  obtain ⟨hparts, hends⟩ := read_parts_anyOrder
  obtain ⟨horder, hknown⟩ := hparts ["FREQ=DAILY", "X-NAME=a=b", "count=3"] (by decide)
  obtain ⟨hconflict, -⟩ := hparts ["UNTIL=20240105", "FREQ=DAILY", "COUNT=3"] (by decide)
  refine ⟨⟨_, rfl, rfl, ?_, ?_⟩, ?_⟩
  · exact (horder (by decide) ["count=3", "X-NAME=a=b", "FREQ=DAILY"] (by decide)).symm
  · exact hknown
  · exact hconflict (by decide) ["COUNT=3", "FREQ=DAILY", "UNTIL=20240105"] (by decide)

end Recurrence.Rule
