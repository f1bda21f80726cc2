/-!
Decimal numbers in text. `readNat?` takes a non-empty run of ASCII digits and nothing else;
`digits` writes a number without leading zeros and `padded` to a least width.
-/
namespace Recurrence.Text

/-- The number an ASCII digit stands for. -/
def digitValue (c : Char) : Nat := c.toNat - 48

/-- The digit that stands for a number below ten. -/
def digitChar (n : Nat) : Char := Char.ofNat (n + 48)

/-- The number a run of digits stands for, most significant digit first. -/
def digitsValue (cs : List Char) : Nat := cs.foldl (fun n c => 10 * n + digitValue c) 0

/-- Reads a non-empty run of ASCII digits. -/
def readNat? (cs : List Char) : Option Nat :=
  if cs.isEmpty || !cs.all Char.isDigit then none else some (digitsValue cs)

/-- Reads a run of digits whose value fits 32 bits. -/
def readWord? (cs : List Char) : Option UInt32 :=
  match readNat? cs with
  | some n => if n < 4294967296 then some (UInt32.ofNat n) else none
  | none => none

/-- Reads digits with an optional plus sign, for a value of at most `most`. -/
def readUnsigned? (most : Nat) (cs : List Char) : Option Nat :=
  let read := fun ds => (readNat? ds).filter (· ≤ most)
  match cs with
  | '+' :: ds => read ds
  | _ => read cs

/-- Reads digits with an optional sign, for a value from `least` to `most`. -/
def readSigned? (least most : Int) (cs : List Char) : Option Int :=
  let within := fun (i : Int) => least ≤ i ∧ i ≤ most
  match cs with
  | '+' :: ds => ((readNat? ds).map Int.ofNat).filter fun i => within i
  | '-' :: ds => ((readNat? ds).map fun n => -Int.ofNat n).filter fun i => within i
  | _ => ((readNat? cs).map Int.ofNat).filter fun i => within i

/-- The decimal digits of a number, most significant first. -/
def digits (n : Nat) : List Char :=
  if n < 10 then [digitChar n] else digits (n / 10) ++ [digitChar (n % 10)]

/-- The digits of a number behind as many zeros as reach the given width. -/
def padded (width n : Nat) : List Char :=
  List.replicate (width - (digits n).length) '0' ++ digits n

/-- A number in decimal. -/
def natText (n : Nat) : String := String.ofList (digits n)

/-- A number in decimal, at least `width` digits long. -/
def paddedText (width n : Nat) : String := String.ofList (padded width n)

/-- An integer in decimal, with a sign only below zero. -/
def intText (i : Int) : String := if i < 0 then "-" ++ natText i.natAbs else natText i.natAbs

theorem digitsValue_append (xs : List Char) (c : Char) :
    digitsValue (xs ++ [c]) = 10 * digitsValue xs + digitValue c := by
  simp [digitsValue]

theorem digitValue_digitChar (n : Nat) (h : n < 10) : digitValue (digitChar n) = n := by
  have : ∀ m : Fin 10, digitValue (digitChar m) = m := by decide
  exact this ⟨n, h⟩

theorem isDigit_digitChar (n : Nat) (h : n < 10) : (digitChar n).isDigit = true := by
  have : ∀ m : Fin 10, (digitChar m).isDigit = true := by decide
  exact this ⟨n, h⟩

theorem digits_ne_nil (n : Nat) : digits n ≠ [] := by
  unfold digits
  split <;> simp

theorem all_isDigit_digits (n : Nat) : (digits n).all Char.isDigit = true := by
  induction n using Nat.strongRecOn with
  | ind n ih =>
    unfold digits
    split
    · simp [isDigit_digitChar, *]
    · have hm : n % 10 < 10 := Nat.mod_lt _ (by decide)
      have hd := ih (n / 10) (by omega)
      simp only [List.all_append, hd, List.all_cons, isDigit_digitChar _ hm, List.all_nil,
        Bool.and_self]

@[simp] theorem digitsValue_digits (n : Nat) : digitsValue (digits n) = n := by
  induction n using Nat.strongRecOn with
  | ind n ih =>
    unfold digits
    split
    · next h => simp [digitsValue, digitValue_digitChar n h]
    · have hm : n % 10 < 10 := Nat.mod_lt _ (by decide)
      rw [digitsValue_append, ih (n / 10) (by omega), digitValue_digitChar _ hm]
      omega

/-- Reading gives back the number written. -/
@[simp] theorem readNat?_digits (n : Nat) : readNat? (digits n) = some n := by
  simp [readNat?, digits_ne_nil, all_isDigit_digits]

end Recurrence.Text
