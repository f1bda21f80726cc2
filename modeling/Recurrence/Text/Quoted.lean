import Recurrence.Text.Blank
import Recurrence.Text.Unprintable
import Recurrence.Text.Combining
/-!
Text between double quotes, as messages show what could not be read. Quotes, backslashes and the
common control characters have short escapes; other characters that do not stand for themselves
are written by code point.
-/
namespace Recurrence.Text

/-- Whether a character is shown as itself inside quotes. -/
def isPrintable (c : Char) : Bool :=
  if c.toNat < 128 then 32 ≤ c.toNat && c.toNat ≠ 127
  else !inRanges unprintables c.toNat && !inRanges graphemeExtenders c.toNat

/-- The lower-case hexadecimal digits of a code point. -/
def hexDigits (c : Char) : List Char := Nat.toDigits 16 c.toNat

/-- One character of a quoted text. -/
def quotedChar (c : Char) : List Char :=
  match c with
  | '"' => ['\\', '"']
  | '\\' => ['\\', '\\']
  | '\n' => ['\\', 'n']
  | '\r' => ['\\', 'r']
  | '\t' => ['\\', 't']
  | '\x00' => ['\\', '0']
  | c => if isPrintable c then [c] else ['\\', 'u', '\x7b'] ++ hexDigits c ++ ['\x7d']

/-- A text between double quotes. -/
def quoted (s : String) : String :=
  String.ofList ('"' :: (s.toList.flatMap quotedChar ++ ['"']))

example : quoted "a\"b\\\n" = "\"a\\\"b\\\\\\n\"" := by decide +kernel

end Recurrence.Text
