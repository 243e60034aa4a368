/-
Texts shown between quotation marks in messages and notes, with everything that
would not be seen there written as an escape.
-/
import Commonplace.Text
import Commonplace.Text.Hidden

namespace Commonplace

namespace Text

/-- Digits of a number, tens base. -/
def ofNat (n : Nat) : Text := Nat.toDigits 10 n

/-- Marks and the four characters with letters of their own are escaped by one
character, other characters that are not shown as themselves by their number. -/
def shownChar (c : Char) : Text :=
  match c with
  | '\x00' => ['\\', '0']
  | '\t' => ['\\', 't']
  | '\n' => ['\\', 'n']
  | '\r' => ['\\', 'r']
  | '"' => ['\\', '"']
  | '\\' => ['\\', '\\']
  | _ =>
    if c.toNat < 0x20 || (0x7F ≤ c.toNat && Hidden.holds c.toNat) then
      ['\\', 'u', '{'] ++ Nat.toDigits 16 c.toNat ++ ['}']
    else [c]

/-- The text between quotation marks, with escapes. -/
def shown (t : Text) : Text := quoted (t.flatMap shownChar)

end Text

example : Text.shown ['a', '"', '\n', '\x01', 'é', '\u00AD'] =
    "\"a\\\"\\n\\u\x7b1\x7dé\\u\x7bad\x7d\"".toList := by decide

end Commonplace
