/-
Texts as lists of Unicode scalar values, the blanks that may stand around a
text, and the pair of quotation marks that may.
-/
namespace Commonplace

/-- A text is the list of its Unicode scalar values. -/
abbrev Text := List Char

namespace Text

/-- First and last members of each run of characters that have the Unicode
property `White_Space`. -/
def blankRuns : List (Nat × Nat) :=
  [(0x09, 0x0D), (0x20, 0x20), (0x85, 0x85), (0xA0, 0xA0), (0x1680, 0x1680),
   (0x2000, 0x200A), (0x2028, 0x2029), (0x202F, 0x202F), (0x205F, 0x205F),
   (0x3000, 0x3000)]

/-- A blank is a character with the property `White_Space`. -/
def isBlank (c : Char) : Bool :=
  blankRuns.any fun run => run.1 ≤ c.toNat && c.toNat ≤ run.2

theorem length_dropWhile_le (test : Char → Bool) (t : Text) :
    (t.dropWhile test).length ≤ t.length :=
  (List.dropWhile_sublist test).length_le

/-- The text without the blanks before its first other character and after
its last one. -/
def strip (t : Text) : Text :=
  ((t.dropWhile isBlank).reverse.dropWhile isBlank).reverse

/-- The text between two quotation marks, for a text of two characters or more
that starts and ends with one; any other text as it is. -/
def unquote (t : Text) : Text :=
  match t with
  | '"' :: rest => if rest.getLast? = some '"' then rest.dropLast else t
  | _ => t

/-- The text between two quotation marks. -/
def quoted (t : Text) : Text := '"' :: (t ++ ['"'])

@[simp]
theorem unquote_quoted (t : Text) : unquote (quoted t) = t := by
  simp [unquote, quoted]

/-- A single mark is no pair. -/
example : unquote ['"'] = ['"'] := rfl

/-- The value of a hexadecimal digit in either case. -/
def hexValue? (c : Char) : Option Nat :=
  if '0' ≤ c ∧ c ≤ '9' then some (c.toNat - '0'.toNat)
  else if 'a' ≤ c ∧ c ≤ 'f' then some (c.toNat - 'a'.toNat + 10)
  else if 'A' ≤ c ∧ c ≤ 'F' then some (c.toNat - 'A'.toNat + 10)
  else none

/-- The number of bytes of the UTF-8 form. -/
def byteSize : Text → Nat
  | [] => 0
  | c :: rest => c.utf8Size + byteSize rest

/-- Bytes of the UTF-8 form. -/
def toBytes (t : Text) : ByteArray := (String.ofList t).toByteArray

/-- The text whose UTF-8 form the bytes are, if they are one. -/
def ofBytes? (bytes : ByteArray) : Option Text := bytes.utf8Decode?.map Array.toList

@[simp]
theorem ofBytes?_toBytes (t : Text) : ofBytes? (toBytes t) = some t := by
  rw [ofBytes?, toBytes, String.toByteArray_ofList, List.utf8Decode?_utf8Encode]
  rfl

/-- Only the UTF-8 form of a text is read back as that text. -/
theorem toBytes_eq_of_ofBytes? {bytes : ByteArray} {t : Text}
    (hread : ofBytes? bytes = some t) : toBytes t = bytes := by
  obtain ⟨letters, hletters, rfl⟩ := Option.map_eq_some_iff.1 hread
  have hsome : bytes.utf8Decode?.isSome := by simp [hletters]
  have hback := ByteArray.utf8Encode_get_utf8Decode? (b := bytes) (h := hsome)
  simpa [toBytes, String.toByteArray_ofList, hletters] using hback

end Text

end Commonplace
