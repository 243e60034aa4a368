/-
The grammar of JSON strings: every way to write a character, and the texts that can
stand between two marks.  Reading a string accepts exactly the ways to write its
content, and passing over one stops at its own mark.
-/
import Mathlib.Data.List.Basic
import Commonplace.Json.Quoted

namespace Commonplace

namespace Json

/-- The letters that have a meaning of their own behind a backslash, each with that
meaning. -/
def shortEscapes : List (Char × Char) :=
  [('"', '"'), ('\\', '\\'), ('/', '/'), ('b', '\x08'), ('f', '\x0C'), ('n', '\n'),
    ('r', '\r'), ('t', '\t')]

/-- A character that can stand for itself. -/
structure Plain (c : Char) : Prop where
  printable : 0x20 ≤ c.toNat
  no_mark : c ≠ '"'
  no_backslash : c ≠ '\\'

/-- Four hexadecimal digits, in either case, and their number. -/
inductive FourDigits : Nat → Text → Prop
  | digits {a b c d : Char} {n : Nat} (value : fourHex? a b c d = some n) :
    FourDigits n [a, b, c, d]

/-- The ways to write a character.  One whose number is too large for four digits is
written by its two surrogates. -/
inductive Spelled : Char → Text → Prop
  | plain {c : Char} (hplain : Plain c) : Spelled c [c]
  | short {letter c : Char} (hshort : (letter, c) ∈ shortEscapes) : Spelled c ['\\', letter]
  | numbered {c : Char} {number : Text} (hnumber : FourDigits c.toNat number) :
    Spelled c ('\\' :: 'u' :: number)
  | paired {c : Char} {leading trailing : Text} (hlarge : 0x10000 ≤ c.toNat)
    (hleading : FourDigits (0xD800 + (c.toNat - 0x10000) / 0x400) leading)
    (htrailing : FourDigits (0xDC00 + (c.toNat - 0x10000) % 0x400) trailing) :
    Spelled c ('\\' :: 'u' :: leading ++ '\\' :: 'u' :: trailing)

/-- The ways to write a text between two marks. -/
inductive Spells : Text → Text → Prop
  | nil : Spells [] []
  | cons {c : Char} {t one written : Text} (first : Spelled c one) (rest : Spells t written) :
    Spells (c :: t) (one ++ written)

/-- A letter of a string.  A numbered one may be half of a pair. -/
inductive Letter : Text → Prop
  | plain {c : Char} (hplain : Plain c) : Letter [c]
  | short {letter c : Char} (hshort : (letter, c) ∈ shortEscapes) : Letter ['\\', letter]
  | numbered {n : Nat} {number : Text} (hnumber : FourDigits n number) :
    Letter ('\\' :: 'u' :: number)

/-- What can stand between two marks. -/
inductive Letters : Text → Prop
  | nil : Letters []
  | cons {one written : Text} (first : Letter one) (rest : Letters written) :
    Letters (one ++ written)

/-- A text between marks, with what follows the second one. -/
theorem quoted_append (t rest : Text) : Text.quoted t ++ rest = '"' :: (t ++ '"' :: rest) := by
  simp [Text.quoted]

theorem shortEscape?_eq_some_iff {letter c : Char} :
    shortEscape? letter = some c ↔ (letter, c) ∈ shortEscapes := by
  constructor
  · intro hmeant
    unfold shortEscape? at hmeant
    split at hmeant <;> simp_all [shortEscapes, eq_comm]
  · intro hmem
    simp only [shortEscapes, List.mem_cons, Prod.mk.injEq, List.not_mem_nil, or_false] at hmem
    rcases hmem with ⟨rfl, rfl⟩ | ⟨rfl, rfl⟩ | ⟨rfl, rfl⟩ | ⟨rfl, rfl⟩ | ⟨rfl, rfl⟩ |
      ⟨rfl, rfl⟩ | ⟨rfl, rfl⟩ | ⟨rfl, rfl⟩ <;> rfl

theorem ne_u_of_short {letter c : Char} (hshort : (letter, c) ∈ shortEscapes) :
    letter ≠ 'u' := by
  rintro rfl
  have hnone : shortEscape? 'u' = none := by rfl
  rw [shortEscape?_eq_some_iff.2 hshort] at hnone
  contradiction

/-- The digits of either case, and their values. -/
theorem hexValue?_eq_some_cases {c : Char} {v : Nat} (hvalue : Text.hexValue? c = some v) :
    (48 ≤ c.toNat ∧ c.toNat ≤ 57 ∧ v = c.toNat - 48) ∨
    (97 ≤ c.toNat ∧ c.toNat ≤ 102 ∧ v = c.toNat - 97 + 10) ∨
    (65 ≤ c.toNat ∧ c.toNat ≤ 70 ∧ v = c.toNat - 65 + 10) := by
  have hle : ∀ d e : Char, d ≤ e → d.toNat ≤ e.toNat := fun d e hde => hde
  rw [Text.hexValue?] at hvalue
  split at hvalue
  · next hc =>
    exact Or.inl ⟨hle _ _ hc.1, hle _ _ hc.2, (Option.some.inj hvalue).symm⟩
  · split at hvalue
    · next hc =>
      exact Or.inr (Or.inl ⟨hle _ _ hc.1, hle _ _ hc.2, (Option.some.inj hvalue).symm⟩)
    · split at hvalue
      · next hc =>
        exact Or.inr (Or.inr ⟨hle _ _ hc.1, hle _ _ hc.2, (Option.some.inj hvalue).symm⟩)
      · simp at hvalue

theorem hexValue?_lt {c : Char} {v : Nat} (hvalue : Text.hexValue? c = some v) : v < 16 := by
  have hcases := hexValue?_eq_some_cases hvalue
  omega

theorem FourDigits.lt {n : Nat} {number : Text} (hnumber : FourDigits n number) :
    n < 0x10000 := by
  obtain ⟨value⟩ := hnumber
  simp only [fourHex?, Option.bind_eq_bind, Option.bind_eq_some_iff, Option.pure_def,
    Option.some.injEq] at value
  obtain ⟨p, hp, q, hq, r, hr, s, hs, rfl⟩ := value
  have hp := hexValue?_lt hp
  have hq := hexValue?_lt hq
  have hr := hexValue?_lt hr
  have hs := hexValue?_lt hs
  omega

/-- No character is a surrogate. -/
theorem toNat_bounds (c : Char) :
    c.toNat < 0xD800 ∨ 0xDFFF < c.toNat ∧ c.toNat < 0x110000 := by
  have hvalid : c.toNat.isValidChar := c.valid
  simpa only [Nat.isValidChar] using hvalid

theorem toNat_ofNat_of_bounds {n : Nat}
    (hn : n < 0xD800 ∨ 0xDFFF < n ∧ n < 0x110000) : (Char.ofNat n).toNat = n := by
  have hvalid : n.isValidChar := by simpa only [Nat.isValidChar] using hn
  rw [Char.ofNat, dif_pos hvalid]
  rfl

theorem readUnit_digits {n : Nat} {number : Text} (hnumber : FourDigits n number)
    (rest : Text) : readUnit (number ++ rest) = .ok (n, rest) := by
  obtain ⟨value⟩ := hnumber
  simp [readUnit, value]

theorem readUnit_eq_ok {s rest : Text} {n : Nat} (hread : readUnit s = .ok (n, rest)) :
    ∃ number, FourDigits n number ∧ s = number ++ rest := by
  revert hread
  fun_cases readUnit s with
  | case1 a b c d more unit hvalue =>
    intro hread
    obtain ⟨rfl, rfl⟩ := Prod.mk.inj (Except.ok.inj hread)
    exact ⟨_, .digits hvalue, rfl⟩
  | case2 => intro hread; contradiction
  | case3 => intro hread; contradiction

theorem isLeading_iff {unit : Nat} : isLeading unit = true ↔ 0xD800 ≤ unit ∧ unit ≤ 0xDBFF := by
  simp [isLeading]

theorem isTrailing_iff {unit : Nat} :
    isTrailing unit = true ↔ 0xDC00 ≤ unit ∧ unit ≤ 0xDFFF := by
  simp [isTrailing]

theorem readNumbered_single {c : Char} {number : Text} (hnumber : FourDigits c.toNat number)
    (rest : Text) : readNumbered (number ++ rest) = .ok (c, rest) := by
  have hbounds := toNat_bounds c
  have htrailing : ¬ isTrailing c.toNat = true := by
    rw [isTrailing_iff]
    omega
  have hleading : ¬ isLeading c.toNat = true := by
    rw [isLeading_iff]
    omega
  simp [readNumbered, readUnit_digits hnumber, htrailing, hleading]

theorem readNumbered_pair {c : Char} {leading trailing : Text} (hlarge : 0x10000 ≤ c.toNat)
    (hleading : FourDigits (0xD800 + (c.toNat - 0x10000) / 0x400) leading)
    (htrailing : FourDigits (0xDC00 + (c.toNat - 0x10000) % 0x400) trailing) (rest : Text) :
    readNumbered (leading ++ '\\' :: 'u' :: (trailing ++ rest)) = .ok (c, rest) := by
  have hbounds := toNat_bounds c
  have hfirst : ¬ isTrailing (0xD800 + (c.toNat - 0x10000) / 0x400) = true := by
    rw [isTrailing_iff]
    omega
  have hopen : isLeading (0xD800 + (c.toNat - 0x10000) / 0x400) = true := by
    rw [isLeading_iff]
    omega
  have hsecond : isTrailing (0xDC00 + (c.toNat - 0x10000) % 0x400) = true := by
    rw [isTrailing_iff]
    omega
  have hpair : pairChar (0xD800 + (c.toNat - 0x10000) / 0x400)
      (0xDC00 + (c.toNat - 0x10000) % 0x400) = c := by
    have hnumber : 0x10000 + (0xD800 + (c.toNat - 0x10000) / 0x400 - 0xD800) * 0x400 +
        (0xDC00 + (c.toNat - 0x10000) % 0x400 - 0xDC00) = c.toNat := by omega
    rw [pairChar, hnumber, Char.ofNat_toNat]
  simp [readNumbered, readUnit_digits hleading, readUnit_digits htrailing, hfirst, hopen,
    hsecond, hpair]

/-- The two surrogates of a pair are those of its character. -/
theorem toNat_pairChar {leading trailing : Nat} (hleading : isLeading leading = true)
    (htrailing : isTrailing trailing = true) :
    (pairChar leading trailing).toNat =
      0x10000 + (leading - 0xD800) * 0x400 + (trailing - 0xDC00) := by
  rw [isLeading_iff] at hleading
  rw [isTrailing_iff] at htrailing
  exact toNat_ofNat_of_bounds (by omega)

/-- A numbered character is written by its own number or by its two surrogates. -/
theorem readNumbered_eq_ok {s rest : Text} {c : Char}
    (hread : readNumbered s = .ok (c, rest)) :
    ∃ written, Spelled c ('\\' :: 'u' :: written) ∧ s = written ++ rest := by
  revert hread
  fun_cases readNumbered s with
  | case3 unit more hunit htrailing hleading =>
    intro hread
    obtain ⟨rfl, rfl⟩ := Prod.mk.inj (Except.ok.inj hread)
    obtain ⟨number, hnumber, rfl⟩ := readUnit_eq_ok hunit
    have hlt := hnumber.lt
    simp only [Bool.not_eq_true'] at hleading
    rw [isTrailing_iff] at htrailing
    rw [← Bool.not_eq_true, isLeading_iff] at hleading
    have hback : (Char.ofNat unit).toNat = unit := toNat_ofNat_of_bounds (by omega)
    exact ⟨number, .numbered (hback.symm ▸ hnumber), rfl⟩
  | case7 leading hsingle hopen more trailing after hsecond htrailing hfirst =>
    intro hread
    obtain ⟨rfl, rfl⟩ := Prod.mk.inj (Except.ok.inj hread)
    obtain ⟨first, hnumber, rfl⟩ := readUnit_eq_ok hfirst
    obtain ⟨second, hlast, rfl⟩ := readUnit_eq_ok hsecond
    have hleading : isLeading leading = true := by simpa using hopen
    have hpair := toNat_pairChar hleading htrailing
    rw [isLeading_iff] at hleading
    rw [isTrailing_iff] at htrailing
    have hhigh : 0xD800 + ((pairChar leading trailing).toNat - 0x10000) / 0x400 = leading := by
      omega
    have hlow : 0xDC00 + ((pairChar leading trailing).toNat - 0x10000) % 0x400 = trailing := by
      omega
    refine ⟨first ++ '\\' :: 'u' :: second, ?_, by simp⟩
    exact .paired (by omega) (hhigh.symm ▸ hnumber) (hlow.symm ▸ hlast)
  | _ => intro hread; contradiction

theorem Plain.readLetter {c : Char} (hc : Plain c) (rest : Text) :
    readLetter (c :: rest) = .ok (some c, rest) := by
  have hlow : ¬ c.toNat < 0x20 := Nat.not_lt.2 hc.printable
  rw [Json.readLetter, if_neg hlow]
  · exact hc.no_mark
  · exact hc.no_backslash

theorem readLetter_short {letter c : Char} (hshort : (letter, c) ∈ shortEscapes)
    (rest : Text) : readLetter ('\\' :: letter :: rest) = .ok (some c, rest) := by
  have hu := ne_u_of_short hshort
  rw [← shortEscape?_eq_some_iff] at hshort
  simp [readLetter, hshort]

theorem readLetter_spelled {c : Char} {written : Text} (hspelled : Spelled c written)
    (rest : Text) : readLetter (written ++ rest) = .ok (some c, rest) := by
  cases hspelled with
  | plain hplain => exact hplain.readLetter rest
  | short hshort => exact readLetter_short hshort rest
  | numbered hnumber => simp [readLetter, readNumbered_single hnumber, Except.map]
  | paired hlarge hleading htrailing =>
    simp [readLetter, readNumbered_pair hlarge hleading htrailing, Except.map]

/-- What is read of a string at once: its end, or a way to write one character. -/
theorem readLetter_eq_ok_cases {s rest : Text} {letter : Option Char}
    (hread : readLetter s = .ok (letter, rest)) :
    (letter = none ∧ s = '"' :: rest) ∨
      ∃ c written, letter = some c ∧ Spelled c written ∧ s = written ++ rest := by
  revert hread
  fun_cases readLetter s with
  | case2 more =>
    intro hread
    obtain ⟨rfl, rfl⟩ := Prod.mk.inj (Except.ok.inj hread)
    exact Or.inl ⟨rfl, rfl⟩
  | case4 more =>
    intro hread
    obtain ⟨⟨c, after⟩, hnumbered, hfound⟩ := except_map_eq_ok hread
    obtain ⟨rfl, rfl⟩ := Prod.mk.inj hfound
    obtain ⟨written, hspelled, rfl⟩ := readNumbered_eq_ok hnumbered
    exact Or.inr ⟨c, _, rfl, hspelled, rfl⟩
  | case5 escaped more hu c hshort =>
    intro hread
    obtain ⟨rfl, rfl⟩ := Prod.mk.inj (Except.ok.inj hread)
    exact Or.inr ⟨c, _, rfl, .short (shortEscape?_eq_some_iff.1 hshort), rfl⟩
  | case8 c more hmark hbackslash hlow =>
    intro hread
    obtain ⟨rfl, rfl⟩ := Prod.mk.inj (Except.ok.inj hread)
    exact Or.inr ⟨c, [c], rfl, .plain ⟨Nat.not_lt.1 hlow, hmark, hbackslash⟩, rfl⟩
  | _ => intro hread; contradiction

theorem readString_of_end {s rest : Text} (hletter : readLetter s = .ok (none, rest)) :
    readString s = .ok ([], rest) := by
  rw [readString]
  split <;> simp_all

theorem readString_of_letter {s rest : Text} {c : Char}
    (hletter : readLetter s = .ok (some c, rest)) :
    readString s = (readString rest).map fun (t, rest) => (c :: t, rest) := by
  rw [readString]
  split
  · simp_all
  · simp_all
  · next found after hfound =>
    obtain ⟨hc, rfl⟩ := Prod.mk.inj (Except.ok.inj (hletter.symm.trans hfound))
    obtain rfl := Option.some.inj hc
    cases readString rest <;> rfl

theorem readString_spells {t written : Text} (hspells : Spells t written) (rest : Text) :
    readString (written ++ '"' :: rest) = .ok (t, rest) := by
  induction hspells with
  | nil => exact readString_of_end rfl
  | cons first others ih =>
    rw [List.append_assoc, readString_of_letter (readLetter_spelled first _), ih]
    rfl

/-- A string is read exactly up to the mark behind a way to write its content. -/
theorem readString_eq_ok_iff {s t rest : Text} :
    readString s = .ok (t, rest) ↔ ∃ written, Spells t written ∧ s = written ++ '"' :: rest := by
  constructor
  · intro hread
    fun_induction readString s generalizing t rest with
    | case1 => contradiction
    | case2 s after hletter =>
      obtain ⟨rfl, rfl⟩ := Prod.mk.inj (Except.ok.inj hread)
      rcases readLetter_eq_ok_cases hletter with ⟨-, rfl⟩ | ⟨c, written, hsome, -⟩
      · exact ⟨[], .nil, rfl⟩
      · contradiction
    | case3 => contradiction
    | case4 s c after hletter content final hstring ih =>
      obtain ⟨rfl, rfl⟩ := Prod.mk.inj (Except.ok.inj hread)
      rcases readLetter_eq_ok_cases hletter with ⟨hnone, -⟩ | ⟨d, one, hsome, hone, rfl⟩
      · contradiction
      · obtain rfl := Option.some.inj hsome
        obtain ⟨written, hspells, rfl⟩ := ih hstring
        exact ⟨one ++ written, .cons hone hspells, by simp⟩
  · rintro ⟨written, hspells, rfl⟩
    exact readString_spells hspells rest

/-- No two texts are written alike. -/
theorem Spells.unique {t u written : Text} (ht : Spells t written) (hu : Spells u written) :
    t = u := by
  have hread := (readString_spells ht []).symm.trans (readString_spells hu [])
  exact (Prod.mk.inj (Except.ok.inj hread)).1

theorem Letters.append {left right : Text} (hleft : Letters left) (hright : Letters right) :
    Letters (left ++ right) := by
  induction hleft with
  | nil => exact hright
  | cons first rest ih =>
    rw [List.append_assoc]
    exact .cons first ih

theorem Letter.letters {one : Text} (hone : Letter one) : Letters one := by
  have hcons := Letters.cons hone .nil
  rwa [List.append_nil] at hcons

theorem Spelled.letters {c : Char} {written : Text} (hspelled : Spelled c written) :
    Letters written := by
  cases hspelled with
  | plain hplain => exact (Letter.plain hplain).letters
  | short hshort => exact (Letter.short hshort).letters
  | numbered hnumber => exact (Letter.numbered hnumber).letters
  | paired hlarge hleading htrailing =>
    exact (Letter.numbered hleading).letters.append (Letter.numbered htrailing).letters

theorem Spells.letters {t written : Text} (hspells : Spells t written) : Letters written := by
  induction hspells with
  | nil => exact .nil
  | cons first rest ih => exact first.letters.append ih

theorem skipLetter_letter {one : Text} (hone : Letter one) (rest : Text) :
    skipLetter (one ++ rest) = .ok (false, rest) := by
  cases hone with
  | @plain c hplain =>
    have hlow : ¬ c.toNat < 0x20 := Nat.not_lt.2 hplain.printable
    rw [List.singleton_append, skipLetter, if_neg hlow]
    · exact hplain.no_mark
    · exact hplain.no_backslash
  | short hshort =>
    have hu := ne_u_of_short hshort
    rw [← shortEscape?_eq_some_iff] at hshort
    simp [skipLetter, hshort]
  | numbered hnumber => simp [skipLetter, readUnit_digits hnumber, Except.map]

theorem skipString_of_end {s rest : Text} (hletter : skipLetter s = .ok (true, rest)) :
    skipString s = .ok rest := by
  rw [skipString]
  split <;> simp_all

theorem skipString_of_letter {s rest : Text} (hletter : skipLetter s = .ok (false, rest)) :
    skipString s = skipString rest := by
  rw [skipString]
  split <;> simp_all

/-- Passing over a string stops behind its own mark. -/
theorem skipString_letters {written : Text} (hletters : Letters written) (rest : Text) :
    skipString (written ++ '"' :: rest) = .ok rest := by
  induction hletters with
  | nil => exact skipString_of_end rfl
  | cons first others ih =>
    rw [List.append_assoc, skipString_of_letter (skipLetter_letter first _), ih]

/-- A string ends at one mark only. -/
theorem Letters.cancel {left right before after : Text} (hleft : Letters left)
    (hright : Letters right) (heq : left ++ '"' :: before = right ++ '"' :: after) :
    left = right ∧ before = after := by
  have hskip := skipString_letters hleft before
  rw [heq, skipString_letters hright after] at hskip
  obtain rfl := Except.ok.inj hskip
  exact ⟨List.append_cancel_right heq, rfl⟩

theorem hexValue?_digitChar : ∀ v < 16, Text.hexValue? (Nat.digitChar v) = some v := by
  decide

theorem fourDigits_control {n : Nat} (hn : n < 0x20) :
    FourDigits n ['0', '0', Nat.digitChar (n / 16), Nat.digitChar (n % 16)] := by
  have hzero : Text.hexValue? '0' = some 0 := by rfl
  have hhigh := hexValue?_digitChar (n / 16) (by omega)
  have hlow := hexValue?_digitChar (n % 16) (by omega)
  refine .digits ?_
  simp only [fourHex?, hzero, hhigh, hlow, Option.bind_eq_bind, Option.bind_some,
    Option.pure_def, Option.some.injEq]
  omega

/-- The way in which a character is written is one of those that it can be. -/
theorem spelled_escape (c : Char) : Spelled c (escape c) := by
  fun_cases escape c with
  | case8 c hlow =>
    rw [if_pos hlow]
    exact .numbered (fourDigits_control hlow)
  | case9 c hlow hmark hbackslash =>
    rw [if_neg hlow]
    exact .plain ⟨Nat.not_lt.1 hlow, hmark, hbackslash⟩
  | _ => exact .short (by decide)

theorem spells_escape (t : Text) : Spells t (t.flatMap escape) := by
  induction t with
  | nil => exact .nil
  | cons c t ih => exact .cons (spelled_escape c) ih

theorem printable_of_hexValue? {c : Char} {v : Nat} (hvalue : Text.hexValue? c = some v) :
    0x20 ≤ c.toNat := by
  have hcases := hexValue?_eq_some_cases hvalue
  omega

theorem FourDigits.printable {n : Nat} {number : Text} (hnumber : FourDigits n number) :
    ∀ c ∈ number, 0x20 ≤ c.toNat := by
  obtain ⟨value⟩ := hnumber
  simp only [fourHex?, Option.bind_eq_bind, Option.bind_eq_some_iff] at value
  obtain ⟨p, hp, q, hq, r, hr, s, hs, -⟩ := value
  simp only [List.mem_cons, List.not_mem_nil, or_false]
  rintro c (rfl | rfl | rfl | rfl)
  · exact printable_of_hexValue? hp
  · exact printable_of_hexValue? hq
  · exact printable_of_hexValue? hr
  · exact printable_of_hexValue? hs

theorem Letter.printable {one : Text} (hone : Letter one) : ∀ c ∈ one, 0x20 ≤ c.toNat := by
  have hbackslash : 0x20 ≤ '\\'.toNat := by decide
  cases hone with
  | plain hplain => simpa using hplain.printable
  | @short letter c hshort =>
    have hall : ∀ pair ∈ shortEscapes, 0x20 ≤ pair.1.toNat := by decide
    simpa [hbackslash] using hall (letter, c) hshort
  | numbered hnumber =>
    have hu : 0x20 ≤ 'u'.toNat := by decide
    intro d hd
    rcases List.mem_cons.1 hd with rfl | hd
    · exact hbackslash
    · rcases List.mem_cons.1 hd with rfl | hd
      · exact hu
      · exact hnumber.printable d hd

/-- No string holds a control character. -/
theorem Letters.printable {written : Text} (hletters : Letters written) :
    ∀ c ∈ written, 0x20 ≤ c.toNat := by
  induction hletters with
  | nil => simp
  | cons first rest ih =>
    intro c hc
    rcases List.mem_append.1 hc with hc | hc
    · exact first.printable c hc
    · exact ih c hc

end Json

end Commonplace
