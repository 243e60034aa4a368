/-
Texts as JSON strings: their written form, reading a string back, and passing
over one without reading it.  Passing over asks less, since it lets escapes of
unpaired surrogates stand.
-/
import Commonplace.Json.Fault

namespace Commonplace

namespace Json

/-- The escapes that writing uses: short ones where there are any, numbers for
the other characters below U+0020, and none elsewhere. -/
def escape (c : Char) : Text :=
  match c with
  | '"' => ['\\', '"']
  | '\\' => ['\\', '\\']
  | '\x08' => ['\\', 'b']
  | '\x0C' => ['\\', 'f']
  | '\n' => ['\\', 'n']
  | '\r' => ['\\', 'r']
  | '\t' => ['\\', 't']
  | _ =>
    if c.toNat < 0x20 then
      ['\\', 'u', '0', '0', Nat.digitChar (c.toNat / 16), Nat.digitChar (c.toNat % 16)]
    else [c]

/-- The written form of a text. -/
def quote (t : Text) : Text := Text.quoted (t.flatMap escape)

/-- Blanks between the tokens of a JSON text. -/
def isSpace (c : Char) : Bool := c = ' ' || c = '\n' || c = '\t' || c = '\r'

/-- The unread text from its first character that is no space. -/
def skipSpace (s : Text) : Text := s.dropWhile isSpace

theorem skipSpace_length_le (s : Text) : (skipSpace s).length ≤ s.length :=
  Text.length_dropWhile_le isSpace s

def fourHex? (a b c d : Char) : Option Nat := do
  return ((((← Text.hexValue? a) * 16 + (← Text.hexValue? b)) * 16 + (← Text.hexValue? c)) * 16 +
    (← Text.hexValue? d))

/-- The fault where four hexadecimal digits should be.  Four bytes are taken
whatever they are; only when there are fewer has the string come to its end. -/
def unitFault (s : Text) : Fault :=
  if Text.byteSize (s.take 4) < 4 then .atEnd .endInString
  else ⟨.invalidEscape, s, 4⟩

/-- Four hexadecimal digits. -/
def readUnit (s : Text) : Except Fault (Nat × Text) :=
  match s with
  | a :: b :: c :: d :: rest =>
    match fourHex? a b c d with
    | some unit => .ok (unit, rest)
    | none => .error (unitFault s)
  | _ => .error (unitFault s)

theorem readUnit_length {s rest : Text} {unit : Nat}
    (hread : readUnit s = .ok (unit, rest)) : rest.length < s.length := by
  unfold readUnit at hread
  split at hread
  · split at hread
    · simp only [Except.ok.injEq, Prod.mk.injEq] at hread
      obtain ⟨-, rfl⟩ := hread
      simp only [List.length_cons]
      omega
    · simp at hread
  · simp at hread

def isLeading (unit : Nat) : Bool := 0xD800 ≤ unit && unit ≤ 0xDBFF

def isTrailing (unit : Nat) : Bool := 0xDC00 ≤ unit && unit ≤ 0xDFFF

/-- The character of a pair of surrogates. -/
def pairChar (leading trailing : Nat) : Char :=
  Char.ofNat (0x10000 + (leading - 0xD800) * 0x400 + (trailing - 0xDC00))

/-- The character that one numbered escape gives, or two of them when the first
is a leading surrogate, after the letter `u`. -/
def readNumbered (s : Text) : Except Fault (Char × Text) :=
  match readUnit s with
  | .error fault => .error fault
  | .ok (unit, rest) =>
    if isTrailing unit then .error (.behind .loneSurrogate rest)
    else if !isLeading unit then .ok (Char.ofNat unit, rest)
    else match rest with
      | [] => .error (.atEnd .endInString)
      | ['\\'] => .error (.atEnd .endInString)
      | '\\' :: 'u' :: more =>
        match readUnit more with
        | .error fault => .error fault
        | .ok (second, rest) =>
          if isTrailing second then .ok (pairChar unit second, rest)
          else .error (.behind .loneSurrogate rest)
      | '\\' :: other => .error (.looking .endInEscape other)
      | other => .error (.looking .endInEscape other)

theorem except_map_eq_ok {ε α β : Type} {f : α → β} {result : Except ε α} {value : β}
    (hmap : result.map f = .ok value) : ∃ found, result = .ok found ∧ f found = value := by
  cases result with
  | error fault => simp [Except.map] at hmap
  | ok found => exact ⟨found, rfl, by simpa [Except.map] using hmap⟩

/-- The character of an escape that is one letter. -/
def shortEscape? (c : Char) : Option Char :=
  match c with
  | '"' => some '"'
  | '\\' => some '\\'
  | '/' => some '/'
  | 'b' => some '\x08'
  | 'f' => some '\x0C'
  | 'n' => some '\n'
  | 'r' => some '\r'
  | 't' => some '\t'
  | _ => none

/-- The next character of a string, or nothing at its closing mark. -/
def readLetter (s : Text) : Except Fault (Option Char × Text) :=
  match s with
  | [] => .error (.atEnd .endInString)
  | '"' :: rest => .ok (none, rest)
  | '\\' :: escaped =>
    match escaped with
    | [] => .error (.atEnd .endInString)
    | 'u' :: rest => (readNumbered rest).map fun (c, rest) => (some c, rest)
    | c :: rest =>
      match shortEscape? c with
      | some meant => .ok (some meant, rest)
      | none => .error (.looking .invalidEscape escaped)
  | c :: rest =>
    if c.toNat < 0x20 then .error (.looking .controlCharacter s) else .ok (some c, rest)

theorem readNumbered_length {s rest : Text} {c : Char}
    (hread : readNumbered s = .ok (c, rest)) : rest.length < s.length := by
  unfold readNumbered at hread
  split at hread
  · simp at hread
  · next unit more hunit =>
    have hmore := readUnit_length hunit
    split at hread
    · simp at hread
    split at hread
    · simp only [Except.ok.injEq, Prod.mk.injEq] at hread
      obtain ⟨-, rfl⟩ := hread
      omega
    split at hread
    · simp at hread
    · simp at hread
    · split at hread
      · simp at hread
      · next hsecond =>
        have hlast := readUnit_length hsecond
        split at hread
        · simp only [Except.ok.injEq, Prod.mk.injEq, List.length_cons] at hread hmore
          obtain ⟨-, rfl⟩ := hread
          omega
        · simp at hread
    · simp at hread
    · simp at hread

theorem readLetter_length {s rest : Text} {letter : Option Char}
    (hread : readLetter s = .ok (letter, rest)) : rest.length < s.length := by
  unfold readLetter at hread
  split at hread
  · simp at hread
  · simp only [Except.ok.injEq, Prod.mk.injEq] at hread
    simp [hread.2]
  · split at hread
    · simp at hread
    · next more =>
      cases hnumbered : readNumbered more with
      | error fault => simp [hnumbered, Except.map] at hread
      | ok found =>
        obtain ⟨c, after⟩ := found
        have hafter := readNumbered_length hnumbered
        simp only [hnumbered, Except.map, Except.ok.injEq, Prod.mk.injEq] at hread
        obtain ⟨-, rfl⟩ := hread
        simp only [List.length_cons]
        omega
    · split at hread
      · simp only [Except.ok.injEq, Prod.mk.injEq] at hread
        obtain ⟨-, rfl⟩ := hread
        simp only [List.length_cons]
        omega
      · simp at hread
  · split at hread
    · simp at hread
    · simp only [Except.ok.injEq, Prod.mk.injEq] at hread
      simp [hread.2]

/-- The content of a string and what follows it, after its opening mark. -/
def readString (s : Text) : Except Fault (Text × Text) :=
  match _hletter : readLetter s with
  | .error fault => .error fault
  | .ok (none, rest) => .ok ([], rest)
  | .ok (some c, rest) =>
    match readString rest with
    | .error fault => .error fault
    | .ok (content, rest) => .ok (c :: content, rest)
termination_by s.length
decreasing_by exact readLetter_length _hletter

theorem readString_length {s content rest : Text}
    (hread : readString s = .ok (content, rest)) : rest.length < s.length := by
  fun_induction readString s generalizing content rest with
  | case1 => simp at hread
  | case2 s after hletter =>
    have hafter := readLetter_length hletter
    simp only [Except.ok.injEq, Prod.mk.injEq] at hread
    obtain ⟨-, rfl⟩ := hread
    omega
  | case3 => simp at hread
  | case4 s c after hletter found final hstring ih =>
    have hafter := readLetter_length hletter
    have hfinal := ih hstring
    simp only [Except.ok.injEq, Prod.mk.injEq] at hread
    obtain ⟨-, rfl⟩ := hread
    omega

/-- One step over a string that is not read: whether it has ended, and the
rest.  A control character is complained of where it stands. -/
def skipLetter (s : Text) : Except Fault (Bool × Text) :=
  match s with
  | [] => .error (.atEnd .endInString)
  | '"' :: rest => .ok (true, rest)
  | '\\' :: escaped =>
    match escaped with
    | [] => .error (.atEnd .endInString)
    | 'u' :: rest => (readUnit rest).map fun (_, rest) => (false, rest)
    | c :: rest =>
      if (shortEscape? c).isSome then .ok (false, rest)
      else .error (.looking .invalidEscape escaped)
  | c :: rest =>
    if c.toNat < 0x20 then .error (.behind .controlCharacter s) else .ok (false, rest)

theorem skipLetter_length {s rest : Text} {ended : Bool}
    (hskip : skipLetter s = .ok (ended, rest)) : rest.length < s.length := by
  unfold skipLetter at hskip
  split at hskip
  · simp at hskip
  · simp only [Except.ok.injEq, Prod.mk.injEq] at hskip
    simp [hskip.2]
  · split at hskip
    · simp at hskip
    · next more =>
      cases hunit : readUnit more with
      | error fault => simp [hunit, Except.map] at hskip
      | ok found =>
        obtain ⟨unit, after⟩ := found
        have hafter := readUnit_length hunit
        simp only [hunit, Except.map, Except.ok.injEq, Prod.mk.injEq] at hskip
        obtain ⟨-, rfl⟩ := hskip
        simp only [List.length_cons]
        omega
    · split at hskip
      · simp only [Except.ok.injEq, Prod.mk.injEq] at hskip
        obtain ⟨-, rfl⟩ := hskip
        simp only [List.length_cons]
        omega
      · simp at hskip
  · split at hskip
    · simp at hskip
    · simp only [Except.ok.injEq, Prod.mk.injEq] at hskip
      simp [hskip.2]

/-- What follows a string, after its opening mark. -/
def skipString (s : Text) : Except Fault Text :=
  match _hletter : skipLetter s with
  | .error fault => .error fault
  | .ok (true, rest) => .ok rest
  | .ok (false, rest) => skipString rest
termination_by s.length
decreasing_by exact skipLetter_length _hletter

theorem skipString_length {s rest : Text} (hskip : skipString s = .ok rest) :
    rest.length < s.length := by
  fun_induction skipString s with
  | case1 => simp at hskip
  | case2 s after hletter =>
    have hafter := skipLetter_length hletter
    obtain rfl := Except.ok.inj hskip
    omega
  | case3 s after hletter ih =>
    have hafter := skipLetter_length hletter
    have hrest := ih hskip
    omega

end Json

end Commonplace
