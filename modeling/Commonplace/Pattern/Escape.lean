/-
The manner in which a part of a pattern is meant, the blanks and comments that may
stand between parts, and single characters, plain or behind a backslash.
-/
import Commonplace.Text

namespace Commonplace

namespace Pattern

/-- How a part of a pattern is meant: whether case counts for nothing, whether the
part describes characters rather than bytes, and whether blanks and comments may
stand in it. -/
structure Manner where
  caseless : Bool
  unicode : Bool
  spaced : Bool
deriving DecidableEq

namespace Manner

/-- The manner at the start of a pattern. -/
def default : Manner := ⟨false, true, false⟩

/-- What follows blanks and comments, from inside a comment or outside.  A comment
ends with its line. -/
def passBlanks (inComment : Bool) : Text → Text
  | [] => []
  | c :: rest =>
    if inComment then passBlanks (c ≠ '\n') rest
    else if Text.isBlank c then passBlanks false rest
    else if c = '#' then passBlanks true rest
    else c :: rest

/-- What follows the blanks and comments that the manner allows. -/
def pass (manner : Manner) (s : Text) : Text :=
  if manner.spaced then passBlanks false s else s

theorem passBlanks_length_le (inComment : Bool) (s : Text) :
    (passBlanks inComment s).length ≤ s.length := by
  fun_induction passBlanks inComment s <;> simp only [List.length_cons, List.length_nil] at * <;>
    omega

theorem pass_length_le (manner : Manner) (s : Text) :
    (manner.pass s).length ≤ s.length := by
  unfold pass
  split
  · exact passBlanks_length_le false s
  · exact Nat.le_refl _

/-- Whether a character may stand in a pattern by itself.  There are no tables to
tell the other case of a character; those of bytes need none. -/
def admits (manner : Manner) : Bool := !(manner.unicode && manner.caseless)

end Manner

/-- A part of a pattern that is a character or takes the place of one: a character,
one given by the number of a byte, a class with a name of one letter, or a place
between characters. -/
inductive Atom
  | letter (c : Char)
  | byte (c : Char)
  | shorthand
  | place
deriving DecidableEq

/-- Whether an atom may stand by itself. A byte that starts no character may not. -/
def Atom.isAllowed (manner : Manner) : Atom → Bool
  | .letter _ => manner.admits
  | .byte c => manner.admits && (manner.unicode || c.toNat < 0x80)
  | .shorthand | .place => true

/-- A number of hexadecimal digits after a value. -/
def readDigits (manner : Manner) : Nat → Nat → Text → Option (Nat × Text)
  | 0, value, s => some (value, s)
  | _ + 1, _, [] => none
  | count + 1, value, c :: rest =>
    match Text.hexValue? c with
    | none => none
    | some digit => readDigits manner count (16 * value + digit) (manner.pass rest)

/-- A character by its number in a fixed number of digits. -/
def readNumbered (manner : Manner) (count : Nat) (s : Text) : Option (Char × Text) :=
  match readDigits manner count 0 (manner.pass s) with
  | none => none
  | some (value, rest) => if value.isValidChar then some (Char.ofNat value, rest) else none

/-- The numbers of digits after the letters that announce a character's number. -/
def widths : List (Char × Nat) := [('x', 2), ('u', 4), ('U', 8)]

/-- The control characters that have a letter. -/
def controls : List (Char × Char) :=
  [('a', '\x07'), ('f', '\x0C'), ('t', '\t'), ('n', '\n'), ('r', '\r'), ('v', '\x0B')]

/-- What a backslash and the text after it stand for.  Classes named by a letter and the borders
of words are known for bytes only.  Letters and digits without a meaning are refused, and so is
everything outside ASCII. -/
def readEscape (manner : Manner) : Text → Option (Atom × Text)
  | [] => none
  | c :: rest =>
    match widths.lookup c with
    | some count =>
      match readNumbered manner count rest with
      | some (d, rest) => some (if c = 'x' then .byte d else .letter d, rest)
      | none => none
    | none =>
    if ['A', 'z'].contains c then some (.place, rest)
    else if ['b', 'B', '<', '>'].contains c then
      if manner.unicode then none else some (.place, rest)
    else if ['d', 's', 'w'].contains c then
      if manner.unicode then none else some (.shorthand, rest)
    else
      match controls.lookup c with
      | some control => some (.letter control, rest)
      | none => if c.isAlphanum || 0x80 ≤ c.toNat then none else some (.letter c, rest)

theorem readDigits_length {manner : Manner} {count value found : Nat} {s rest : Text}
    (hread : readDigits manner count value s = some (found, rest)) :
    rest.length ≤ s.length := by
  fun_induction readDigits manner count value s with
  | case1 => simp_all
  | case2 => simp at hread
  | case3 => simp at hread
  | case4 count value c rest' digit hdigit ih =>
    have hrest := ih hread
    have hpass := manner.pass_length_le rest'
    simp only [List.length_cons]
    omega

theorem readNumbered_length {manner : Manner} {count : Nat} {c : Char} {s rest : Text}
    (hread : readNumbered manner count s = some (c, rest)) : rest.length ≤ s.length := by
  have hpass := manner.pass_length_le s
  unfold readNumbered at hread
  split at hread
  · simp at hread
  · next heq =>
    have hdigits := readDigits_length heq
    grind

theorem readEscape_length {manner : Manner} {s rest : Text} {atom : Atom}
    (hread : readEscape manner s = some (atom, rest)) : rest.length < s.length := by
  cases s with
  | nil => simp [readEscape] at hread
  | cons c s =>
    simp only [readEscape] at hread
    grind [→ readNumbered_length]

end Pattern

end Commonplace
