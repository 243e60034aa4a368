/-
Sets of characters in brackets.  They nest, and operations stand between them.  The
brackets and operations that wait for their end are kept in a list, innermost first.
-/
import Commonplace.Pattern.Escape

namespace Commonplace

namespace Pattern

/-- The height of parts that stand together: nothing by itself and a part by itself
add none. -/
def joined : List Nat → Nat
  | [] => 0
  | [height] => height
  | heights => heights.foldl max 0 + 1

namespace Brackets

/-- What waits for a set: brackets, with the heights of the members before them, or
an operation, with the height of the set on its left. -/
inductive Frame
  | brackets (before : List Nat)
  | operation (left : Nat)
deriving DecidableEq

/-- The height of a set after the operation that waits for it, if one does, and what
waits then.  Operations are applied from left to right, and what they give is higher
by one than either side. -/
def settle (frames : List Frame) (height : Nat) : Nat × List Frame :=
  match frames with
  | .operation left :: outer => (max left height + 1, outer)
  | _ => (height, frames)

def namedSets : List Text :=
  ["alnum".toList, "alpha".toList, "ascii".toList, "blank".toList, "cntrl".toList,
   "digit".toList, "graph".toList, "lower".toList, "print".toList, "punct".toList,
   "space".toList, "upper".toList, "word".toList, "xdigit".toList]

/-- The caret that makes the complement of a set. -/
def readCaret (s : Text) : Bool × Text :=
  match s with
  | '^' :: rest => (true, rest)
  | _ => (false, s)

/-- A set by its name between colons, after an opening bracket, with the closing one:
whether the complement is meant, and what follows. -/
def readNamed (s : Text) : Option (Bool × Text) :=
  match s with
  | ':' :: rest =>
    let (negated, rest) := readCaret rest
    match rest.dropWhile (· ≠ ':') with
    | ':' :: ']' :: after =>
      if namedSets.contains (rest.takeWhile (· ≠ ':')) then some (negated, after) else none
    | _ => none
  | _ => none

/-- Whether a character may be a member of a set by itself. Bytes outside ASCII are
no characters. -/
def isMember (manner : Manner) (c : Char) : Bool :=
  manner.admits && (manner.unicode || c.toNat < 0x80)

/-- Whether the complement of a set may be meant. That of a set of bytes would divide
characters. -/
def isAllowed (manner : Manner) (negated : Bool) : Bool := manner.unicode || !negated

/-- Hyphens at the start of a set, which are members. -/
def readHyphens (manner : Manner) (members : List Nat) (s : Text) : List Nat × Text :=
  match s with
  | '-' :: rest => readHyphens manner (0 :: members) (manner.pass rest)
  | _ => (members, s)
termination_by s.length
decreasing_by
  have hpass := manner.pass_length_le rest
  simp only [List.length_cons]
  omega

/-- The start of a set after its opening bracket: members that would not be ones
further on, which are hyphens or a closing bracket. -/
def readOpening (manner : Manner) (s : Text) : Option (List Nat × Text) :=
  let (negated, rest) := readCaret (manner.pass s)
  let (members, rest) := readHyphens manner [] (manner.pass rest)
  let (members, rest) := match members, rest with
    | [], ']' :: rest => ([0], manner.pass rest)
    | _, _ => (members, rest)
  if isAllowed manner negated && (members.isEmpty || manner.admits) then some (members, rest)
  else none

/-- One character or what takes its place. -/
def readAtom (manner : Manner) : Text → Option (Atom × Text)
  | [] => none
  | '\\' :: rest => readEscape manner rest
  | c :: rest => some (.letter c, rest)

def Atom.letter? : Atom → Option Char
  | .letter c | .byte c => some c
  | .shorthand | .place => none

/-- The next character that can be seen, where the start of a comment is passed but
not the rest of it. -/
def glance (manner : Manner) (s : Text) : Option Char :=
  if manner.spaced then
    match s.dropWhile Text.isBlank with
    | '#' :: rest => (rest.dropWhile Text.isBlank).head?
    | s => s.head?
  else s.head?

/-- What follows a member: a class by its letter, a character, or a run of characters
from one to another.  A hyphen before a closing bracket or another hyphen makes no
run. -/
def readMember (manner : Manner) (s : Text) : Option Text :=
  match readAtom manner s with
  | none => none
  | some (first, rest) =>
    match manner.pass rest with
    | [] => none
    | c :: after =>
      if c ≠ '-' || [some ']', some '-'].contains (glance manner after) then
        match first with
        | .shorthand => some (c :: after)
        | .place => none
        | .letter d | .byte d => if isMember manner d then some (c :: after) else none
      else
        match readAtom manner (manner.pass after) with
        | none => none
        | some (last, rest) =>
          match Atom.letter? first, Atom.letter? last with
          | some d, some e =>
            if isMember manner d && isMember manner e && d ≤ e then some rest else none
          | _, _ => none

/-- A set in the making: the heights of its members so far and what waits for it. -/
structure Progress where
  members : List Nat
  frames : List Frame
deriving DecidableEq

namespace Progress

/-- A member was read. -/
def add (progress : Progress) (height : Nat) : Progress :=
  { progress with members := height :: progress.members }

/-- The sign of an operation was read; the set on its right starts. -/
def operate (progress : Progress) : Progress :=
  let (left, outer) := settle progress.frames (joined progress.members)
  ⟨[], .operation left :: outer⟩

/-- The closing bracket was read: the height of the whole if it was the last one. -/
def close? (progress : Progress) : Option (Nat ⊕ Progress) :=
  match settle progress.frames (joined progress.members) with
  | (height, [.brackets _]) => some (.inl (height + 1))
  | (height, .brackets before :: outer) => some (.inr ⟨(height + 1) :: before, outer⟩)
  | _ => none

/-- One step: the sign of an intersection or a difference of two sorts, an opening or
closing bracket, or a member. -/
def step (manner : Manner) (progress : Progress) (s : Text) :
    Option ((Nat ⊕ Progress) × Text) :=
  match manner.pass s with
  | [] => none
  | '&' :: '&' :: rest | '-' :: '-' :: rest | '~' :: '~' :: rest =>
    some (.inr progress.operate, rest)
  | ']' :: rest => progress.close?.map fun result => (result, rest)
  | '[' :: rest =>
    match readNamed rest with
    | some (negated, rest) =>
      if isAllowed manner negated && manner.admits then some (.inr (progress.add 0), rest)
      else none
    | none =>
      (readOpening manner rest).map fun (members, rest) =>
        (.inr ⟨members, .brackets progress.members :: progress.frames⟩, rest)
  | s => (readMember manner s).map fun rest => (.inr (progress.add 0), rest)

end Progress

theorem readCaret_length_le (s : Text) : (readCaret s).2.length ≤ s.length := by
  unfold readCaret
  split <;> simp

theorem readNamed_length {s rest : Text} {negated : Bool}
    (hread : readNamed s = some (negated, rest)) : rest.length < s.length := by
  unfold readNamed at hread
  grind [readCaret_length_le, Text.length_dropWhile_le]

theorem readHyphens_length_le (manner : Manner) (members : List Nat) (s : Text) :
    (readHyphens manner members s).2.length ≤ s.length := by
  fun_induction readHyphens manner members s with
  | case1 members rest ih =>
    have hpass := manner.pass_length_le rest
    simp only [List.length_cons]
    omega
  | case2 => exact Nat.le_refl _

theorem readOpening_length {manner : Manner} {members : List Nat} {s rest : Text}
    (hread : readOpening manner s = some (members, rest)) : rest.length ≤ s.length := by
  unfold readOpening at hread
  grind [readCaret_length_le, readHyphens_length_le, Manner.pass_length_le]

theorem readAtom_length {manner : Manner} {atom : Atom} {s rest : Text}
    (hread : readAtom manner s = some (atom, rest)) : rest.length < s.length := by
  unfold readAtom at hread
  grind [→ readEscape_length]

theorem readMember_length {manner : Manner} {s rest : Text}
    (hread : readMember manner s = some rest) : rest.length < s.length := by
  unfold readMember at hread
  grind [→ readAtom_length, Manner.pass_length_le]

theorem Progress.step_length {manner : Manner} {progress : Progress} {s rest : Text}
    {result : Nat ⊕ Progress} (hstep : progress.step manner s = some (result, rest)) :
    rest.length < s.length := by
  have hpass := manner.pass_length_le s
  unfold Progress.step at hstep
  grind [= Option.map_eq_some_iff, → readNamed_length, → readOpening_length,
    → readMember_length]

/-- The height of a set that has been started, and what follows it. -/
def readFrom (manner : Manner) (progress : Progress) (s : Text) : Option (Nat × Text) :=
  match _hstep : progress.step manner s with
  | none => none
  | some (.inl height, rest) => some (height, rest)
  | some (.inr progress, rest) => readFrom manner progress rest
termination_by s.length
decreasing_by exact Progress.step_length _hstep

/-- The height of a set after its opening bracket, and what follows it. -/
def read (manner : Manner) (s : Text) : Option (Nat × Text) :=
  match readOpening manner s with
  | none => none
  | some (members, rest) => readFrom manner ⟨members, [.brackets []]⟩ rest

theorem readFrom_length {manner : Manner} {progress : Progress} {height : Nat}
    {s rest : Text} (hread : readFrom manner progress s = some (height, rest)) :
    rest.length < s.length := by
  fun_induction readFrom manner progress s with
  | case1 => simp at hread
  | case2 =>
    next hstep =>
    have hrest := Progress.step_length hstep
    grind
  | case3 =>
    next hstep ih =>
    have hrest := Progress.step_length hstep
    have hread := ih hread
    omega

theorem read_length {manner : Manner} {height : Nat} {s rest : Text}
    (hread : read manner s = some (height, rest)) : rest.length < s.length := by
  unfold read at hread
  grind [→ readOpening_length, → readFrom_length]

end Brackets

end Pattern

end Commonplace
