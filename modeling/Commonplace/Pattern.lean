/-
Patterns for texts, and which texts are patterns.  Nothing is ever matched here: a
pattern only has to be well formed, not too high, and within what is known without
tables of characters.

The groups that wait for their end are kept in a list, innermost first.  Braces, which
would count repetitions, have no place in a pattern, for the text around it ends it at
the closing one.
-/
import Commonplace.Pattern.Brackets
import Commonplace.Text.Alphabetic
import Commonplace.Text.Cut
import Commonplace.Text.Numeric

namespace Commonplace

namespace Pattern

/-- A part of a sequence: its height, and whether it can be repeated. -/
structure Part where
  height : Nat
  repeatable : Bool
deriving DecidableEq

/-- What stands between the bars of a group: the parts of the last branch, latest
first, and the heights of the branches before it. -/
structure Body where
  parts : List Part
  branches : List Nat
deriving DecidableEq

namespace Body

def empty : Body := ⟨[], []⟩

def add (body : Body) (part : Part) : Body := { body with parts := part :: body.parts }

def branch (body : Body) : Nat := joined (body.parts.map Part.height)

def height (body : Body) : Nat := joined (body.branch :: body.branches)

/-- The bar was read. -/
def divide (body : Body) : Body := ⟨[], body.branch :: body.branches⟩

/-- The last part repeated, if there is one that can be. -/
def repeated? (body : Body) : Option Body :=
  match body.parts with
  | ⟨height, true⟩ :: parts => some { body with parts := ⟨height + 1, true⟩ :: parts }
  | _ => none

end Body

/-- A pattern in the making: the manner and the body of the innermost group, those of
the groups around it, innermost first, and the names of groups so far. -/
structure Progress where
  manner : Manner
  body : Body
  outer : List (Manner × Body)
  names : List Text
deriving DecidableEq

/-- The manner after one letter of those that change it. Some letters change nothing
that matters to the form. -/
def Manner.change (manner : Manner) (value : Bool) (c : Char) : Option Manner :=
  match c with
  | 'i' => some { manner with caseless := value }
  | 'u' => some { manner with unicode := value }
  | 'x' => some { manner with spaced := value }
  | 'm' | 's' | 'U' | 'R' => some manner
  | _ => none

/-- The letters that change the manner, up to a colon or a closing bracket: the new
manner, the mark, and what follows.  Letters after a hyphen revoke.  None is there
twice, the last is no hyphen, and a closing bracket needs one. -/
def readChange (manner : Manner) (seen : List Char) : Text → Option (Manner × Char × Text)
  | [] => none
  | c :: rest =>
    if c = ':' || c = ')' then
      if seen.head? = some '-' || (c = ')' && seen.isEmpty) then none
      else some (manner, c, rest)
    else if seen.contains c then none
    else if c = '-' then readChange manner (c :: seen) rest
    else
      match manner.change (!seen.contains '-') c with
      | some manner => readChange manner (c :: seen) rest
      | none => none

/-- Whether a text can name a group. -/
def isName (name : Text) : Bool :=
  match name with
  | [] => false
  | c :: rest =>
    (c = '_' || Alphabetic.holds c.toNat) &&
      rest.all fun c => ['_', '.', '[', ']'].contains c || Alphabetic.holds c.toNat ||
        Numeric.holds c.toNat

namespace Progress

def start : Progress := ⟨.default, .empty, [], []⟩

/-- A group was opened, in a manner of its own. -/
def enter (progress : Progress) (manner : Manner) : Progress :=
  { progress with
    manner := manner
    body := .empty
    outer := (progress.manner, progress.body) :: progress.outer }

/-- A part was read. -/
def add (progress : Progress) (part : Part) : Progress :=
  { progress with body := progress.body.add part }

/-- A closing bracket was read. The manner is again that around the group. -/
def leave? (progress : Progress) : Option Progress :=
  match progress.outer with
  | [] => none
  | (manner, body) :: outer =>
    some { progress with
      manner := manner
      body := body.add ⟨progress.body.height + 1, true⟩
      outer := outer }

/-- A group with a name, which no other group has. -/
def readNamedGroup (progress : Progress) (s : Text) : Option (Progress × Text) :=
  match Text.cut? (· = '>') s with
  | none => none
  | some (name, rest) =>
    if isName name && !progress.names.contains name then
      some ({ progress.enter progress.manner with names := name :: progress.names }, rest)
    else none

/-- What follows an opening bracket.  It may start a group, with or without a name or
a manner of its own, or change the manner up to the end of the group it is in.
Conditions on what stands before or after are refused. -/
def readGroup (progress : Progress) (s : Text) : Option (Progress × Text) :=
  match progress.manner.pass s with
  | '?' :: '=' :: _ | '?' :: '!' :: _ => none
  | '?' :: '<' :: '=' :: _ | '?' :: '<' :: '!' :: _ => none
  | '?' :: 'P' :: '<' :: rest | '?' :: '<' :: rest => progress.readNamedGroup rest
  | '?' :: rest =>
    match readChange progress.manner [] rest with
    | none => none
    | some (manner, ':', rest) => some (progress.enter manner, rest)
    | some (manner, _, rest) => some ({ progress.add ⟨0, false⟩ with manner := manner }, rest)
  | rest => some (progress.enter progress.manner, rest)

/-- An atom by itself. -/
def addAtom? (progress : Progress) (atom : Atom) : Option Progress :=
  if atom.isAllowed progress.manner then some (progress.add ⟨0, true⟩) else none

/-- A sign that repeats what stands before it, and a question mark after it. -/
def readRepetition (progress : Progress) (s : Text) : Option (Progress × Text) :=
  match progress.body.repeated? with
  | none => none
  | some body =>
    let rest := match s with
      | '?' :: rest => rest
      | _ => s
    some ({ progress with body := body }, rest)

/-- One step, after the blanks: a bracket, a bar, a sign that repeats, or an atom. A
point stands for characters only. -/
def step (progress : Progress) (c : Char) (rest : Text) : Option (Progress × Text) :=
  match c with
  | '(' => progress.readGroup rest
  | ')' => progress.leave?.map (·, rest)
  | '|' => some ({ progress with body := progress.body.divide }, rest)
  | '[' =>
    (Brackets.read progress.manner rest).map fun (height, rest) =>
      (progress.add ⟨height, true⟩, rest)
  | '?' | '*' | '+' => progress.readRepetition rest
  | '{' => none
  | '.' => if progress.manner.unicode then some (progress.add ⟨0, true⟩, rest) else none
  | '^' | '$' => some (progress.add ⟨0, true⟩, rest)
  | '\\' =>
    match readEscape progress.manner rest with
    | none => none
    | some (atom, rest) => (progress.addAtom? atom).map (·, rest)
  | c => (progress.addAtom? (.letter c)).map (·, rest)

end Progress

theorem readChange_length {manner changed : Manner} {seen : List Char} {mark : Char}
    {s rest : Text} (hread : readChange manner seen s = some (changed, mark, rest)) :
    rest.length < s.length := by
  fun_induction readChange manner seen s <;> grind

theorem cut_length {isMark : Char → Bool} {t before after : Text}
    (hcut : Text.cut? isMark t = some (before, after)) : after.length < t.length := by
  unfold Text.cut? at hcut
  have hdrop := Text.length_dropWhile_le (fun c => !isMark c) t
  grind

theorem Progress.readGroup_length {progress next : Progress} {s rest : Text}
    (hread : progress.readGroup s = some (next, rest)) : rest.length ≤ s.length := by
  have hpass := progress.manner.pass_length_le s
  unfold Progress.readGroup Progress.readNamedGroup at hread
  grind [→ cut_length, → readChange_length]

theorem Progress.step_length {progress next : Progress} {c : Char} {s rest : Text}
    (hstep : progress.step c s = some (next, rest)) : rest.length ≤ s.length := by
  unfold Progress.step Progress.readRepetition at hstep
  grind [= Option.map_eq_some_iff, → Progress.readGroup_length, → Brackets.read_length,
    → readEscape_length]

/-- The greatest height of a pattern. -/
def heightLimit : Nat := 250

/-- Whether a pattern that has been started can end with a text. -/
def ends (progress : Progress) (s : Text) : Bool :=
  match _hpass : progress.manner.pass s with
  | [] => progress.outer.isEmpty && progress.body.height ≤ heightLimit
  | c :: rest =>
    match _hstep : progress.step c rest with
    | none => false
    | some (next, rest) => ends next rest
termination_by s.length
decreasing_by
  have hpass := progress.manner.pass_length_le s
  have hstep := Progress.step_length _hstep
  rw [_hpass, List.length_cons] at hpass
  omega

/-- Whether a text is a pattern. -/
def isPattern (s : Text) : Bool := ends .start s

end Pattern

end Commonplace
