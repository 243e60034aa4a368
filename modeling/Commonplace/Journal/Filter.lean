/-
Filters, which say what notes of the journal are kept, and how they are written.
-/
import Commonplace.Journal
import Commonplace.Pattern

namespace Commonplace

namespace Journal

/-- A level for the parts whose names start with a target, and if a field is named
only for the notes that have it. -/
structure Rule where
  target : Text
  field : Option Text
  level : Level
deriving DecidableEq

namespace Rule

def covers (rule : Rule) (note : Note) : Bool :=
  rule.target.isPrefixOf note.part.name && rule.field.all note.has

/-- Whether one rule gives way to another that is asked later.  The longer target
decides, then a field, then the order of the fields. -/
def yields (first second : Rule) : Bool :=
  first.target.length < second.target.length ||
    first.target.length = second.target.length &&
      match first.field, second.field with
      | none, _ => true
      | some _, none => false
      | some left, some right => !decide (right < left)

/-- Why a text is no rule: it has not the form of one, or one of its parts would
start or end inside a character. -/
inductive Flaw
  | malformed
  | divided
deriving DecidableEq

/-- What the brackets of a rule confine it to: nothing when there are none, the
notes with a field, or a stretch of work. -/
inductive Scope
  | anywhere
  | field (name : Text)
  | work
deriving DecidableEq

/-- The digits of a number with what may follow them: a fraction and an exponent. -/
def isUnsigned (t : Text) : Bool :=
  let whole := t.takeWhile Char.isDigit
  let (fraction, rest) := match t.dropWhile Char.isDigit with
    | '.' :: rest => (rest.takeWhile Char.isDigit, rest.dropWhile Char.isDigit)
    | rest => ([], rest)
  let isExponent := match rest with
    | [] => true
    | mark :: rest =>
      let digits := if rest.head?.any ['+', '-'].contains then rest.tail else rest
      (mark = 'e' || mark = 'E') && !digits.isEmpty && digits.all Char.isDigit
  !(whole ++ fraction).isEmpty && isExponent

/-- Whether a text is a number, which may be infinite or none at all. -/
def isNumber (t : Text) : Bool :=
  let unsigned := if t.head?.any ['+', '-'].contains then t.tail else t
  isUnsigned unsigned ||
    ["inf".toList, "infinity".toList, "nan".toList].contains (unsigned.map Char.toLower)

/-- Whether a field can have a value. What is no number is a pattern for one. -/
def isValue (t : Text) : Bool := isNumber t || Pattern.isPattern t

/-- What stands in braces: the name of a field, or a field and its value.  Values are
known in stretches of work only, and so are fields when one of those is named. -/
def Scope.ofField? (named : Bool) (t : Text) : Option Scope :=
  match t.pieces '=' with
  | [] => none
  | [name] => if name.isEmpty then none else some (if named then .work else .field name)
  | _ :: value :: _ => if isValue value then some .work else none

/-- The part of a text at as many bytes from its start as there are in another text
before its rests. -/
def part (t s start stop : Text) : Except Flaw Text :=
  match t.between? (s.byteSize - start.byteSize) (s.byteSize - stop.byteSize) with
  | some part => .ok part
  | none => .error .divided

/-- The part of a text after as many bytes as there are in another text before a
rest of it. -/
def tail (t s start : Text) : Except Flaw Text :=
  match t.dropBytes? (s.byteSize - start.byteSize) with
  | some part => .ok part
  | none => .error .divided

/-- A scope after its opening bracket, and what follows its closing one.  It names a
stretch of work, or a field in braces, or both. -/
def Scope.read (t s after : Text) : Except Flaw (Scope × Text) := do
  let mark := after.dropWhile fun c => c ≠ ']' && c ≠ '{'
  if mark.isEmpty then throw .malformed
  let name ← part t s after mark
  if mark.head? = some ']' then return (.work, mark.tail)
  let brace := mark.tail.dropWhile fun c => c ≠ '}'
  if brace.isEmpty then throw .malformed
  match Scope.ofField? (!name.isEmpty) (← part t s mark.tail brace), brace.tail with
  | some scope, ']' :: rest => return (scope, rest)
  | _, _ => throw .malformed

/-- The parts of a rule as they are written. -/
structure Written where
  target : Text
  scope : Scope
  level : Option Text
deriving DecidableEq

/-- Whether a rule may start with a character. -/
def isStart (c : Char) : Bool :=
  c = '[' || c = '-' || c = ':' || c = '_' || Alphabetic.holds c.toNat ||
    Numeric.holds c.toNat

/-- A target, a scope and, after an equals sign, a level.  Where they start and end is
told without the blanks around the text, and counted in bytes; the parts are then
taken from the text with the blanks. -/
def Written.read (t : Text) : Except Flaw Written := do
  let s := t.strip
  unless s.head?.any isStart do throw .malformed
  let mark := s.dropWhile fun c => c ≠ '=' && c ≠ '['
  if mark.isEmpty then return ⟨t, .anywhere, none⟩
  let target ← part t s s mark
  if mark.head? = some '=' then return ⟨target, .anywhere, some (← tail t s mark.tail)⟩
  let (scope, rest) ← Scope.read t s mark.tail
  match rest with
  | [] => return ⟨target, scope, none⟩
  | '=' :: level => return ⟨target, scope, some (← tail t s level)⟩
  | _ => throw .malformed

/-- The rule in a scope. Notes are made outside any stretch of work, so a rule
confined to one has nothing to say. -/
def within (target : Text) (level : Level) : Scope → List Rule
  | .anywhere => [⟨target, none, level⟩]
  | .field name => [⟨target, some name, level⟩]
  | .work => []

/-- What a rule as it is written asks for. A target alone that is a level is one for
every part; without a level everything is kept. -/
def Written.rules? (written : Written) : Option (List Rule) :=
  match written.level with
  | some [] => some (within written.target .trace written.scope)
  | some name =>
    (Level.ofText? name).map fun level => within written.target level written.scope
  | none =>
    match written.scope, Level.ofText? written.target with
    | .anywhere, some level => some (within [] level .anywhere)
    | scope, _ => some (within written.target .trace scope)

/-- The rules in one piece of a filter. -/
def read (t : Text) : Except Flaw (List Rule) := do
  match (← Written.read t).rules? with
  | some rules => return rules
  | none => throw .malformed

end Rule

abbrev Filter := List Rule

namespace Filter

def ofLevel (level : Level) : Filter := [⟨[], none, level⟩]

/-- Rules between commas, the first flaw being that of all. A filter of no rules
keeps errors. -/
def read (t : Text) : Except Rule.Flaw Filter :=
  let written := (t.pieces ',').filter fun piece => !piece.isEmpty
  if written.isEmpty then .ok (ofLevel .error)
  else (written.mapM Rule.read).map List.flatten

/-- The level for a note: that of the rule that covers it and gives way to no other.
Without any, nothing is kept. -/
def level (filter : Filter) (note : Note) : Level :=
  let better := fun (best : Option Rule) (rule : Rule) =>
    if rule.covers note && best.all (fun best => best.yields rule) then some rule else best
  match filter.foldl better none with
  | some rule => rule.level
  | none => .off

def keeps (filter : Filter) (note : Note) : Bool :=
  note.level.rank ≤ (filter.level note).rank

end Filter

end Journal

end Commonplace
