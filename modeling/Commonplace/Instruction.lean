/-
Instructions, one on a line.

`ADD kind;name="value";name="value"` makes a saying, `REM name~"part"` removes
sayings and `PRINT` lists them.  Blanks around a line and around its parts do not
count, nor does one pair of quotation marks around a value.
-/
import Commonplace.Fault
import Commonplace.Fields
import Commonplace.Saying
import Commonplace.Text.Cut

namespace Commonplace

/-- Which sayings are to be removed: those whose field of a name contains a
part. -/
structure Condition where
  field : Text
  part : Text
deriving DecidableEq

namespace Condition

def holds (condition : Condition) (saying : Saying) : Bool :=
  saying.mentions condition.field condition.part

/-- A condition as it is written on a line. -/
def written (condition : Condition) : Text :=
  condition.field ++ ['~'] ++ condition.part.quoted

end Condition

inductive Instruction
  | add (tag : Text) (fields : Fields)
  | remove (condition : Condition)
  | list
deriving DecidableEq

/-- The named value in a segment, which has to hold an equals sign. -/
def Fields.entry? (segment : Text) : Option (Text × Text) :=
  (segment.cut? (· = '=')).map fun (name, value) => (name.strip, value.strip.unquote)

/-- The named values between semicolons. -/
def Fields.read (written : Text) : Fields :=
  .ofList ((written.pieces ';').filterMap Fields.entry?)

namespace Instruction

def addWord : Text := "ADD".toList

def removeWord : Text := "REM".toList

def listWord : Text := "PRINT".toList

def keyword : Instruction → Text
  | .add _ _ => addWord
  | .remove _ => removeWord
  | .list => listWord

/-- The tag before the first semicolon and the fields after it. -/
def readAdd (data : Text) : Except Fault Instruction :=
  match data.cut? (· = ';') with
  | none => .error (.noSemicolon data)
  | some (tag, fields) => .ok (.add tag.strip (Fields.read fields))

/-- The field before the first tilde and the part after it. -/
def readRemove (data : Text) : Except Fault Instruction :=
  match data.cut? (· = '~') with
  | none => .error (.noTilde data)
  | some (field, part) => .ok (.remove ⟨field.strip, part.strip.unquote⟩)

/-- The instruction on a line, if the line is not blank.  The first word of a
line decides; a listing has nothing after it. -/
def read (line : Text) : Except Fault (Option Instruction) :=
  let core := line.strip
  if core.isEmpty then .ok none
  else if core = listWord then .ok (some .list)
  else
    let (word, rest) := (core.cut? Text.isBlank).getD (core, [])
    if word = addWord then (readAdd rest.strip).map some
    else if word = removeWord then (readRemove rest.strip).map some
    else .error (.unknownCommand core)

end Instruction

end Commonplace
