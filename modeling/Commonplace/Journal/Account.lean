/-
The notes that a run makes line by line.  They are told from the same outcomes that
the run has, and the run does not depend on them.
-/
import Commonplace.Journal
import Commonplace.Outcome
import Commonplace.Text.Shown

namespace Commonplace

namespace Journal

/-- The note of a line that is rejected. -/
def rejection (line : Text) (fault : Fault) : Note :=
  ⟨.lines, .warn, "line rejected".toList,
    [("line".toList, line.strip.shown), ("error".toList, fault.message)]⟩

/-- The notes of an instruction that was executed, with the book after it. -/
def execution (after : Book) (instruction : Instruction) (outcome : Outcome) : List Note :=
  match instruction, outcome with
  | .add tag _, .added saying =>
    [⟨.adding, .debug, "appending record".toList,
      [("record_type".toList, tag.shown), ("content".toList, saying.content.shown)]⟩]
  | .remove condition, .removed sayings =>
    [⟨.removing, .debug, "removed records".toList,
      [("predicate".toList, condition.written),
        ("removed".toList, Text.ofNat sayings.length),
        ("remaining".toList, Text.ofNat after.sayings.length)]⟩]
  | _, _ => []

/-- The notes of a line, by its number. -/
def ofLine (book : Book) (number : Nat) (line : Text) : List Note :=
  ⟨.lines, .debug, "processing".toList, [("line".toList, Text.ofNat number)]⟩ ::
    match Instruction.read line with
    | .error fault => [rejection line fault]
    | .ok none => []
    | .ok (some instruction) =>
      ⟨.lines, .debug, "executing".toList,
          [("command".toList, instruction.keyword.shown)]⟩ ::
        match book.execute instruction with
        | (_, .error fault) => [rejection line fault]
        | (after, .ok outcome) => execution after instruction outcome

/-- The notes of one line after another, from a number on. -/
def ofLines (book : Book) (number : Nat) : List Text → List Note
  | [] => []
  | line :: rest =>
    ofLine book number line ++ ofLines (book.process line).1 (number + 1) rest

/-- The notes of running a file. -/
def ofFile (book : Book) (name : Text) (reading : Reading) : List Note :=
  match reading.source name with
  | .error fault => [⟨.lines, .debug, "aborting run".toList, [("error".toList, fault.message)]⟩]
  | .ok source => ofLines book 1 source.lines

end Journal

end Commonplace
