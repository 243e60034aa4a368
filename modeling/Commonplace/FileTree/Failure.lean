/-
Why a file could not be read or written, and how that is said.
-/
import Commonplace.Text

namespace Commonplace

inductive FileFailure
  | notText
  | nulInName
  | noEntry
  | alreadyThere
  | notDirectory
  | isDirectory
  | nameTooLong
  | other (description : Text)
deriving DecidableEq

def FileFailure.say : FileFailure → Text
  | .notText => "stream did not contain valid UTF-8".toList
  | .nulInName => "file name contained an unexpected NUL byte".toList
  | .noEntry => "No such file or directory (os error 2)".toList
  | .alreadyThere => "File exists (os error 17)".toList
  | .notDirectory => "Not a directory (os error 20)".toList
  | .isDirectory => "Is a directory (os error 21)".toList
  | .nameTooLong => "File name too long (os error 36)".toList
  | .other description => description

/-- Whether the failure means that a path leads to nothing. -/
def FileFailure.isAbsence : FileFailure → Bool
  | .nulInName => true
  | .noEntry => true
  | .notDirectory => true
  | .nameTooLong => true
  | _ => false

/-- What came of reading a whole file. -/
abbrev Reading := Except FileFailure ByteArray

/-- The text of a file that was read, if its bytes are one. -/
def Reading.text (reading : Reading) : Except FileFailure Text :=
  match reading with
  | .error failure => .error failure
  | .ok bytes =>
    match Text.ofBytes? bytes with
    | none => .error .notText
    | some text => .ok text

@[simp]
theorem Reading.text_toBytes (t : Text) : Reading.text (.ok t.toBytes) = .ok t := by
  simp only [Reading.text, Text.ofBytes?_toBytes]

end Commonplace
