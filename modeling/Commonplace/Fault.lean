/-
Everything that can go wrong.  A fault of one line stops at that line; a fatal
one ends the run.
-/
import Commonplace.FileTree.Failure
import Commonplace.Json.Fault

namespace Commonplace

inductive Fault
  | unknownKind (tag : Text)
  | missingField (name tag : Text)
  | noSemicolon (data : Text)
  | noTilde (data : Text)
  | unknownCommand (line : Text)
  | sourceMissing (name : Text)
  | sourceUnreadable (name : Text) (failure : FileFailure)
  | file (failure : FileFailure)
  | settings (complaint : Json.Complaint)
deriving DecidableEq

def Fault.isFatal : Fault → Bool
  | .unknownKind _ => false
  | .missingField _ _ => false
  | .noSemicolon _ => false
  | .noTilde _ => false
  | .unknownCommand _ => false
  | .sourceMissing _ => true
  | .sourceUnreadable _ _ => true
  | .file _ => true
  | .settings _ => true

/-- The line that tells of a fault. -/
def Fault.message : Fault → Text
  | .unknownKind tag => "Unknown type: ".toList ++ tag
  | .missingField name tag =>
    "Error: missing required parameter '".toList ++ name ++ "' for type ".toList ++ tag
  | .noSemicolon data =>
    "Error in ADD command: missing semicolon in '".toList ++ data ++ "'".toList
  | .noTilde data =>
    "Error in REM command: missing '~' character in '".toList ++ data ++ "'".toList
  | .unknownCommand line => "Invalid command in file: ".toList ++ line
  | .sourceMissing name => "File ".toList ++ name ++ " not found".toList
  | .sourceUnreadable name failure =>
    "File ".toList ++ name ++ " could not be read: ".toList ++ failure.say
  | .file failure => "IO error: ".toList ++ failure.say
  | .settings complaint => "Serialization error: ".toList ++ complaint.say

end Commonplace
