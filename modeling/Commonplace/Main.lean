/-
The program: it asks for what a command line needs to be answered, and writes the
answer to the two streams.
-/
import Commonplace.CommandLine.Report

namespace Commonplace

/-- A failure by its number, which may come negated, and the description that
comes with it. -/
def FileFailure.ofNumber (number : UInt32) (description : String) : FileFailure :=
  let number := if number < 0x80000000 then number else 0 - number
  match number with
  | 2 => .noEntry
  | 17 => .alreadyThere
  | 20 => .notDirectory
  | 21 => .isDirectory
  | 36 => .nameTooLong
  | _ =>
    .other (description.toList ++ " (os error ".toList ++ Text.ofNat number.toNat ++ [')'])

def FileFailure.ofError : IO.Error → FileFailure
  | .alreadyExists _ number description => ofNumber number description
  | .otherError number description => ofNumber number description
  | .resourceBusy number description => ofNumber number description
  | .resourceVanished number description => ofNumber number description
  | .unsupportedOperation number description => ofNumber number description
  | .hardwareFault number description => ofNumber number description
  | .unsatisfiedConstraints number description => ofNumber number description
  | .illegalOperation number description => ofNumber number description
  | .protocolError number description => ofNumber number description
  | .timeExpired number description => ofNumber number description
  | .interrupted _ number description => ofNumber number description
  | .noFileOrDirectory _ number description => ofNumber number description
  | .invalidArgument _ number description => ofNumber number description
  | .permissionDenied _ number description => ofNumber number description
  | .resourceExhausted _ number description => ofNumber number description
  | .inappropriateType _ number description => ofNumber number description
  | .noSuchThing _ number description => ofNumber number description
  | .unexpectedEof => .other "unexpected end of file".toList
  | .userError description => .other description.toList

/-- Reads a whole file. -/
def readFile (path : Text) : IO Reading := do
  if path.any (· = '\x00') then return .error .nulInName
  match ← (IO.FS.readBinFile (String.ofList path)).toBaseIO with
  | .ok bytes => return .ok bytes
  | .error error => return .error (.ofError error)

def readVariable (name : String) : BaseIO (Option Text) := do
  return (← IO.getEnv name).map String.toList

/-- The home directory of an account by its number, from a list of accounts, one on a
line: the sixth of its parts. -/
def accountHome? (accounts number : Text) : Option Text :=
  accounts.lines.findSome? fun line =>
    match line.pieces ':' with
    | _ :: _ :: owner :: _ :: _ :: home :: _ => if owner = number then some home else none
    | _ => none

/-- The number of the account that a process runs under, from the lines on its state. -/
def accountNumber? (state : Text) : Option Text :=
  state.lines.findSome? fun line =>
    match line.pieces '\t' with
    | name :: number :: _ => if name = "Uid:".toList then some number else none
    | _ => none

/-- The home directory of the account, as the list of accounts on this machine has it. -/
def readAccountHome : IO (Option Text) := do
  let state ← readFile "/proc/self/status".toList
  let accounts ← readFile "/etc/passwd".toList
  return (do accountHome? (← accounts.text.toOption) (← accountNumber? (← state.text.toOption)))

/-- What stands around the program. -/
def readSurroundings : IO Surroundings := do
  let home := Environment.homeOf (← readVariable "HOME") (← readAccountHome)
  let environment : Environment :=
    ⟨← readVariable "SAYINGS_CONFIG_DIR", ← readVariable "XDG_CONFIG_HOME", home⟩
  return ⟨environment, ← readVariable "SAYINGS_LOG", ← (← IO.getStdout).isTty⟩

end Commonplace

open Commonplace in
def main (words : List String) : IO UInt32 := do
  let report ← (← readSurroundings).answer readFile (words.map String.toList)
  (← IO.getStderr).putStr (String.ofList (Report.ended report.errors))
  (← IO.getStdout).putStr (String.ofList (Report.ended report.results))
  return UInt32.ofNat report.status
