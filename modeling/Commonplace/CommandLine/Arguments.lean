/-
The arguments of the command line.  They are read from left to right, and the first
that asks for help or for the version, or that is wrong, decides.
-/
import Commonplace.Settings
import Commonplace.Text.Cut

namespace Commonplace

structure Arguments where
  file : Option Text
  output : Option Format
  noColor : Bool
  verbose : Bool
deriving DecidableEq

/-- What the arguments ask for. -/
inductive Request
  | run (arguments : Arguments)
  | help (long : Bool)
  | version
  | refused
deriving DecidableEq

namespace Arguments

def none : Arguments := ⟨.none, .none, false, false⟩

/-- How one argument changes what was read before it: an end, a change, or an
option whose value is the next argument. -/
inductive Step
  | stop (request : Request)
  | next (arguments : Arguments)
  | value (arguments : Arguments)
deriving DecidableEq

/-- One file may be named, and not with an empty name. -/
def withFile (arguments : Arguments) (name : Text) : Step :=
  if arguments.file.isSome || name.isEmpty then .stop .refused
  else .next { arguments with file := some name }

/-- One form of output may be named. -/
def withOutput (arguments : Arguments) (name : Text) : Step :=
  match Format.ofName? name with
  | some format =>
    if arguments.output.isSome then .stop .refused
    else .next { arguments with output := some format }
  | .none => .stop .refused

/-- No flag may be repeated. -/
def withVerbose (arguments : Arguments) : Step :=
  if arguments.verbose then .stop .refused else .next { arguments with verbose := true }

def withNoColor (arguments : Arguments) : Step :=
  if arguments.noColor then .stop .refused else .next { arguments with noColor := true }

/-- Letters after a dash. What follows the letter of an option is its value, with or
without an equals sign before it. -/
def readLetters (arguments : Arguments) : Text → Step
  | [] => .next arguments
  | 'v' :: more =>
    match arguments.withVerbose with
    | .next arguments => arguments.readLetters more
    | step => step
  | 'h' :: _ => .stop (.help false)
  | 'V' :: _ => .stop .version
  | ['o'] => .value arguments
  | 'o' :: '=' :: value => arguments.withOutput value
  | 'o' :: value => arguments.withOutput value
  | _ => .stop .refused

/-- A name after two dashes, with a value after an equals sign or without one. -/
def readName (arguments : Arguments) (name : Text) (value : Option Text) : Step :=
  match value with
  | some value =>
    if name = "output".toList then arguments.withOutput value else .stop .refused
  | .none =>
    if name = "output".toList then .value arguments
    else if name = "no-color".toList then arguments.withNoColor
    else if name = "verbose".toList then arguments.withVerbose
    else if name = "help".toList then .stop (.help true)
    else if name = "version".toList then .stop .version
    else .stop .refused

/-- An argument other than two dashes alone. One dash alone is a file. -/
def readWord (arguments : Arguments) (word : Text) : Step :=
  match word with
  | '-' :: '-' :: long =>
    match Text.cut? (· = '=') long with
    | some (name, value) => arguments.readName name (some value)
    | .none => arguments.readName long .none
  | '-' :: c :: letters => arguments.readLetters (c :: letters)
  | _ => arguments.withFile word

/-- Arguments after two dashes alone are files. -/
def readFiles (arguments : Arguments) : List Text → Request
  | [] => .run arguments
  | word :: rest =>
    match arguments.withFile word with
    | .next arguments => arguments.readFiles rest
    | .value _ => .refused
    | .stop request => request

def readAll (arguments : Arguments) : List Text → Request
  | [] => .run arguments
  | word :: rest =>
    if word = ['-', '-'] then arguments.readFiles rest
    else
      match arguments.readWord word with
      | .stop request => request
      | .next arguments => arguments.readAll rest
      | .value arguments =>
        match rest with
        | [] => .refused
        | value :: rest =>
          match arguments.withOutput value with
          | .next arguments => arguments.readAll rest
          | .value _ => .refused
          | .stop request => request

end Arguments

/-- What a command line asks for. -/
def Request.read (words : List Text) : Request := Arguments.none.readAll words

end Commonplace
