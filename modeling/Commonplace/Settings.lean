/-
Settings: the file of instructions that is run when none is named, whether
messages on a terminal are coloured, and the form in which sayings are listed.
-/
import Commonplace.Json.Quoted

namespace Commonplace

/-- How sayings are listed. -/
inductive Format
  | text
  | json
deriving DecidableEq

namespace Format

def all : List Format := [.text, .json]

def name : Format → Text
  | .text => "text".toList
  | .json => "json".toList

/-- Names are spelled exactly. -/
def ofName? (name : Text) : Option Format := all.find? fun format => format.name = name

end Format

structure Settings where
  inputFile : Text
  color : Bool
  output : Format
deriving DecidableEq

/-- A member of the object that holds the settings, in the order in which the
members are written. -/
inductive Member
  | inputFile
  | color
  | output
deriving DecidableEq

namespace Member

def all : List Member := [.inputFile, .color, .output]

def name : Member → Text
  | .inputFile => "input_file".toList
  | .color => "color".toList
  | .output => "output".toList

def ofName? (name : Text) : Option Member := all.find? fun member => member.name = name

end Member

namespace Settings

def default : Settings := ⟨"artifact.txt".toList, true, .text⟩

/-- The written form of a truth value. -/
def writtenBool (value : Bool) : Text := if value then "true".toList else "false".toList

/-- The JSON value of a member. -/
def value (settings : Settings) : Member → Text
  | .inputFile => Json.quote settings.inputFile
  | .color => writtenBool settings.color
  | .output => Json.quote settings.output.name

/-- The settings as a JSON object, one member on a line. -/
def written (settings : Settings) : Text :=
  let line := fun (member : Member) =>
    "\n  ".toList ++ Json.quote member.name ++ ": ".toList ++ settings.value member
  ['{'] ++ [','].intercalate (Member.all.map line) ++ ['\n', '}']

end Settings

end Commonplace
