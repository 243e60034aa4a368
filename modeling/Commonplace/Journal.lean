/-
The journal: notes on what happens in a run, each of a level and from a part of the
program.
-/
import Commonplace.Text

namespace Commonplace

namespace Journal

/-- Levels of notes, from the most to the least urgent, after the level that
keeps none. -/
inductive Level
  | off
  | error
  | warn
  | info
  | debug
  | trace
deriving DecidableEq

namespace Level

def all : List Level := [.off, .error, .warn, .info, .debug, .trace]

def rank (level : Level) : Nat := all.idxOf level

def name : Level → Text
  | .off => "OFF".toList
  | .error => "ERROR".toList
  | .warn => "WARN".toList
  | .info => "INFO".toList
  | .debug => "DEBUG".toList
  | .trace => "TRACE".toList

/-- The level of a number, which may have a plus sign, or of a name in letters of
either case. -/
def ofText? (t : Text) : Option Level :=
  let digits := if t.head? = some '+' then t.tail else t
  if !digits.isEmpty && digits.all Char.isDigit then
    all[digits.foldl (fun n c => n * 10 + (c.toNat - '0'.toNat)) 0]?
  else all.find? fun level => level.name = t.map Char.toUpper

end Level

/-- The parts of the program that make notes. -/
inductive Part
  | commandLine
  | lines
  | adding
  | removing
deriving DecidableEq

/-- The name of a part in filters. -/
def Part.name : Part → Text
  | .commandLine => "sayings::cli::commands".toList
  | .lines => "sayings::api".toList
  | .adding => "sayings::commands::add".toList
  | .removing => "sayings::commands::remove".toList

/-- A note says what happened and names the values that it happened with. -/
structure Note where
  part : Part
  level : Level
  message : Text
  fields : List (Text × Text)
deriving DecidableEq

namespace Note

def written (note : Note) : Text :=
  note.level.name ++ [' '] ++ note.message ++
    note.fields.flatMap fun field => [' '] ++ field.1 ++ ['='] ++ field.2

/-- Whether a note has a field. The message is one too. -/
def has (note : Note) (name : Text) : Bool :=
  name = "message".toList || note.fields.any fun field => field.1 = name

end Note

end Journal

end Commonplace
