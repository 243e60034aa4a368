/-
What a command line answers: the status it ends with and the lines it writes, the
results on one stream and the journal on the other.  The settings choose what the
arguments leave open; settings that do not load are replaced as a whole.
-/
import Commonplace.CommandLine.Arguments
import Commonplace.CommandLine.Help
import Commonplace.Journal.Account
import Commonplace.Journal.Filter
import Commonplace.Settings.Stored

namespace Commonplace

def Text.startRed : Text := "\x1B[31m".toList

def Text.reset : Text := "\x1B[0m".toList

/-- The text with red again after each reset of the colour. -/
def Text.keepRed : Text → Text
  | '\x1B' :: '[' :: '0' :: 'm' :: rest => Text.reset ++ Text.startRed ++ keepRed rest
  | c :: rest => c :: keepRed rest
  | [] => []

/-- The text in red, also after a reset of the colour inside it. -/
def Text.red (t : Text) : Text := Text.startRed ++ t.keepRed ++ Text.reset

/-- A saying in a form of output. -/
def Saying.inFormat (saying : Saying) : Format → Text
  | .text => saying.render
  | .json => saying.json

/-- What is settled before the first line is run. -/
structure Plan where
  input : Text
  format : Format
  colored : Bool
deriving DecidableEq

namespace Plan

/-- Colours need a terminal, the settings' consent and no argument against
them. -/
def choose (arguments : Arguments) (settings : Settings) (terminal : Bool) : Plan :=
  ⟨arguments.file.getD settings.inputFile, arguments.output.getD settings.output,
    settings.color && !arguments.noColor && terminal⟩

/-- The lines that show an outcome. -/
def lines (plan : Plan) (outcome : Outcome) : List Text :=
  outcome.shown.map (fun saying => saying.inFormat plan.format) ++
    outcome.diagnostics.map fun message => if plan.colored then message.red else message

/-- The note that the run can begin. -/
def note (plan : Plan) : Journal.Note :=
  let format := match plan.format with
    | .text => "Text".toList
    | .json => "Json".toList
  ⟨.commandLine, .debug, "context ready".toList,
    [("input".toList, plan.input), ("output".toList, format)]⟩

/-- The status and the lines of a run over what was read: those of the outcomes, and one more
that tells why if the file could not be run. -/
def results (plan : Plan) (reading : Reading) : Nat × List Text :=
  let (_, outcomes, ending) := Book.empty.runFile plan.input reading
  let shown := outcomes.flatMap plan.lines
  match ending with
  | .error fault => (1, shown ++ [fault.message])
  | .ok () => (0, shown)

end Plan

/-- The status, the lines of results and the lines of the other stream. -/
structure Report where
  status : Nat
  results : List Text
  errors : List Text
deriving DecidableEq

namespace Report

/-- The answer to a request that runs nothing. -/
def ofRequest : Request → Report
  | .run _ => ⟨0, [], []⟩
  | .help true => ⟨0, Help.long, []⟩
  | .help false => ⟨0, Help.short, []⟩
  | .version => ⟨0, Help.version, []⟩
  | .refused => ⟨2, [], [Help.usage]⟩

/-- The filter of the journal: one from outside that has the form of a filter, or
that of the arguments. There is none when one from outside divides characters. -/
def filter? (arguments : Arguments) (outside : Option Text) : Option Journal.Filter :=
  let own := Journal.Filter.ofLevel (if arguments.verbose then .debug else .error)
  match outside.map Journal.Filter.read with
  | none => some own
  | some (.ok filter) => some filter
  | some (.error .malformed) => some own
  | some (.error .divided) => none

/-- The answer when there is no filter: nothing is run. -/
def unfiltered : Report :=
  ⟨101, [], ["a part of the journal's filter divides a character".toList]⟩

/-- The settings of a directory, as far as they load, and the note if they do
not. -/
def settle (directory : Text) (loaded : Except Fault Settings) :
    Settings × List Journal.Note :=
  match loaded with
  | .ok settings => (settings, [])
  | .error fault =>
    (Settings.default, [⟨.commandLine, .warn, "ignoring unreadable config".toList,
      [("dir".toList, directory), ("error".toList, fault.message)]⟩])

/-- The answer of a run by plan, with the notes made before it. -/
def ofRun (filter : Journal.Filter) (notes : List Journal.Note) (plan : Plan)
    (reading : Reading) : Report :=
  let (status, results) := plan.results reading
  let notes := notes ++ plan.note :: Journal.ofFile Book.empty plan.input reading
  ⟨status, results, (notes.filter filter.keeps).map Journal.Note.written⟩

/-- Each line ended by a line feed. -/
def ended (lines : List Text) : Text := lines.flatMap fun line => line ++ ['\n']

end Report

/-- What a run finds around it, other than files. -/
structure Surroundings where
  environment : Environment
  journal : Option Text
  terminal : Bool
deriving DecidableEq

namespace Surroundings

/-- The settings of the directory that the environment gives. -/
def settle {m : Type → Type} [Monad m] (around : Surroundings) (read : Text → m Reading) :
    m (Settings × List Journal.Note) :=
  match Settings.directory? around.environment with
  | none => return (Settings.default, [])
  | some directory => do
    let reading ← read (Settings.path directory)
    return Report.settle directory (Settings.ofReading reading)

/-- The answer to a command line, by some way of reading files. -/
def answer {m : Type → Type} [Monad m] (around : Surroundings) (read : Text → m Reading)
    (words : List Text) : m Report :=
  match Request.read words with
  | .run arguments =>
    match Report.filter? arguments around.journal with
    | none => return Report.unfiltered
    | some filter => do
      let (settings, notes) ← around.settle read
      let plan := Plan.choose arguments settings around.terminal
      let reading ← read plan.input
      return Report.ofRun filter notes plan reading
  | request => return Report.ofRequest request

/-- The answer when the files are those of a tree. -/
def answerIn (around : Surroundings) (tree : FileTree) (words : List Text) : Report :=
  Id.run (around.answer (fun path => pure (tree.read path)) words)

end Surroundings

end Commonplace
