/-
What a line does to a book and what there is to say about it.  A line that is
rejected does nothing but leave its fault.
-/
import Commonplace.Book

namespace Commonplace

inductive Outcome
  | silent
  | added (saying : Saying)
  | removed (sayings : List Saying)
  | listed (sayings : List Saying)
  | rejected (fault : Fault)
deriving DecidableEq

namespace Outcome

/-- The sayings that came into the book or left it. -/
def affected : Outcome → List Saying
  | .added saying => [saying]
  | .removed sayings => sayings
  | _ => []

/-- The sayings to be shown. -/
def shown : Outcome → List Saying
  | .listed sayings => sayings
  | _ => []

/-- The messages to be shown. -/
def diagnostics : Outcome → List Text
  | .rejected fault => [fault.message]
  | _ => []

def hasDiagnostics (outcome : Outcome) : Bool := !outcome.diagnostics.isEmpty

/-- Whether there is anything to be shown. -/
def isReportable (outcome : Outcome) : Bool :=
  !outcome.shown.isEmpty || outcome.hasDiagnostics

end Outcome

/-- The text of a file that is to be run, or why it cannot be. -/
def Reading.source (reading : Reading) (name : Text) : Except Fault Text :=
  match reading.text with
  | .error .noEntry => .error (.sourceMissing name)
  | .error failure => .error (.sourceUnreadable name failure)
  | .ok source => .ok source

@[simp]
theorem Reading.source_toBytes (name t : Text) : Reading.source (.ok t.toBytes) name = .ok t := by
  simp only [Reading.source, Reading.text_toBytes]

namespace Book

/-- Makes a saying and puts it at the end.  The book comes with the result, also with a fault. -/
def add (book : Book) (tag : Text) (fields : Fields) : Book × Except Fault Outcome :=
  match Saying.create tag fields with
  | .error fault => (book, .error fault)
  | .ok saying => (book.append saying, .ok (.added saying))

def execute (book : Book) : Instruction → Book × Except Fault Outcome
  | .add tag fields => book.add tag fields
  | .remove condition =>
    let (kept, removed) := book.remove condition
    (kept, .ok (.removed removed))
  | .list => (book, .ok (.listed book.sayings))

/-- One line. -/
def process (book : Book) (line : Text) : Book × Outcome :=
  match Instruction.read line with
  | .error fault => (book, .rejected fault)
  | .ok none => (book, .silent)
  | .ok (some instruction) =>
    let (after, result) := book.execute instruction
    match result with
    | .error fault => (after, .rejected fault)
    | .ok outcome => (after, outcome)

/-- One line after another, with the outcomes that can be reported. -/
def processAll (book : Book) : List Text → Book × List Outcome
  | [] => (book, [])
  | line :: rest =>
    let (next, outcome) := book.process line
    let (last, outcomes) := next.processAll rest
    (last, if outcome.isReportable then outcome :: outcomes else outcomes)

/-- The lines of a text. -/
def run (book : Book) (source : Text) : Book × List Outcome := book.processAll source.lines

/-- The lines of a file: the book after them, the outcomes that were handed on, and whether the
file could be run. -/
def runFile (book : Book) (name : Text) (reading : Reading) :
    Book × List Outcome × Except Fault Unit :=
  match reading.source name with
  | .error fault => (book, [], .error fault)
  | .ok source =>
    let (after, outcomes) := book.run source
    (after, outcomes, .ok ())

theorem runFile_text (book : Book) (name source : Text) :
    book.runFile name (.ok source.toBytes) = ((book.run source).1, (book.run source).2, .ok ()) := by
  simp only [runFile, Reading.source_toBytes]

end Book

end Commonplace
