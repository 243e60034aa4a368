/-
The sayings and the announcements of a whole run, told from its lines alone: which
sayings are still there, and what was said where.
-/
import Commonplace.Proofs.Verdict

namespace Commonplace

/-- A line of a text with the lines before it and the lines after it. -/
structure Place where
  before : List Text
  line : Text
  after : List Text

/-- The lines of a text in order, each with what stands around it. -/
def places (lines : List Text) : List Place :=
  lines.zipIdx.map fun (line, i) => ⟨lines.take i, line, lines.drop (i + 1)⟩

/-- The place in a text that has one more line at the start. -/
def Place.below (first : Text) (place : Place) : Place :=
  ⟨first :: place.before, place.line, place.after⟩

theorem places_cons (line : Text) (rest : List Text) :
    places (line :: rest) = ⟨[], line, rest⟩ :: (places rest).map (Place.below line) := by
  simp [places, List.zipIdx_succ, Function.comp_def, Place.below]

namespace History

/-- Whether no accepted line among these removes the saying. -/
def spares (lines : List Text) (saying : Saying) : Bool :=
  (lines.filterMap fun line => (Verdict.ofLine line).condition?).all
    fun condition => !condition.holds saying

/-- The sayings that accepted lines add, each unless a later line removes it. -/
def additions (lines : List Text) : List Saying :=
  (places lines).filterMap fun place =>
    (Verdict.ofLine place.line).saying?.filter (spares place.after)

/-- The sayings of the start that no line removes, and then those that lines
added. -/
def remaining (start : List Saying) (lines : List Text) : List Saying :=
  start.filter (spares lines) ++ additions lines

theorem spares_cons (line : Text) (rest : List Text) (saying : Saying) :
    spares (line :: rest) saying =
      ((Verdict.ofLine line).condition?.all (fun condition => !condition.holds saying) &&
        spares rest saying) := by
  cases hcondition : (Verdict.ofLine line).condition? <;> simp [spares, hcondition]

theorem additions_cons (line : Text) (rest : List Text) :
    additions (line :: rest) =
      ((Verdict.ofLine line).saying?.filter (spares rest)).toList ++ additions rest := by
  rw [additions, places_cons, List.filterMap_cons, List.filterMap_map]
  cases (Verdict.ofLine line).saying?.filter (spares rest) <;> rfl

@[simp]
theorem remaining_nil (start : List Saying) : remaining start [] = start := by
  simp [remaining, additions, places, spares]

/-- A first line does to the sayings of the start what it does to any. -/
theorem remaining_cons (start : List Saying) (line : Text) (rest : List Text) :
    remaining start (line :: rest) = remaining ((Verdict.ofLine line).leaves start) rest := by
  rw [remaining, remaining, additions_cons, funext (spares_cons line rest)]
  cases Verdict.ofLine line with
  | adds saying =>
    cases hspared : spares rest saying <;>
      simp [Verdict.condition?, Verdict.saying?, Verdict.leaves, Option.filter, hspared]
  | removes condition =>
    simp [Verdict.condition?, Verdict.saying?, Verdict.leaves, Bool.and_comm]
  | blank => simp [Verdict.condition?, Verdict.saying?, Verdict.leaves]
  | lists => simp [Verdict.condition?, Verdict.saying?, Verdict.leaves]
  | rejected fault => simp [Verdict.condition?, Verdict.saying?, Verdict.leaves]

end History

/-- All that is handed on of one line. -/
structure Told where
  affected : List Saying
  listed : List Saying
  messages : List Text
deriving DecidableEq

def Outcome.told (outcome : Outcome) : Told :=
  ⟨outcome.affected, outcome.shown, outcome.diagnostics⟩

namespace History

/-- What is handed on of a line that meets some sayings, if anything: the one
message of a rejected line, or the sayings that there are to list. -/
def telling? (sayings : List Saying) : Verdict → Option Told
  | .rejected fault => some ⟨[], [], [fault.message]⟩
  | .lists => if sayings.isEmpty then none else some ⟨[], sayings, []⟩
  | _ => none

/-- What is handed on of the lines in their order.  A listing shows what remains
after the lines before it. -/
def tellings (start : List Saying) (lines : List Text) : List Told :=
  (places lines).filterMap fun place =>
    telling? (remaining start place.before) (Verdict.ofLine place.line)

theorem told_of_reportable (sayings : List Saying) (verdict : Verdict) :
    ([verdict.outcome sayings].filter Outcome.isReportable).map Outcome.told =
      (telling? sayings verdict).toList := by
  cases verdict with
  | lists =>
    cases sayings with
    | nil => rfl
    | cons saying sayings => rfl
  | blank => rfl
  | adds saying => rfl
  | removes condition => rfl
  | rejected fault => rfl

theorem tellings_cons (start : List Saying) (line : Text) (rest : List Text) :
    tellings start (line :: rest) =
      (telling? start (Verdict.ofLine line)).toList ++
        tellings ((Verdict.ofLine line).leaves start) rest := by
  have hrest : (fun place => telling? (remaining start place.before)
        (Verdict.ofLine place.line)) ∘ Place.below line =
      fun place => telling? (remaining ((Verdict.ofLine line).leaves start) place.before)
        (Verdict.ofLine place.line) := by
    funext place
    simp only [Function.comp_apply, Place.below, remaining_cons]
  rw [tellings, places_cons, List.filterMap_cons, List.filterMap_map, hrest, remaining_nil]
  cases telling? start (Verdict.ofLine line) <;> rfl

theorem processAll_sayings (book : Book) (lines : List Text) :
    (book.processAll lines).1.sayings = remaining book.sayings lines := by
  induction lines generalizing book with
  | nil => simp
  | cons line rest ih =>
    rw [Book.processAll_cons, remaining_cons, ih, Book.process_eq]

theorem processAll_told (book : Book) (lines : List Text) :
    (book.processAll lines).2.map Outcome.told = tellings book.sayings lines := by
  induction lines generalizing book with
  | nil => simp [tellings, places]
  | cons line rest ih =>
    rw [Book.processAll_cons, List.map_append, tellings_cons, ih, Book.process_eq,
      told_of_reportable]

/-- A run leaves the sayings of the start and those of accepted lines that no accepted line
after them removes.  It hands on the message of each rejected line and each listing that is
not empty, in the order of the lines. -/
theorem run_eq_history (book : Book) (source : Text) :
    (book.run source).1.sayings = remaining book.sayings source.lines ∧
      (book.run source).2.map Outcome.told = tellings book.sayings source.lines := by
  constructor
  · exact processAll_sayings book source.lines
  · exact processAll_told book source.lines

/-- Only the later of two equal additions outlives the removal between them. -/
example :
    let added := "ADD PROVERB;content=a;country=b".toList
    let listed : Told := ⟨[], [⟨.proverb, ['a'], ['b']⟩], []⟩
    tellings [] [added, "PRINT".toList, "REM content~a".toList, "PRINT".toList, added,
      "PRINT".toList] = [listed, listed] := by decide

end History

end Commonplace
