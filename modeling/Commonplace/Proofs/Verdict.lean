/-
What a line comes to before any book is looked at.  One line does to a book what
its verdict says, and a run is one line after the other.
-/
import Commonplace.Outcome

namespace Commonplace

/-- What a line asks of whatever book it meets. -/
inductive Verdict
  | blank
  | adds (saying : Saying)
  | removes (condition : Condition)
  | lists
  | rejected (fault : Fault)
deriving DecidableEq

namespace Verdict

/-- An instruction is accepted unless it adds a saying that cannot be made. -/
def ofInstruction : Instruction → Verdict
  | .add tag fields =>
    match Saying.create tag fields with
    | .error fault => .rejected fault
    | .ok saying => .adds saying
  | .remove condition => .removes condition
  | .list => .lists

def ofLine (line : Text) : Verdict :=
  match Instruction.read line with
  | .error fault => .rejected fault
  | .ok none => .blank
  | .ok (some instruction) => ofInstruction instruction

/-- The saying that is added, if one is. -/
def saying? : Verdict → Option Saying
  | .adds saying => some saying
  | _ => none

/-- The condition by which sayings are removed, if there is one. -/
def condition? : Verdict → Option Condition
  | .removes condition => some condition
  | _ => none

/-- The sayings that a verdict leaves of those before it. -/
def leaves (before : List Saying) : Verdict → List Saying
  | .adds saying => before ++ [saying]
  | .removes condition => before.filter fun saying => !condition.holds saying
  | .blank => before
  | .lists => before
  | .rejected _ => before

/-- The outcome of a verdict that meets some sayings. -/
def outcome (before : List Saying) : Verdict → Outcome
  | .blank => .silent
  | .adds saying => .added saying
  | .removes condition => .removed (before.filter condition.holds)
  | .lists => .listed before
  | .rejected fault => .rejected fault

/-- The result of an instruction with a verdict that meets some sayings. -/
def result (before : List Saying) : Verdict → Except Fault Outcome
  | .rejected fault => .error fault
  | verdict => .ok (verdict.outcome before)

/-- A line adds the saying that can be made of the tag and the fields on it. -/
theorem ofLine_eq_adds_iff {line : Text} {saying : Saying} :
    ofLine line = .adds saying ↔
      ∃ tag fields, Instruction.read line = .ok (some (.add tag fields)) ∧
        Saying.create tag fields = .ok saying := by
  constructor
  · intro hadds
    rw [ofLine] at hadds
    split at hadds
    · contradiction
    · contradiction
    · next instruction hread =>
      cases instruction with
      | add tag fields =>
        rw [ofInstruction] at hadds
        split at hadds
        · contradiction
        · next made hcreate =>
          obtain rfl := Verdict.adds.inj hadds
          exact ⟨tag, fields, hread, hcreate⟩
      | remove condition => contradiction
      | list => contradiction
  · rintro ⟨tag, fields, hread, hcreate⟩
    simp only [ofLine, hread, ofInstruction, hcreate]

/-- A saying that is left was there before, or is the one that is added. -/
theorem of_mem_leaves {before : List Saying} {verdict : Verdict} {saying : Saying}
    (hsaying : saying ∈ verdict.leaves before) :
    saying ∈ before ∨ verdict = .adds saying := by
  cases verdict with
  | adds added =>
    rcases List.mem_append.1 hsaying with hbefore | hadded
    · exact Or.inl hbefore
    · exact Or.inr (congrArg adds (List.mem_singleton.1 hadded).symm)
  | removes condition => exact Or.inl (List.mem_filter.1 hsaying).1
  | blank => exact Or.inl hsaying
  | lists => exact Or.inl hsaying
  | rejected fault => exact Or.inl hsaying

end Verdict

namespace Book

theorem execute_eq (book : Book) (instruction : Instruction) :
    book.execute instruction =
      (⟨(Verdict.ofInstruction instruction).leaves book.sayings⟩,
        (Verdict.ofInstruction instruction).result book.sayings) := by
  cases instruction with
  | add tag fields =>
    rw [execute, add, Verdict.ofInstruction]
    cases Saying.create tag fields with
    | error fault => rfl
    | ok saying => rfl
  | remove condition =>
    rw [execute, remove_eq]
    rfl
  | list => rfl

/-- A line does to a book what its verdict says. -/
theorem process_eq (book : Book) (line : Text) :
    book.process line =
      (⟨(Verdict.ofLine line).leaves book.sayings⟩,
        (Verdict.ofLine line).outcome book.sayings) := by
  rw [process, Verdict.ofLine]
  cases Instruction.read line with
  | error fault => rfl
  | ok found =>
    cases found with
    | none => rfl
    | some instruction =>
      simp only [execute_eq]
      cases Verdict.ofInstruction instruction <;> rfl

@[simp]
theorem processAll_nil (book : Book) : book.processAll [] = (book, []) := rfl

theorem processAll_cons (book : Book) (line : Text) (rest : List Text) :
    book.processAll (line :: rest) =
      (((book.process line).1.processAll rest).1,
        [(book.process line).2].filter Outcome.isReportable ++
          ((book.process line).1.processAll rest).2) := by
  rw [processAll]
  cases hreport : (book.process line).2.isReportable <;> simp [hreport]

theorem processAll_append (book : Book) (first second : List Text) :
    book.processAll (first ++ second) =
      (((book.processAll first).1.processAll second).1,
        (book.processAll first).2 ++ ((book.processAll first).1.processAll second).2) := by
  induction first generalizing book with
  | nil => simp
  | cons line first ih => simp [processAll_cons, ih]

end Book

end Commonplace
