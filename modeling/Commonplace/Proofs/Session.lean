/-
Sessions: any steps in any order on one book.  What a step reports tells all that it did,
and no saying is lost or made up over a whole session.
-/
import Commonplace.Proofs.Omission
import Commonplace.Proofs.Verdict

namespace Commonplace

open scoped List

/-- A step of a session.  Adding, removing and listing can also be done by themselves, and
sayings can be put at the end or taken out by a test without any instruction. -/
inductive Move : Type 1
  | process (line : Text)
  | execute (instruction : Instruction)
  | add (tag : Text) (fields : Fields)
  | remove (condition : Condition)
  | list
  | append (saying : Saying)
  | removeWhere {σ : Type} (ask : σ → Saying → Bool × σ) (start : σ)

/-- What is known of a step after it. -/
inductive Notice
  | outcome (outcome : Outcome)
  | failure (fault : Fault)
  | appended (saying : Saying)
  | withdrawn (sayings : List Saying)

namespace Notice

/-- What is known of an instruction by its result. -/
def ofResult : Except Fault Outcome → Notice
  | .ok done => .outcome done
  | .error fault => .failure fault

/-- The sayings that are reported to have come into the book. -/
def incoming : Notice → List Saying
  | .outcome (.added saying) => [saying]
  | .appended saying => [saying]
  | _ => []

/-- The sayings that are reported to have left it. -/
def outgoing : Notice → List Saying
  | .outcome (.removed sayings) => sayings
  | .withdrawn sayings => sayings
  | _ => []

end Notice

namespace Move

/-- The instruction that a step is, unless it is a line or does without one. -/
def instruction? : Move → Option Instruction
  | .execute instruction => some instruction
  | .add tag fields => some (.add tag fields)
  | .remove condition => some (.remove condition)
  | .list => some .list
  | _ => none

/-- What a step asks of whatever book it meets, if it is a line or an instruction. -/
def verdict? : Move → Option Verdict
  | .process line => some (.ofLine line)
  | move => move.instruction?.map .ofInstruction

theorem verdict?_of_instruction? {move : Move} {instruction : Instruction}
    (hmove : move.instruction? = some instruction) :
    move.verdict? = some (.ofInstruction instruction) := by
  cases move with
  | process line => contradiction
  | _ => exact congrArg (Option.map Verdict.ofInstruction) hmove

end Move

/-- All that a step may do to the sayings before it, with its notice and the sayings after
it. -/
inductive Change (before : List Saying) : Move → Notice → List Saying → Prop
  | blank {move : Move} (hmove : move.verdict? = some .blank) :
    Change before move (.outcome .silent) before
  | adds {move : Move} {saying : Saying} (hmove : move.verdict? = some (.adds saying)) :
    Change before move (.outcome (.added saying)) (before ++ [saying])
  | removes {move : Move} {condition : Condition}
    (hmove : move.verdict? = some (.removes condition)) :
    Change before move (.outcome (.removed (before.filter condition.holds)))
      (before.filter fun saying => !condition.holds saying)
  | lists {move : Move} (hmove : move.verdict? = some .lists) :
    Change before move (.outcome (.listed before)) before
  | rejects {line : Text} {fault : Fault} (hline : Verdict.ofLine line = .rejected fault) :
    Change before (.process line) (.outcome (.rejected fault)) before
  | fails {move : Move} {instruction : Instruction} {fault : Fault}
    (hmove : move.instruction? = some instruction)
    (hinstruction : Verdict.ofInstruction instruction = .rejected fault) :
    Change before move (.failure fault) before
  | appends (saying : Saying) :
    Change before (.append saying) (.appended saying) (before ++ [saying])
  | withdraws {σ : Type} (ask : σ → Saying → Bool × σ) (start : σ) (picked : Nat → Bool) :
    Change before (.removeWhere ask start) (.withdrawn (without (fun n => !picked n) before))
      (without picked before)

/-- The account of some time and that of the time after it add up. -/
theorem perm_accounts {first middle last arrived left came gone : List Saying}
    (hearly : (middle ++ left).Perm (first ++ arrived))
    (hlate : (last ++ gone).Perm (middle ++ came)) :
    (last ++ (left ++ gone)).Perm (first ++ (arrived ++ came)) := by
  calc last ++ (left ++ gone)
    _ ~ last ++ (gone ++ left) := List.perm_append_comm.append_left last
    _ = (last ++ gone) ++ left := (List.append_assoc last gone left).symm
    _ ~ (middle ++ came) ++ left := hlate.append_right left
    _ = middle ++ (came ++ left) := List.append_assoc middle came left
    _ ~ middle ++ (left ++ came) := List.perm_append_comm.append_left middle
    _ = (middle ++ left) ++ came := (List.append_assoc middle left came).symm
    _ ~ (first ++ arrived) ++ came := hearly.append_right came
    _ = first ++ (arrived ++ came) := List.append_assoc first arrived came

namespace Change

variable {before after : List Saying} {move : Move} {notice : Notice}

theorem perm (h : Change before move notice after) :
    (after ++ notice.outgoing).Perm (before ++ notice.incoming) := by
  cases h with
  | @removes _ condition _ =>
    have hfilter := List.filter_append_perm condition.holds before
    simpa [Notice.incoming, Notice.outgoing] using List.perm_append_comm.trans hfilter
  | withdraws _ _ picked =>
    simpa [Notice.incoming, Notice.outgoing] using perm_without picked before
  | _ => simp [Notice.incoming, Notice.outgoing]

theorem sublist (h : Change before move notice after) :
    after.Sublist (before ++ notice.incoming) := by
  cases h with
  | removes _ => exact List.filter_sublist.trans (List.sublist_append_left before _)
  | withdraws _ _ picked =>
    exact (without_sublist picked before).trans (List.sublist_append_left before _)
  | _ => simp [Notice.incoming]

end Change

namespace Book

def step (book : Book) : Move → Book × Notice
  | .process line => (book.process line).map id Notice.outcome
  | .execute instruction => (book.execute instruction).map id Notice.ofResult
  | .add tag fields => (book.add tag fields).map id Notice.ofResult
  | .remove condition => (book.execute (.remove condition)).map id Notice.ofResult
  | .list => (book.execute .list).map id Notice.ofResult
  | .append saying => (book.append saying, .appended saying)
  | .removeWhere ask start =>
    let (after, removed, _) := book.removeWhere ask start
    (after, .withdrawn removed)

/-- One step after another. -/
def session (book : Book) : List Move → Book × List Notice
  | [] => (book, [])
  | move :: rest =>
    let (next, notice) := book.step move
    let (last, notices) := next.session rest
    (last, notice :: notices)

/-- The answers that a test gives on its way, whatever it carries along, pick out places. -/
theorem separate_without {σ : Type} (ask : σ → Saying → Bool × σ) (start : σ)
    (sayings : List Saying) :
    ∃ picked : Nat → Bool,
      (separate ask start sayings).1 = without (fun n => !picked n) sayings ∧
        (separate ask start sayings).2.1 = without picked sayings := by
  induction sayings generalizing start with
  | nil => exact ⟨fun _ => false, rfl, rfl⟩
  | cons saying rest ih =>
    obtain ⟨picked, hremoved, hkept⟩ := ih (ask start saying).2
    refine ⟨fun
      | 0 => (ask start saying).1
      | n + 1 => picked n, ?_⟩
    cases hanswer : (ask start saying).1 <;>
      simp [separate, without, hanswer, hremoved, hkept]

theorem process_change (book : Book) (line : Text) :
    Change book.sayings (.process line) (.outcome (book.process line).2)
      (book.process line).1.sayings := by
  rw [process_eq]
  cases hverdict : Verdict.ofLine line with
  | blank => exact .blank (congrArg some hverdict)
  | adds saying => exact .adds (congrArg some hverdict)
  | removes condition => exact .removes (congrArg some hverdict)
  | lists => exact .lists (congrArg some hverdict)
  | rejected fault => exact .rejects hverdict

theorem step_eq_execute (book : Book) {move : Move} {instruction : Instruction}
    (hmove : move.instruction? = some instruction) :
    book.step move = (book.execute instruction).map id Notice.ofResult := by
  cases move with
  | execute | add | remove | list =>
    obtain rfl := Option.some.inj hmove
    rfl
  | process | append | removeWhere => contradiction

theorem execute_change (book : Book) {move : Move} {instruction : Instruction}
    (hmove : move.instruction? = some instruction) :
    Change book.sayings move (book.step move).2 (book.step move).1.sayings := by
  have hasked := Move.verdict?_of_instruction? hmove
  rw [step_eq_execute book hmove, execute_eq]
  cases hverdict : Verdict.ofInstruction instruction with
  | blank => exact .blank (hverdict ▸ hasked)
  | adds saying => exact .adds (hverdict ▸ hasked)
  | removes condition => exact .removes (hverdict ▸ hasked)
  | lists => exact .lists (hverdict ▸ hasked)
  | rejected fault => exact .fails hmove hverdict

theorem step_change (book : Book) (move : Move) :
    Change book.sayings move (book.step move).2 (book.step move).1.sayings := by
  cases move with
  | process line => exact book.process_change line
  | execute | add | remove | list => exact book.execute_change rfl
  | append saying => exact .appends saying
  | removeWhere ask start =>
    obtain ⟨picked, hremoved, hkept⟩ := separate_without ask start book.sayings
    have hchange : Change book.sayings (.removeWhere ask start) _ _ :=
      .withdraws ask start picked
    rw [← hremoved, ← hkept] at hchange
    exact hchange

theorem session_cons (book : Book) (move : Move) (rest : List Move) :
    book.session (move :: rest) =
      (((book.step move).1.session rest).1,
        (book.step move).2 :: ((book.step move).1.session rest).2) := rfl

/-- What is there at the end and what was reported to leave is what was there at the start
and what was reported to come. -/
theorem session_perm (book : Book) (moves : List Move) :
    ((book.session moves).1.sayings ++ (book.session moves).2.flatMap Notice.outgoing).Perm
      (book.sayings ++ (book.session moves).2.flatMap Notice.incoming) := by
  induction moves generalizing book with
  | nil => exact List.Perm.refl _
  | cons move rest ih =>
    rw [session_cons, List.flatMap_cons, List.flatMap_cons]
    exact perm_accounts (book.step_change move).perm (ih _)

/-- Nothing changes its place: what is left at the end stands there in the order in which it
was there or came. -/
theorem session_sublist (book : Book) (moves : List Move) :
    (book.session moves).1.sayings.Sublist
      (book.sayings ++ (book.session moves).2.flatMap Notice.incoming) := by
  induction moves generalizing book with
  | nil => exact List.sublist_append_left _ _
  | cons move rest ih =>
    rw [session_cons, List.flatMap_cons, ← List.append_assoc]
    exact (ih _).trans ((book.step_change move).sublist.append_right _)

/-- Each step changes the sayings as its notice says.  Over a session the sayings at the end and
those reported to leave are those at the start and those reported to come, and nothing changes
its place. -/
theorem session_conserves :
    (∀ (book : Book) (move : Move),
      Change book.sayings move (book.step move).2 (book.step move).1.sayings) ∧
    ∀ (book : Book) (moves : List Move),
      let (last, notices) := book.session moves
      (last.sayings ++ notices.flatMap Notice.outgoing).Perm
          (book.sayings ++ notices.flatMap Notice.incoming) ∧
        last.sayings.Sublist (book.sayings ++ notices.flatMap Notice.incoming) := by
  refine ⟨step_change, fun book moves => ⟨?_, ?_⟩⟩
  · exact book.session_perm moves
  · exact book.session_sublist moves

/-- Of two equal sayings a test that counts takes out the second. -/
example :
    let saying : Saying := ⟨.proverb, ['a'], ['b']⟩
    let everySecond : Move := .removeWhere (fun n _ => (n % 2 == 1, n + 1)) 0
    (Book.empty.session [.append saying, .append saying, everySecond]).1.sayings = [saying] := by
  decide

end Book

end Commonplace
