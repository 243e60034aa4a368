/-
Lines without an effect: blank ones, listings and those that are rejected.  Whether a line is
rejected, and with which message, is up to the line alone; and idle lines can be left out of
a source, with the announcements of the other lines as they were.
-/
import Commonplace.Proofs.History
import Commonplace.Proofs.Layout

namespace Commonplace

/-- A line that is blank, that asks for a listing, or that some book rejects. -/
inductive Idle (line : Text) : Prop
  | blank (hblank : line.strip = [])
  | listing (hlisting : line.strip = Instruction.listWord)
  | rejected (book : Book) (hrejected : (book.process line).2.hasDiagnostics = true)

theorem Verdict.eq_rejected_of_hasDiagnostics {sayings : List Saying} {verdict : Verdict}
    (hverdict : (verdict.outcome sayings).hasDiagnostics = true) :
    ∃ fault, verdict = .rejected fault := by
  cases verdict with
  | rejected fault => exact ⟨fault, rfl⟩
  | _ => contradiction

/-- The text without the lines of some numbers, the first of which is 0. -/
def Text.withoutLines (gone : Nat → Bool) (t : Text) : Text :=
  join '\n' (without gone (pieces '\n' t))

namespace Book

theorem process_idle (book : Book) {line : Text} (hline : Idle line) :
    (book.process line).1 = book := by
  cases hline with
  | blank hblank => rw [process_of_strip_eq_nil book hblank]
  | listing hlisting =>
    rw [← process_strip, hlisting]
    rfl
  | rejected other hrejected =>
    rw [process_eq] at hrejected ⊢
    obtain ⟨fault, hverdict⟩ := Verdict.eq_rejected_of_hasDiagnostics hrejected
    rw [hverdict]
    rfl

/-- A line is rejected by every book with the same message, or by none. -/
theorem process_rejects (line : Text) :
    (∃ message : Text, ∀ book : Book, (book.process line).1 = book ∧
      (book.process line).2.told = ⟨[], [], [message]⟩) ∨
    ∀ book : Book, (book.process line).2.diagnostics = [] := by
  cases hverdict : Verdict.ofLine line with
  | rejected fault =>
    refine Or.inl ⟨fault.message, fun book => ?_⟩
    rw [process_eq, hverdict]
    exact ⟨rfl, rfl⟩
  | _ =>
    refine Or.inr fun book => ?_
    rw [process_eq, hverdict]
    rfl

/-- What each line comes to, also where there is nothing to show. -/
def outcomes (book : Book) : List Text → List Outcome
  | [] => []
  | line :: rest => (book.process line).2 :: (book.process line).1.outcomes rest

/-- A run hands on the outcomes of its lines that can be reported. -/
theorem processAll_outcomes (book : Book) (lines : List Text) :
    (book.processAll lines).2 = (book.outcomes lines).filter Outcome.isReportable := by
  induction lines generalizing book with
  | nil => rfl
  | cons line rest ih =>
    rw [processAll_cons, ih, ← List.filter_append]
    rfl

/-- Each line that stays meets the book that it met among all lines, because the lines left
out before it do nothing to a book. -/
theorem processAll_without {gone : Nat → Bool} {lines : List Text}
    (hidle : ∀ n line, lines[n]? = some line → gone n = true → Idle line) (book : Book) :
    book.processAll (without gone lines) =
      ((book.processAll lines).1,
        (without gone (book.outcomes lines)).filter Outcome.isReportable) := by
  induction lines generalizing book gone with
  | nil => rfl
  | cons line rest ih =>
    have hrest : ∀ n other, rest[n]? = some other → gone (n + 1) = true → Idle other :=
      fun n other hother => hidle (n + 1) other (by simpa using hother)
    rw [processAll_cons, outcomes]
    cases hgone : gone 0 with
    | true =>
      have hline : (book.process line).1 = book := book.process_idle (hidle 0 line rfl hgone)
      rw [without_cons_gone hgone, without_cons_gone hgone, hline, ih hrest]
    | false =>
      rw [without_cons_kept hgone, without_cons_kept hgone, processAll_cons, ih hrest,
        ← List.filter_append]
      rfl

theorem run_join (book : Book) {parts : List Text} (hparts : ∀ part ∈ parts, '\n' ∉ part) :
    book.run (Text.join '\n' parts) = book.processAll parts := by
  by_cases hne : parts = []
  · subst hne
    rfl
  · rw [run_eq_pieces, Text.pieces_join hparts hne]

theorem run_withoutLines (book : Book) (gone : Nat → Bool) (source : Text) :
    book.run (source.withoutLines gone) = book.processAll (without gone source.lines) := by
  have hpieces : ∀ part ∈ without gone (Text.pieces '\n' source), '\n' ∉ part := by
    intro part hpart
    exact Text.not_mem_of_mem_pieces '\n' source part ((without_sublist gone _).subset hpart)
  rw [Text.withoutLines, run_join book hpieces, processAll_without_pieces]

/-- A line is rejected by every book with one and the same message or by none.  Idle lines can be
left out of a source without a change to the book at the end or to what is announced of the
other lines. -/
theorem run_without_idle_lines :
    (∀ line : Text,
      (∃ message : Text, ∀ book : Book, (book.process line).1 = book ∧
        (book.process line).2.told = ⟨[], [], [message]⟩) ∨
      ∀ book : Book, (book.process line).2.diagnostics = []) ∧
    ∀ (book : Book) (source : Text) (gone : Nat → Bool),
      (∀ n line, source.lines[n]? = some line → gone n = true → Idle line) →
        (book.run source).2 = (book.outcomes source.lines).filter Outcome.isReportable ∧
          book.run (source.withoutLines gone) =
            ((book.run source).1,
              (without gone (book.outcomes source.lines)).filter Outcome.isReportable) := by
  refine ⟨process_rejects, fun book source gone hidle => ⟨?_, ?_⟩⟩
  · exact processAll_outcomes book source.lines
  · rw [run_withoutLines]
    exact processAll_without hidle book

/-- A rejected line, a blank one and the first of two listings. -/
theorem run_without_idle_lines_three :
    let source : Text := "SHOUT\nADD PROVERB;content=a;country=b\n\t\nPRINT\nWHISPER\nPRINT\n".toList
    let gone : Nat → Bool := fun n => [0, 2, 3].contains n
    Book.empty.run (source.withoutLines gone) =
      ((Book.empty.run source).1,
        [.rejected (.unknownCommand "WHISPER".toList), .listed [⟨.proverb, ['a'], ['b']⟩]]) := by
  intro source gone
  have hidle : ∀ n line, source.lines[n]? = some line → gone n = true → Idle line := by
    intro n line hline hgone
    have hplace : n = 0 ∨ n = 2 ∨ n = 3 := by simpa [gone] using hgone
    rcases hplace with rfl | rfl | rfl
    · obtain rfl := Option.some.inj (show some "SHOUT".toList = some line from hline)
      exact .rejected Book.empty (by decide)
    · obtain rfl := Option.some.inj (show some "\t".toList = some line from hline)
      exact .blank (by decide)
    · obtain rfl := Option.some.inj (show some "PRINT".toList = some line from hline)
      exact .listing (by decide)
  rw [(run_without_idle_lines.2 Book.empty source gone hidle).2]
  refine congrArg _ ?_
  decide

end Book

end Commonplace
