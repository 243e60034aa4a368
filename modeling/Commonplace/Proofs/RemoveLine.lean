/-
Conditions written on a line and read again.  A condition comes back exactly when
its field could have been read from a line; of its part nothing is asked.
-/
import Commonplace.Outcome
import Commonplace.Proofs.Reading

namespace Commonplace

/-- A condition whose field holds no tilde and no blank at either end. -/
structure Condition.Writable (condition : Condition) : Prop where
  plain : '~' ∉ condition.field
  tight : Text.Tight condition.field

namespace Instruction

/-- The line that removes by a condition as it is written. -/
def removeLine (condition : Condition) : Text :=
  removeWord ++ [' '] ++ condition.written

theorem read_removeLine (condition : Condition) :
    read (removeLine condition) = (readRemove (Text.strip condition.written)).map some :=
  read_spaced reader?_removeWord condition.written

/-- Without a tilde in the field the part comes back, and the field stripped. -/
theorem read_removeLine_of_plain {condition : Condition} (hfield : '~' ∉ condition.field) :
    read (removeLine condition) =
      .ok (some (.remove ⟨condition.field.strip, condition.part⟩)) := by
  have hwritten : condition.written = condition.field ++ '~' :: condition.part.quoted := by
    simp [Condition.written]
  have hpart : (Text.strip condition.part.quoted).unquote = condition.part := by
    rw [Text.strip_of_tight (Text.quoted_tight condition.part), Text.unquote_quoted]
  rw [read_removeLine, hwritten, readRemove_strip hfield, hpart]
  rfl

/-- With a tilde in the field the line is cut there, and gives a shorter field. -/
theorem read_removeLine_of_mem {condition : Condition} (hfield : '~' ∈ condition.field) :
    ∃ found, read (removeLine condition) = .ok (some (.remove found)) ∧
      '~' ∉ found.field := by
  obtain ⟨before, after, hbefore, hsplit, -⟩ := Text.cut?_of_mem hfield
  have hwritten : condition.written =
      before ++ '~' :: (after ++ '~' :: condition.part.quoted) := by
    simp [Condition.written, hsplit]
  refine ⟨_, by rw [read_removeLine, hwritten, readRemove_strip hbefore]; rfl, ?_⟩
  exact fun hmem => hbefore (Text.strip_subset before hmem)

theorem exists_read_removeLine (condition : Condition) :
    ∃ found, read (removeLine condition) = .ok (some (.remove found)) ∧
      (found = condition ↔ condition.Writable) := by
  by_cases hfield : '~' ∈ condition.field
  · obtain ⟨found, hread, hfound⟩ := read_removeLine_of_mem hfield
    refine ⟨found, hread, ?_, ?_⟩
    · rintro rfl
      contradiction
    · intro hwritable
      exact absurd hfield hwritable.plain
  · refine ⟨_, read_removeLine_of_plain hfield, ?_, ?_⟩
    · intro heq
      exact ⟨hfield, Text.strip_eq_self_iff.1 (congrArg Condition.field heq)⟩
    · intro hwritable
      rw [Text.strip_of_tight hwritable.tight]

theorem read_removeLine_of_writable {condition : Condition} (hwritable : condition.Writable) :
    read (removeLine condition) = .ok (some (.remove condition)) := by
  obtain ⟨found, hread, hfound⟩ := exists_read_removeLine condition
  rw [hread, hfound.2 hwritable]

/-- Every condition that a line gives can be written again. -/
theorem writable_of_read {line : Text} {condition : Condition}
    (hread : read line = .ok (some (.remove condition))) : condition.Writable := by
  rcases read_eq_some_cases hread with h | ⟨_, _, _, _, h⟩ | ⟨field, part, hfield, h⟩
  · contradiction
  · contradiction
  · obtain rfl := Instruction.remove.inj h
    exact ⟨fun hmem => hfield (Text.strip_subset field hmem), Text.strip_tight field⟩

/-- What is written of a condition always removes, and by that condition exactly if
it is writable; conditions from lines are; and then the written line does to every
book what the condition itself does. -/
theorem read_written_condition :
    (∀ condition : Condition,
      ∃ found, read (removeLine condition) = .ok (some (.remove found)) ∧
        (found = condition ↔ '~' ∉ condition.field ∧ Text.Tight condition.field)) ∧
    (∀ (line : Text) (condition : Condition), read line = .ok (some (.remove condition)) →
      '~' ∉ condition.field ∧ Text.Tight condition.field ∧
        read (removeLine condition) = .ok (some (.remove condition))) ∧
    ∀ condition : Condition, '~' ∉ condition.field → Text.Tight condition.field →
      ∀ book : Book, book.execute (.remove condition) =
        (book.process (removeLine condition)).map id .ok := by
  refine ⟨?_, ?_, ?_⟩
  · intro condition
    obtain ⟨found, hread, hfound⟩ := exists_read_removeLine condition
    exact ⟨found, hread, hfound.trans ⟨fun h => ⟨h.plain, h.tight⟩, fun h => ⟨h.1, h.2⟩⟩⟩
  · intro line condition hread
    have hwritable := writable_of_read hread
    exact ⟨hwritable.plain, hwritable.tight, read_removeLine_of_writable hwritable⟩
  · intro condition hplain htight book
    rw [Book.process, read_removeLine_of_writable ⟨hplain, htight⟩]
    rfl

/-- A part that holds a tilde, blanks and a mark comes back, and removes. -/
theorem read_written_condition_marks :
    read "REM a~\"~ \"\n\"".toList = .ok (some (.remove ⟨"a".toList, "~ \"\n".toList⟩)) ∧
      read (removeLine ⟨"a".toList, "~ \"\n".toList⟩) =
        .ok (some (.remove ⟨"a".toList, "~ \"\n".toList⟩)) ∧
      Book.sample.execute (.remove ⟨"author".toList, "\"".toList⟩) =
        (Book.sample.process "REM author~\"\"\"".toList).map id .ok := by
  have hread : read "REM a~\"~ \"\n\"".toList =
      .ok (some (.remove ⟨"a".toList, "~ \"\n".toList⟩)) := by rfl
  exact ⟨hread, (read_written_condition.2.1 _ _ hread).2.2,
    read_written_condition.2.2 ⟨"author".toList, "\"".toList⟩ (by decide) (by decide) _⟩

end Instruction

end Commonplace
