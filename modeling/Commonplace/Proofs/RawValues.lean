/-
Values as they are written, with blanks around them and with or without marks.  A line that
adds and a line that removes make the same of them, so a saying is removed by what it was
added with.
-/
import Mathlib.Data.List.Infix
import Commonplace.Proofs.Making
import Commonplace.Proofs.Reading
import Commonplace.Proofs.Verdict

namespace Commonplace

namespace Instruction

/-- The line that adds a saying with values as they are written. -/
def rawAddLine (kind : Kind) (content origin : Text) : Text :=
  addWord ++ [' '] ++ kind.tag ++ [';'] ++ Saying.contentName ++ ['='] ++ content ++ [';'] ++
    kind.originName ++ ['='] ++ origin

/-- The line that removes by a field and a part as it is written. -/
def rawRemoveLine (name part : Text) : Text := removeWord ++ [' '] ++ name ++ ['~'] ++ part

/-- A name in front of a value that holds no semicolon makes a segment. -/
theorem entry?_raw {name : Text} (hname : '=' ∉ name) (htight : Text.Tight name)
    (value : Text) :
    Fields.entry? (name ++ '=' :: value) = some (name, (Text.strip value).unquote) :=
  Fields.entry?_eq_some_iff.2 ⟨name, value, hname, rfl, (Text.strip_of_tight htight).symm, rfl⟩

theorem read_rawAddLine (kind : Kind) {content origin : Text} (hcontent : ';' ∉ content)
    (horigin : ';' ∉ origin) :
    read (rawAddLine kind content origin) = .ok (some (.add kind.tag (Fields.ofList
      [(Saying.contentName, (Text.strip content).unquote),
        (kind.originName, (Text.strip origin).unquote)]))) := by
  let segments := [Saying.contentName ++ '=' :: content, kind.originName ++ '=' :: origin]
  have hline : rawAddLine kind content origin =
      addWord ++ [' '] ++ (kind.tag ++ ';' :: Text.join ';' segments) := by
    simp [rawAddLine, Text.join, segments]
  have hsegments : ∀ segment ∈ segments, ';' ∉ segment := by
    simp [segments, Saying.contentName_lettered.not_mem, kind.originName_lettered.not_mem,
      hcontent, horigin]
  have hentry := entry?_raw (Saying.contentName_lettered.not_mem rfl)
    Saying.contentName_lettered.tight content
  have hother := entry?_raw (kind.originName_lettered.not_mem rfl)
    kind.originName_lettered.tight origin
  rw [hline, read_spaced reader?_addWord, readAdd_strip (kind.tag_lettered.not_mem rfl),
    Text.strip_of_tight kind.tag_lettered.tight, Fields.read_join hsegments]
  simp only [segments, List.filterMap_cons, List.filterMap_nil, hentry, hother]
  rfl

theorem read_rawRemoveLine {name : Text} (hname : '~' ∉ name) (htight : Text.Tight name)
    (part : Text) :
    read (rawRemoveLine name part) =
      .ok (some (.remove ⟨name, (Text.strip part).unquote⟩)) := by
  have hline : rawRemoveLine name part = removeWord ++ [' '] ++ (name ++ '~' :: part) := by
    simp [rawRemoveLine]
  rw [hline, read_spaced reader?_removeWord, readRemove_strip hname, Text.strip_of_tight htight]
  rfl

end Instruction

namespace Book

open Instruction

theorem process_rawAddLine (book : Book) (kind : Kind) {content origin : Text}
    (hcontent : ';' ∉ content) (horigin : ';' ∉ origin) :
    let saying : Saying := ⟨kind, (Text.strip content).unquote, (Text.strip origin).unquote⟩
    book.process (rawAddLine kind content origin) = (book.append saying, .added saying) := by
  intro saying
  have hadds : Verdict.ofLine (rawAddLine kind content origin) = .adds saying :=
    Verdict.ofLine_eq_adds_iff.2
      ⟨_, _, read_rawAddLine kind hcontent horigin, Saying.create_own _ _ _⟩
  rw [process_eq, hadds]
  rfl

/-- A saying at the end is removed by a value that it carries, after all others that mention
the value. -/
theorem process_rawRemoveLine (book : Book) {saying : Saying} {name part : Text}
    (hname : '~' ∉ name) (htight : Text.Tight name)
    (hfield : saying.field? name = some (Text.strip part).unquote) :
    (book.append saying).process (rawRemoveLine name part) =
      (⟨book.sayings.filter fun other =>
          ¬ ∃ value ∈ other.field? name, (Text.strip part).unquote <:+: value⟩,
        .removed (book.sayings.filter (fun other =>
          ∃ value ∈ other.field? name, (Text.strip part).unquote <:+: value) ++ [saying])) := by
  have hholds : Condition.holds ⟨name, (Text.strip part).unquote⟩ = fun other =>
      decide (∃ value ∈ other.field? name, (Text.strip part).unquote <:+: value) :=
    funext fun other => Bool.eq_iff_iff.2 (Saying.mentions_iff.trans decide_eq_true_iff.symm)
  have hsaying : decide (∃ value ∈ saying.field? name,
      (Text.strip part).unquote <:+: value) = true :=
    decide_eq_true ⟨_, hfield, List.infix_refl _⟩
  rw [process_eq, Verdict.ofLine, read_rawRemoveLine hname htight]
  simp only [Verdict.ofInstruction, Verdict.leaves, Verdict.outcome, append, hholds, decide_not,
    List.filter_append, List.filter_cons, List.filter_nil, hsaying]
  simp

/-- Whatever texts without a semicolon are written for its values, a saying is added.  Either text
written once more removes it again, and of the sayings before it exactly those that carry the
value in such a field. -/
theorem add_remove_raw (book : Book) (kind : Kind) (content origin : Text)
    (hcontent : ';' ∉ content) (horigin : ';' ∉ origin) :
    let saying : Saying := ⟨kind, (Text.strip content).unquote, (Text.strip origin).unquote⟩
    book.process (rawAddLine kind content origin) = (book.append saying, .added saying) ∧
      (book.append saying).process (rawRemoveLine Saying.contentName content) =
        (⟨book.sayings.filter fun other => ¬ saying.content <:+: other.content⟩,
          .removed (book.sayings.filter (fun other => saying.content <:+: other.content) ++
            [saying])) ∧
      (book.append saying).process (rawRemoveLine kind.originName origin) =
        (⟨book.sayings.filter fun other =>
            ¬ ∃ value ∈ other.field? kind.originName, saying.origin <:+: value⟩,
          .removed (book.sayings.filter
            (fun other => ∃ value ∈ other.field? kind.originName, saying.origin <:+: value) ++
              [saying])) := by
  intro saying
  refine ⟨book.process_rawAddLine kind hcontent horigin, ?_, ?_⟩
  · have hremove := book.process_rawRemoveLine (Saying.contentName_lettered.not_mem rfl)
      Saying.contentName_lettered.tight
      (show saying.field? Saying.contentName = some (Text.strip content).unquote from
        saying.field?_contentName)
    simpa using hremove
  · exact book.process_rawRemoveLine (kind.originName_lettered.not_mem rfl)
      kind.originName_lettered.tight
      (show saying.field? kind.originName = some (Text.strip origin).unquote from
        saying.field?_originName)

/-- A value between marks with blanks around it, which an earlier saying contains, and one that
starts with a mark and a tilde. -/
theorem add_remove_raw_marks :
    let content : Text := " \"power\"\u3000".toList
    let origin : Text := "\t\"~=".toList
    let saying : Saying := ⟨.proverb, "power".toList, "\"~=".toList⟩
    sample.process (rawAddLine .proverb content origin) = (sample.append saying, .added saying) ∧
      (sample.append saying).process (rawRemoveLine "content".toList content) =
        (⟨sample.sayings.tail⟩, .removed [sample.sayings.head (by decide), saying]) ∧
      (sample.append saying).process (rawRemoveLine "country".toList origin) =
        (sample, .removed [saying]) := by
  intro content origin saying
  have hraw := add_remove_raw sample .proverb content origin (by decide) (by decide)
  refine ⟨hraw.1, ?_, ?_⟩
  · refine hraw.2.1.trans ?_
    decide
  · refine hraw.2.2.trans ?_
    decide

end Book

end Commonplace
