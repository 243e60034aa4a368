/-
Why a line is rejected.  Each fault quotes characters of the line and nothing else, so
its message is a line of its own.
-/
import Commonplace.Proofs.Making
import Commonplace.Proofs.Reading
import Commonplace.Proofs.Verdict

namespace Commonplace

/-- The faults that a line can be rejected for, with what they quote of it. -/
inductive Fault.OfLine (line : Text) : Fault → Prop
  | unknownKind {tag : Text} (htag : tag ⊆ line) : OfLine line (.unknownKind tag)
  | missingContent {tag : Text} (htag : tag ⊆ line) :
    OfLine line (.missingField Saying.contentName tag)
  | missingOrigin (kind : Kind) {tag : Text} (htag : tag ⊆ line) :
    OfLine line (.missingField kind.originName tag)
  | noSemicolon {data : Text} (hdata : data ⊆ line) : OfLine line (.noSemicolon data)
  | noTilde {data : Text} (hdata : data ⊆ line) : OfLine line (.noTilde data)
  | unknownCommand {core : Text} (hcore : core ⊆ line) : OfLine line (.unknownCommand core)

theorem Fault.OfLine.not_mem_message {line : Text} {fault : Fault} (hfault : fault.OfLine line)
    (hline : '\n' ∉ line) : '\n' ∉ fault.message := by
  have hquoted : ∀ {t : Text}, t ⊆ line → '\n' ∉ t := fun ht hmem => hline (ht hmem)
  have hmissing : ∀ {name tag : Text}, '\n' ∉ name → tag ⊆ line →
      '\n' ∉ (Fault.missingField name tag).message := fun hname htag =>
    List.not_mem_append (List.not_mem_append (List.not_mem_append (by decide) hname) (by decide))
      (hquoted htag)
  cases hfault with
  | unknownKind htag => exact List.not_mem_append (by decide) (hquoted htag)
  | missingContent htag => exact hmissing (Saying.contentName_lettered.not_mem rfl) htag
  | missingOrigin kind htag => exact hmissing (kind.originName_lettered.not_mem rfl) htag
  | noSemicolon hdata =>
    exact List.not_mem_append (List.not_mem_append (by decide) (hquoted hdata)) (by decide)
  | noTilde hdata =>
    exact List.not_mem_append (List.not_mem_append (by decide) (hquoted hdata)) (by decide)
  | unknownCommand hcore => exact List.not_mem_append (by decide) (hquoted hcore)

theorem except_map_eq_error {ε α β : Type} {f : α → β} {result : Except ε α} {fault : ε}
    (hmap : result.map f = .error fault) : result = .error fault := by
  cases result with
  | error found => exact congrArg Except.error (Except.error.inj hmap)
  | ok found => contradiction

namespace Saying

theorem create_error_cases {tag : Text} {fields : Fields} {fault : Fault}
    (hcreate : create tag fields = .error fault) :
    fault = .unknownKind tag ∨ fault = .missingField contentName tag ∨
      ∃ kind : Kind, fault = .missingField kind.originName tag := by
  cases making_of_create hcreate with
  | unknown htag => exact Or.inl rfl
  | @missing kind name htag hname =>
    rcases Kind.mem_required.1 (List.mem_of_find?_eq_some hname) with rfl | rfl
    · exact Or.inr (Or.inl rfl)
    · exact Or.inr (Or.inr ⟨kind, rfl⟩)

end Saying

namespace Instruction

/-- The data behind the first word of a line is part of the line. -/
theorem data_subset {line word rest : Text} (hline : Text.strip line = word ++ rest) :
    Text.strip rest ⊆ line := by
  intro c hc
  have hmem : c ∈ rest := Text.strip_subset rest hc
  exact Text.strip_subset line (by simp [hline, hmem])

theorem read_error_ofLine {line : Text} {fault : Fault} (hread : read line = .error fault) :
    fault.OfLine line := by
  rcases read_cases line with ⟨-, h⟩ | ⟨-, h⟩ | ⟨word, rest, reader, hreader, hline, h⟩ | h
  · simp [h] at hread
  · simp [h] at hread
  · have hdata := except_map_eq_error (h.symm.trans hread)
    rcases reader?_eq_some_cases hreader with ⟨-, rfl⟩ | ⟨-, rfl⟩
    · rw [readAdd] at hdata
      split at hdata
      · obtain rfl := Except.error.inj hdata
        exact .noSemicolon (data_subset hline)
      · contradiction
    · rw [readRemove] at hdata
      split at hdata
      · obtain rfl := Except.error.inj hdata
        exact .noTilde (data_subset hline)
      · contradiction
  · obtain rfl := Except.error.inj (h.symm.trans hread)
    exact .unknownCommand (Text.strip_subset line)

theorem tag_subset {line tag : Text} {fields : Fields}
    (hread : read line = .ok (some (.add tag fields))) : tag ⊆ line := by
  rcases read_cases line with ⟨-, h⟩ | ⟨-, h⟩ | ⟨word, rest, reader, hreader, hline, h⟩ | h
  · simp [h] at hread
  · simp [h] at hread
  · have hdata := map_some_eq_ok (h.symm.trans hread)
    rcases reader?_eq_some_cases hreader with ⟨-, rfl⟩ | ⟨-, rfl⟩
    · obtain ⟨before, written, -, hrest, heq⟩ := readAdd_eq_ok hdata
      obtain ⟨rfl, -⟩ := Instruction.add.inj heq
      intro c hc
      have hmem : c ∈ before := Text.strip_subset before hc
      exact data_subset hline (by simp [hrest, hmem])
    · obtain ⟨field, part, -, -, heq⟩ := readRemove_eq_ok hdata
      contradiction
  · simp [h] at hread

end Instruction

namespace Verdict

/-- A line is rejected because it gives no instruction or because no saying can be made of
the one that it gives. -/
theorem ofLine_eq_rejected_cases {line : Text} {fault : Fault}
    (hrejected : ofLine line = .rejected fault) :
    Instruction.read line = .error fault ∨
      ∃ tag fields, Instruction.read line = .ok (some (.add tag fields)) ∧
        Saying.create tag fields = .error fault := by
  rw [ofLine] at hrejected
  split at hrejected
  · next found hread =>
    obtain rfl := Verdict.rejected.inj hrejected
    exact Or.inl hread
  · contradiction
  · next instruction hread =>
    cases instruction with
    | add tag fields =>
      rw [ofInstruction] at hrejected
      split at hrejected
      · next found hcreate =>
        obtain rfl := Verdict.rejected.inj hrejected
        exact Or.inr ⟨tag, fields, hread, hcreate⟩
      · contradiction
    | remove condition => contradiction
    | list => contradiction

theorem rejected_ofLine {line : Text} {fault : Fault}
    (hrejected : ofLine line = .rejected fault) : fault.OfLine line := by
  rcases ofLine_eq_rejected_cases hrejected with hread | ⟨tag, fields, hread, hcreate⟩
  · exact Instruction.read_error_ofLine hread
  · have htag := Instruction.tag_subset hread
    rcases Saying.create_error_cases hcreate with rfl | rfl | ⟨kind, rfl⟩
    · exact .unknownKind htag
    · exact .missingContent htag
    · exact .missingOrigin kind htag

end Verdict

end Commonplace
