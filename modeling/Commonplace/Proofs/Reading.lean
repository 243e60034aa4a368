/-
How a line is read: by its first word, and by what is left of the line behind
that word.  Blanks around the line and around its parts do not count.
-/
import Commonplace.Proofs.NamedValues

namespace Commonplace

namespace Instruction

/-- What can stand behind the first word of a line: nothing, or a blank first. -/
def Behind (rest : Text) : Prop := ∀ c ∈ rest.head?, Text.isBlank c = true

/-- A word is not empty and holds no blank. -/
structure Word (word : Text) : Prop where
  ne_nil : word ≠ []
  solid : ∀ c ∈ word, Text.isBlank c = false

theorem Word.tight_append {word rest : Text} (hword : Word word)
    (hrest : ∀ c ∈ rest.getLast?, Text.isBlank c = false) : Text.Tight (word ++ rest) := by
  constructor
  · intro c hc
    rw [List.head?_append_of_ne_nil _ hword.ne_nil] at hc
    exact hword.solid c (List.mem_of_mem_head? hc)
  · intro c hc
    rw [List.getLast?_append] at hc
    cases hlast : rest.getLast? with
    | none =>
      have hmem : c ∈ word.getLast? := by simpa [hlast] using hc
      exact hword.solid c (List.mem_of_getLast? hmem)
    | some d => exact hrest c (by simpa [hlast] using hc)

/-- How the data behind a word is read, for the two words that have data. -/
def reader? (word : Text) : Option (Text → Except Fault Instruction) :=
  if word = addWord then some readAdd
  else if word = removeWord then some readRemove
  else none

@[simp]
theorem reader?_addWord : reader? addWord = some readAdd := if_pos rfl

@[simp]
theorem reader?_removeWord : reader? removeWord = some readRemove := by rfl

theorem reader?_eq_some_cases {word : Text} {reader : Text → Except Fault Instruction}
    (hreader : reader? word = some reader) :
    (word = addWord ∧ reader = readAdd) ∨ (word = removeWord ∧ reader = readRemove) := by
  rw [reader?] at hreader
  split at hreader
  · next hword => exact Or.inl ⟨hword, (Option.some.inj hreader).symm⟩
  · split at hreader
    · next hword => exact Or.inr ⟨hword, (Option.some.inj hreader).symm⟩
    · contradiction

theorem word_of_reader {word : Text} {reader : Text → Except Fault Instruction}
    (hreader : reader? word = some reader) : Word word := by
  have hword : word ≠ [] ∧ word.all (fun c => !Text.isBlank c) = true := by
    rcases reader?_eq_some_cases hreader with ⟨rfl, -⟩ | ⟨rfl, -⟩ <;> decide
  exact ⟨hword.1, by simpa using hword.2⟩

theorem strip_tail {rest : Text} (hrest : Behind rest) :
    Text.strip rest.tail = Text.strip rest := by
  cases rest with
  | nil => rfl
  | cons c rest =>
    have hc : Text.isBlank c = true := hrest c rfl
    rw [List.tail_cons, Text.strip_eq, Text.strip_eq, List.dropWhile_cons_of_pos hc]

theorem cut_word {word rest : Text} (hword : ∀ c ∈ word, Text.isBlank c = false)
    (hrest : Behind rest) :
    (Text.cut? Text.isBlank (word ++ rest)).getD (word ++ rest, []) = (word, rest.tail) := by
  cases rest with
  | nil =>
    rw [List.append_nil, Text.cut?_eq_none_iff.2 hword]
    rfl
  | cons c rest =>
    have hcut : Text.cut? Text.isBlank (word ++ c :: rest) = some (word, rest) :=
      Text.cut?_eq_some_iff.2 ⟨hword, c, hrest c rfl, rfl⟩
    rw [hcut]
    rfl

/-- Every text is a word, or none, and what stands behind it. -/
theorem exists_word (core : Text) :
    ∃ word rest, core = word ++ rest ∧ (∀ c ∈ word, Text.isBlank c = false) ∧ Behind rest := by
  refine ⟨core.takeWhile (fun c => !Text.isBlank c), core.dropWhile (fun c => !Text.isBlank c),
    List.takeWhile_append_dropWhile.symm, ?_, ?_⟩
  · intro c hc
    simpa using List.mem_takeWhile_imp hc
  · intro c hc
    have hnot := List.head?_dropWhile_not (fun c => !Text.isBlank c) core
    rw [Option.mem_def.1 hc] at hnot
    simpa using hnot

theorem read_of_word {line word rest : Text} (hline : Text.strip line = word ++ rest)
    (hword : ∀ c ∈ word, Text.isBlank c = false) (hrest : Behind rest)
    (hempty : Text.strip line ≠ []) (hlist : Text.strip line ≠ listWord) :
    read line =
      match reader? word with
      | some reader => (reader (Text.strip rest)).map some
      | none => .error (.unknownCommand (Text.strip line)) := by
  have hnonempty : (Text.strip line).isEmpty = false := by simpa using hempty
  simp only [read, hnonempty, hlist, if_false, Bool.false_eq_true]
  rw [hline, cut_word hword hrest, reader?]
  simp only [strip_tail hrest]
  by_cases hadd : word = addWord
  · simp [hadd]
  · by_cases hremove : word = removeWord
    · have hne : removeWord ≠ addWord := by decide
      simp [hremove, hne]
    · simp [hadd, hremove]

/-- No listing starts with a word that has data. -/
theorem read_of_reader {line word rest : Text} {reader : Text → Except Fault Instruction}
    (hreader : reader? word = some reader) (hline : Text.strip line = word ++ rest)
    (hrest : Behind rest) : read line = (reader (Text.strip rest)).map some := by
  have hcore : Text.strip line ≠ [] ∧ Text.strip line ≠ listWord := by
    rw [hline]
    rcases reader?_eq_some_cases hreader with ⟨rfl, -⟩ | ⟨rfl, -⟩
    · simp [addWord, listWord]
    · simp [removeWord, listWord]
  rw [read_of_word hline (word_of_reader hreader).solid hrest hcore.1 hcore.2, hreader]

/-- All that a line can be: blank, a listing, a word with its data, or unknown. -/
theorem read_cases (line : Text) :
    (Text.strip line = [] ∧ read line = .ok none) ∨
    (Text.strip line = listWord ∧ read line = .ok (some .list)) ∨
    (∃ word rest reader, reader? word = some reader ∧ Text.strip line = word ++ rest ∧
      read line = (reader (Text.strip rest)).map some) ∨
    read line = .error (.unknownCommand (Text.strip line)) := by
  by_cases hempty : Text.strip line = []
  · exact Or.inl ⟨hempty, by simp [read, hempty]⟩
  by_cases hlist : Text.strip line = listWord
  · exact Or.inr (Or.inl ⟨hlist, by simp [read, hlist, listWord]⟩)
  obtain ⟨word, rest, hline, hword, hrest⟩ := exists_word (Text.strip line)
  have hread := read_of_word hline hword hrest hempty hlist
  cases hreader : reader? word with
  | some reader =>
    rw [hreader] at hread
    exact Or.inr (Or.inr (Or.inl ⟨word, rest, reader, hreader, hline, hread⟩))
  | none =>
    rw [hreader] at hread
    exact Or.inr (Or.inr (Or.inr hread))

theorem readAdd_eq_ok {data : Text} {instruction : Instruction}
    (hread : readAdd data = .ok instruction) :
    ∃ tag written, ';' ∉ tag ∧ data = tag ++ ';' :: written ∧
      instruction = .add tag.strip (Fields.read written) := by
  rw [readAdd] at hread
  split at hread
  · contradiction
  · next tag written hcut =>
    obtain ⟨htag, hdata⟩ := Text.of_cut?_eq_some hcut
    exact ⟨tag, written, htag, hdata, (Except.ok.inj hread).symm⟩

theorem readRemove_eq_ok {data : Text} {instruction : Instruction}
    (hread : readRemove data = .ok instruction) :
    ∃ field part, '~' ∉ field ∧ data = field ++ '~' :: part ∧
      instruction = .remove ⟨field.strip, (Text.strip part).unquote⟩ := by
  rw [readRemove] at hread
  split at hread
  · contradiction
  · next field part hcut =>
    obtain ⟨hfield, hdata⟩ := Text.of_cut?_eq_some hcut
    exact ⟨field, part, hfield, hdata, (Except.ok.inj hread).symm⟩

theorem map_some_eq_ok {reading : Except Fault Instruction} {instruction : Instruction}
    (hmap : reading.map some = .ok (some instruction)) : reading = .ok instruction := by
  cases reading with
  | error fault => contradiction
  | ok found => exact congrArg Except.ok (Option.some.inj (Except.ok.inj hmap))

/-- Every instruction that a line gives, with the parts of the line it is made
of. -/
theorem read_eq_some_cases {line : Text} {instruction : Instruction}
    (hread : read line = .ok (some instruction)) :
    instruction = .list ∨
    (∃ tag written : Text, ';' ∉ tag ∧ written ⊆ line ∧
      instruction = .add tag.strip (Fields.read written)) ∨
    ∃ field part : Text, '~' ∉ field ∧
      instruction = .remove ⟨field.strip, (Text.strip part).unquote⟩ := by
  rcases read_cases line with ⟨-, h⟩ | ⟨-, h⟩ | ⟨word, rest, reader, hreader, hline, h⟩ | h
  · simp [h] at hread
  · exact Or.inl (Option.some.inj (Except.ok.inj (hread.symm.trans h)))
  · have hdata := map_some_eq_ok (h.symm.trans hread)
    rcases reader?_eq_some_cases hreader with ⟨-, rfl⟩ | ⟨-, rfl⟩
    · obtain ⟨tag, written, htag, hrest, heq⟩ := readAdd_eq_ok hdata
      refine Or.inr (Or.inl ⟨tag, written, htag, ?_, heq⟩)
      intro c hc
      have hmem : c ∈ rest := Text.strip_subset rest (by simp [hrest, hc])
      exact Text.strip_subset line (by simp [hline, hmem])
    · obtain ⟨field, part, hfield, -, heq⟩ := readRemove_eq_ok hdata
      exact Or.inr (Or.inr ⟨field, part, hfield, heq⟩)
  · simp [h] at hread

/-- Blanks around what is added do not count. -/
theorem readAdd_strip {tag : Text} (htag : ';' ∉ tag) (written : Text) :
    readAdd (Text.strip (tag ++ ';' :: written)) = .ok (.add tag.strip (Fields.read written)) := by
  have hfirst : ';' ∉ tag.dropWhile Text.isBlank := fun hmem =>
    htag ((List.dropWhile_sublist _).subset hmem)
  rw [Text.strip_append_cons (by decide), readAdd, Text.cut?_first hfirst]
  simp only [Text.strip_dropWhile, Fields.read_rdropWhile]

/-- Blanks around a condition do not count. -/
theorem readRemove_strip {field : Text} (hfield : '~' ∉ field) (part : Text) :
    readRemove (Text.strip (field ++ '~' :: part)) =
      .ok (.remove ⟨field.strip, (Text.strip part).unquote⟩) := by
  have hfirst : '~' ∉ field.dropWhile Text.isBlank := fun hmem =>
    hfield ((List.dropWhile_sublist _).subset hmem)
  rw [Text.strip_append_cons (by decide), readRemove, Text.cut?_first hfirst]
  simp only [Text.strip_dropWhile, Text.strip_rdropWhile]

section Padded

variable {before gap after : Text} (hbefore : Text.Blank before) (hgap : Text.Blank gap)
  (hne : gap ≠ []) (hafter : Text.Blank after)

include hbefore hgap hne hafter

/-- A word and its data, with blanks before, between and after them. -/
theorem strip_word {word : Text} (hword : Word word) (data : Text) :
    ∃ rest, Text.strip (before ++ word ++ gap ++ data ++ after) = word ++ rest ∧
      Behind rest ∧ Text.strip rest = Text.strip data := by
  let behind := gap ++ data ++ after
  have hsplit : behind.rdropWhile Text.isBlank ++ behind.rtakeWhile Text.isBlank = behind :=
    List.rdropWhile_append_rtakeWhile
  have hend : Text.Blank (behind.rtakeWhile Text.isBlank) :=
    fun c hc => List.mem_rtakeWhile_imp hc
  refine ⟨behind.rdropWhile Text.isBlank, ?_, ?_, ?_⟩
  · have hline : before ++ word ++ gap ++ data ++ after =
        before ++ (word ++ behind.rdropWhile Text.isBlank) ++
          behind.rtakeWhile Text.isBlank := by
      calc before ++ word ++ gap ++ data ++ after
          = before ++ (word ++ behind) := by simp [behind]
        _ = before ++ (word ++ (behind.rdropWhile Text.isBlank ++
              behind.rtakeWhile Text.isBlank)) := by rw [hsplit]
        _ = _ := by simp only [List.append_assoc]
    rw [hline]
    exact Text.strip_padded hbefore (hword.tight_append (Text.rdropWhile_last behind)) hend
  · intro c hc
    have hhead := Text.head?_append_of_mem hc (behind.rtakeWhile Text.isBlank)
    have hbehind : behind = gap ++ (data ++ after) := List.append_assoc gap data after
    rw [hsplit, hbehind, List.head?_append_of_ne_nil _ hne] at hhead
    exact hgap c (List.mem_of_mem_head? hhead)
  · rw [Text.strip_rdropWhile, Text.strip_surrounded hgap hafter]

/-- Blanks around a line and around the data on it do not count. -/
theorem read_padded {word : Text} {reader : Text → Except Fault Instruction}
    (hreader : reader? word = some reader) (data : Text) :
    read (before ++ word ++ gap ++ data ++ after) = (reader (Text.strip data)).map some := by
  obtain ⟨rest, hline, hrest, hdata⟩ :=
    strip_word hbefore hgap hne hafter (word_of_reader hreader) data
  rw [read_of_reader hreader hline hrest, hdata]

end Padded

theorem read_spaced {word : Text} {reader : Text → Except Fault Instruction}
    (hreader : reader? word = some reader) (data : Text) :
    read (word ++ [' '] ++ data) = (reader (Text.strip data)).map some := by
  have hread := read_padded Text.blank_nil Text.blank_space (List.cons_ne_nil ' ' [])
    Text.blank_nil hreader data
  rwa [List.append_nil, List.nil_append] at hread

end Instruction

end Commonplace
