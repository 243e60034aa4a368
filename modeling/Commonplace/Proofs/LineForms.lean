/-
The forms of a line.  What is left of it between its outer blanks is nothing, a listing, one
of the two words with data behind it, or none of these; and the form says what is read, down
to what is complained of.
-/
import Commonplace.Proofs.Layout
import Commonplace.Proofs.Reading

namespace Commonplace

namespace Instruction

/-- A word alone or with a blank behind it, and the data that it has: what stands behind it
without the blanks around. -/
def Heads (word core data : Text) : Prop :=
  ∃ rest, core = word ++ rest ∧ Behind rest ∧ Text.strip rest = data

theorem Heads.unique {word core data other : Text} (hdata : Heads word core data)
    (hother : Heads word core other) : data = other := by
  obtain ⟨rest, rfl, -, rfl⟩ := hdata
  obtain ⟨behind, hcore, -, rfl⟩ := hother
  rw [List.append_cancel_left hcore]

/-- What is read of a line by what is left of it between its outer blanks. -/
inductive Form : Text → Except Fault (Option Instruction) → Prop
  | blank : Form [] (.ok none)
  | listing : Form listWord (.ok (some .list))
  | adding {core tag written : Text} (hcore : Heads addWord core (tag ++ ';' :: written))
    (htag : ';' ∉ tag) : Form core (.ok (some (.add tag.strip (Fields.read written))))
  | noSemicolon {core data : Text} (hcore : Heads addWord core data) (hdata : ';' ∉ data) :
    Form core (.error (.noSemicolon data))
  | removing {core field part : Text} (hcore : Heads removeWord core (field ++ '~' :: part))
    (hfield : '~' ∉ field) :
    Form core (.ok (some (.remove ⟨field.strip, (Text.strip part).unquote⟩)))
  | noTilde {core data : Text} (hcore : Heads removeWord core data) (hdata : '~' ∉ data) :
    Form core (.error (.noTilde data))
  | unknown {core : Text} (hempty : core ≠ []) (hlist : core ≠ listWord)
    (hadd : ∀ data, ¬ Heads addWord core data) (hremove : ∀ data, ¬ Heads removeWord core data) :
    Form core (.error (.unknownCommand core))

namespace Form

variable {core data : Text}

theorem blank_iff : Form core (.ok none) ↔ core = [] := by
  constructor
  · intro hform
    cases hform
    rfl
  · rintro rfl
    exact .blank

theorem listing_iff : Form core (.ok (some .list)) ↔ core = listWord := by
  constructor
  · intro hform
    cases hform
    rfl
  · rintro rfl
    exact .listing

theorem adding_iff (hcore : Heads addWord core data) :
    (∃ tag fields, Form core (.ok (some (.add tag fields)))) ↔ ';' ∈ data := by
  constructor
  · rintro ⟨tag, fields, hform⟩
    cases hform with
    | adding hother htag => simp [hcore.unique hother]
  · intro hdata
    obtain ⟨tag, written, htag, rfl, -⟩ := Text.cut?_of_mem hdata
    exact ⟨_, _, .adding hcore htag⟩

theorem noSemicolon_iff (hcore : Heads addWord core data) :
    Form core (.error (.noSemicolon data)) ↔ ';' ∉ data := by
  constructor
  · intro hform
    cases hform with
    | noSemicolon hother hdata => exact hdata
  · exact .noSemicolon hcore

theorem removing_iff (hcore : Heads removeWord core data) :
    (∃ condition, Form core (.ok (some (.remove condition)))) ↔ '~' ∈ data := by
  constructor
  · rintro ⟨condition, hform⟩
    cases hform with
    | removing hother hfield => simp [hcore.unique hother]
  · intro hdata
    obtain ⟨field, part, hfield, rfl, -⟩ := Text.cut?_of_mem hdata
    exact ⟨_, .removing hcore hfield⟩

theorem noTilde_iff (hcore : Heads removeWord core data) :
    Form core (.error (.noTilde data)) ↔ '~' ∉ data := by
  constructor
  · intro hform
    cases hform with
    | noTilde hother hdata => exact hdata
  · exact .noTilde hcore

theorem unknown_iff : Form core (.error (.unknownCommand core)) ↔
    core ≠ [] ∧ core ≠ listWord ∧ (∀ data, ¬ Heads addWord core data) ∧
      ∀ data, ¬ Heads removeWord core data := by
  constructor
  · intro hform
    cases hform with
    | unknown hempty hlist hadd hremove => exact ⟨hempty, hlist, hadd, hremove⟩
  · rintro ⟨hempty, hlist, hadd, hremove⟩
    exact .unknown hempty hlist hadd hremove

end Form

/-- Every text has a form. -/
theorem exists_form (core : Text) : ∃ result, Form core result := by
  by_cases hempty : core = []
  · subst hempty
    exact ⟨_, .blank⟩
  by_cases hlist : core = listWord
  · subst hlist
    exact ⟨_, .listing⟩
  by_cases hadd : ∃ data, Heads addWord core data
  · obtain ⟨data, hcore⟩ := hadd
    by_cases hdata : ';' ∈ data
    · obtain ⟨tag, fields, hform⟩ := (Form.adding_iff hcore).2 hdata
      exact ⟨_, hform⟩
    · exact ⟨_, .noSemicolon hcore hdata⟩
  by_cases hremove : ∃ data, Heads removeWord core data
  · obtain ⟨data, hcore⟩ := hremove
    by_cases hdata : '~' ∈ data
    · obtain ⟨condition, hform⟩ := (Form.removing_iff hcore).2 hdata
      exact ⟨_, hform⟩
    · exact ⟨_, .noTilde hcore hdata⟩
  exact ⟨_, .unknown hempty hlist (not_exists.1 hadd) (not_exists.1 hremove)⟩

theorem read_of_heads {line word data : Text} {reader : Text → Except Fault Instruction}
    (hreader : reader? word = some reader) (hline : Heads word line.strip data) :
    read line = (reader data).map some := by
  obtain ⟨rest, hcore, hrest, rfl⟩ := hline
  exact read_of_reader hreader hcore hrest

/-- A line is read as its form says. -/
theorem read_of_form {line : Text} {result : Except Fault (Option Instruction)}
    (hform : Form line.strip result) : read line = result := by
  generalize hcore : Text.strip line = core at hform
  cases hform with
  | blank => simp [read, hcore]
  | listing => simp [read, hcore, listWord]
  | adding hheads htag =>
    rw [read_of_heads reader?_addWord (hcore ▸ hheads), readAdd, Text.cut?_first htag]
    rfl
  | noSemicolon hheads hdata =>
    rw [read_of_heads reader?_addWord (hcore ▸ hheads), readAdd, Text.cut?_of_not_mem hdata]
    rfl
  | removing hheads hfield =>
    rw [read_of_heads reader?_removeWord (hcore ▸ hheads), readRemove, Text.cut?_first hfield]
    rfl
  | noTilde hheads hdata =>
    rw [read_of_heads reader?_removeWord (hcore ▸ hheads), readRemove, Text.cut?_of_not_mem hdata]
    rfl
  | unknown hempty hlist hnoAdd hnoRemove =>
    obtain ⟨word, rest, rfl, hword, hrest⟩ := exists_word core
    have hnone : reader? word = none := by
      cases hreader : reader? word with
      | none => rfl
      | some reader =>
        rcases reader?_eq_some_cases hreader with ⟨rfl, -⟩ | ⟨rfl, -⟩
        · exact absurd ⟨rest, rfl, hrest, rfl⟩ (hnoAdd _)
        · exact absurd ⟨rest, rfl, hrest, rfl⟩ (hnoRemove _)
    rw [read_of_word hcore hword hrest (hcore ▸ hempty) (hcore ▸ hlist), hnone, hcore]

theorem read_eq_iff_form {line : Text} {result : Except Fault (Option Instruction)} :
    read line = result ↔ Form line.strip result := by
  constructor
  · rintro rfl
    obtain ⟨result, hform⟩ := exists_form line.strip
    rwa [read_of_form hform]
  · exact read_of_form

/-- When each kind of result is that of a line, by what is left of the line between its outer
blanks. -/
structure Classification (core : Text) (result : Except Fault (Option Instruction)) : Prop where
  blank : result = .ok none ↔ core = []
  listing : result = .ok (some .list) ↔ core = listWord
  adding : ∀ data, Heads addWord core data →
    ((∃ tag fields, result = .ok (some (.add tag fields))) ↔ ';' ∈ data)
  noSemicolon : ∀ data, Heads addWord core data →
    (result = .error (.noSemicolon data) ↔ ';' ∉ data)
  removing : ∀ data, Heads removeWord core data →
    ((∃ condition, result = .ok (some (.remove condition))) ↔ '~' ∈ data)
  noTilde : ∀ data, Heads removeWord core data →
    (result = .error (.noTilde data) ↔ '~' ∉ data)
  unknown : result = .error (.unknownCommand core) ↔
    core ≠ [] ∧ core ≠ listWord ∧ (∀ data, ¬ Heads addWord core data) ∧
      ∀ data, ¬ Heads removeWord core data

theorem read_classification (line : Text) : Classification line.strip (read line) := by
  constructor <;> simp only [read_eq_iff_form]
  case blank => exact Form.blank_iff
  case listing => exact Form.listing_iff
  case adding => exact fun _ => Form.adding_iff
  case noSemicolon => exact fun _ => Form.noSemicolon_iff
  case removing => exact fun _ => Form.removing_iff
  case noTilde => exact fun _ => Form.noTilde_iff
  case unknown => exact Form.unknown_iff

theorem read_surrounded {before after : Text} (hbefore : Text.Blank before)
    (hafter : Text.Blank after) (line : Text) : read (before ++ line ++ after) = read line := by
  rw [← read_strip, Text.strip_surrounded hbefore hafter, read_strip]

/-- Which blanks stand behind a word with data does not count. -/
theorem read_gap {word gap other : Text} {reader : Text → Except Fault Instruction}
    (hreader : reader? word = some reader) (hgap : Text.Blank gap) (hne : gap ≠ [])
    (hother : Text.Blank other) (hotherNe : other ≠ []) (data : Text) :
    read (word ++ gap ++ data) = read (word ++ other ++ data) := by
  have hread := read_padded Text.blank_nil hgap hne Text.blank_nil hreader data
  have hsame := read_padded Text.blank_nil hother hotherNe Text.blank_nil hreader data
  rw [List.nil_append, List.append_nil] at hread hsame
  rw [hread, hsame]

/-- What stands between the outer blanks of a line tells alone whether nothing is read, a listing,
an addition, a removal, or which complaint with which text.  Nor does it count which blanks
stand behind the word of an addition or a removal. -/
theorem read_line_forms :
    (∀ before core after : Text, Text.Blank before → Text.Tight core → Text.Blank after →
      Classification core (read (before ++ core ++ after))) ∧
    (∀ line : Text, ∃ before core after : Text, Text.Blank before ∧ Text.Tight core ∧
      Text.Blank after ∧ line = before ++ core ++ after) ∧
    (∀ before line after : Text, Text.Blank before → Text.Blank after →
      read (before ++ line ++ after) = read line) ∧
    ∀ word gap other data : Text, word = addWord ∨ word = removeWord →
      Text.Blank gap → gap ≠ [] → Text.Blank other → other ≠ [] →
        read (word ++ gap ++ data) = read (word ++ other ++ data) := by
  refine ⟨fun before core after hbefore hcore hafter => ?_, fun line => ?_,
    fun before line after hbefore hafter => read_surrounded hbefore hafter line,
    fun word gap other data hword hgap hne hother hotherNe => ?_⟩
  · have hclass := read_classification (before ++ core ++ after)
    rwa [Text.strip_padded hbefore hcore hafter] at hclass
  · obtain ⟨before, after, hbefore, hafter, hline⟩ := Text.exists_padding line
    exact ⟨before, line.strip, after, hbefore, Text.strip_tight line, hafter, hline⟩
  · rcases hword with rfl | rfl
    · exact read_gap reader?_addWord hgap hne hother hotherNe data
    · exact read_gap reader?_removeWord hgap hne hother hotherNe data

/-- A word alone, a word with unusual blanks around its data, and a listing behind a mark that
cannot be seen but is no blank. -/
theorem read_line_forms_unusual :
    read "\tREM\u3000".toList = .error (.noTilde []) ∧
      read "\u2003ADD\u2028A B\r".toList = .error (.noSemicolon "A B".toList) ∧
      read "ADD\u2028A;".toList = read "ADD \t A;".toList ∧
      read "\uFEFFPRINT".toList = .error (.unknownCommand "\uFEFFPRINT".toList) := by
  refine ⟨?_, ?_, ?_, ?_⟩
  · have hclass := read_line_forms.1 "\t".toList "REM".toList "\u3000".toList
      (by decide) (by decide) (by decide)
    exact (hclass.noTilde [] ⟨[], rfl, by simp [Behind], rfl⟩).2 (by decide)
  · have hclass := read_line_forms.1 "\u2003".toList "ADD\u2028A B".toList "\r".toList
      (by decide) (by decide) (by decide)
    have hheads : Heads addWord "ADD\u2028A B".toList "A B".toList :=
      ⟨"\u2028A B".toList, rfl, by simp [Behind]; decide, by decide⟩
    exact (hclass.noSemicolon _ hheads).2 (by decide)
  · exact read_line_forms.2.2.2 addWord "\u2028".toList " \t ".toList "A;".toList
      (Or.inl rfl) (by decide) (by decide) (by decide) (by decide)
  · have hclass := read_line_forms.1 [] "\uFEFFPRINT".toList [] (by decide) (by decide)
      (by decide)
    refine hclass.unknown.2 ⟨by decide, by decide, ?_, ?_⟩
    · rintro data ⟨rest, hcore, -⟩
      simp [addWord] at hcore
    · rintro data ⟨rest, hcore, -⟩
      simp [removeWord] at hcore

end Instruction

end Commonplace
