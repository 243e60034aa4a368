/-
The grammar of a line that adds a saying, both ways: every way of writing a tag
and named values is read as them, and whatever is read from such a line can be
written again.
-/
import Commonplace.Proofs.Reading

namespace Commonplace

/-- A run of blanks, perhaps of none. -/
structure Gap where
  text : Text
  blank : Text.Blank text

def Gap.empty : Gap := ⟨[], Text.blank_nil⟩

@[simp]
theorem Gap.empty_text : Gap.empty.text = [] := rfl

/-- A name and a value that can stand in a segment. -/
structure NamedValue where
  name : Text
  value : Text
  name_tight : Text.Tight name
  name_one : ';' ∉ name
  name_plain : '=' ∉ name
  value_one : ';' ∉ value

/-- The two ways to write a value: between quotation marks, or bare where stripping
and unquoting would take nothing away. -/
inductive Writing (value : Text)
  | quoted
  | bare (tight : Text.Tight value) (unmarked : ¬ Text.Marked value)

namespace Writing

variable {value : Text}

def text : Writing value → Text
  | .quoted => value.quoted
  | .bare _ _ => value

theorem text_tight (writing : Writing value) : Text.Tight writing.text := by
  cases writing with
  | quoted => exact Text.quoted_tight value
  | bare tight unmarked => exact tight

theorem unquote_text (writing : Writing value) : writing.text.unquote = value := by
  cases writing with
  | quoted => exact Text.unquote_quoted value
  | bare tight unmarked => exact Text.unquote_of_not_marked unmarked

theorem not_mem_text (writing : Writing value) {c : Char} (hmark : c ≠ '"') (hc : c ∉ value) :
    c ∉ writing.text := by
  cases writing with
  | quoted => simp [text, Text.quoted, hmark, hc]
  | bare tight unmarked => exact hc

end Writing

/-- What can stand between two semicolons: something that is passed over, or a name
and a value with blanks around them and around the equals sign. -/
inductive Segment
  | junk (text : Text) (one : ';' ∉ text) (plain : '=' ∉ text)
  | named (given : NamedValue) (writing : Writing given.value)
      (beforeName afterName beforeValue afterValue : Gap)

namespace Segment

def text : Segment → Text
  | .junk text _ _ => text
  | .named given writing beforeName afterName beforeValue afterValue =>
    (beforeName.text ++ given.name ++ afterName.text) ++
      '=' :: (beforeValue.text ++ writing.text ++ afterValue.text)

def pair? : Segment → Option (Text × Text)
  | .junk _ _ _ => none
  | .named given _ _ _ _ _ => some (given.name, given.value)

theorem not_mem_text (segment : Segment) : ';' ∉ segment.text := by
  have hgap : ∀ gap : Gap, ';' ∉ gap.text := fun gap => gap.blank.not_mem (by decide)
  cases segment with
  | junk text one plain => exact one
  | named given writing beforeName afterName beforeValue afterValue =>
    have hwriting := writing.not_mem_text (c := ';') (by decide) given.value_one
    simp [text, hgap, given.name_one, hwriting]

/-- A segment is read as the named value it was written for. -/
theorem entry?_text (segment : Segment) : Fields.entry? segment.text = segment.pair? := by
  cases segment with
  | junk text one plain => exact Fields.entry?_eq_none_iff.2 plain
  | named given writing beforeName afterName beforeValue afterValue =>
    have hgap : ∀ gap : Gap, '=' ∉ gap.text := fun gap => gap.blank.not_mem (by decide)
    have hleft : '=' ∉ beforeName.text ++ given.name ++ afterName.text := by
      simp [hgap, given.name_plain]
    have hname : Text.strip (beforeName.text ++ given.name ++ afterName.text) = given.name :=
      Text.strip_padded beforeName.blank given.name_tight afterName.blank
    have hvalue : Text.strip (beforeValue.text ++ writing.text ++ afterValue.text) =
        writing.text :=
      Text.strip_padded beforeValue.blank writing.text_tight afterValue.blank
    refine Fields.entry?_eq_some_iff.2 ⟨_, _, hleft, rfl, hname.symm, ?_⟩
    rw [hvalue, writing.unquote_text]

theorem read_join (segments : List Segment) :
    Fields.read (Text.join ';' (segments.map text)) = Fields.ofList (segments.filterMap pair?) := by
  have hone : ∀ written ∈ segments.map text, ';' ∉ written := by
    intro written hwritten
    obtain ⟨segment, -, rfl⟩ := List.mem_map.1 hwritten
    exact segment.not_mem_text
  have hentry : Fields.entry? ∘ text = pair? := funext entry?_text
  rw [Fields.read_join hone, List.filterMap_map, hentry]

/-- A named value in the plainest writing. -/
def plain (given : NamedValue) : Segment :=
  .named given .quoted .empty .empty .empty .empty

@[simp]
theorem plain_text (given : NamedValue) :
    (plain given).text = given.name ++ '=' :: given.value.quoted := by
  simp [plain, text, Writing.text]

@[simp]
theorem plain_pair? (given : NamedValue) : (plain given).pair? = some (given.name, given.value) :=
  rfl

end Segment

namespace Instruction

/-- A line that adds a saying, in any of the ways to write it. -/
def addLine (before gap : Gap) (tag : Text) (segments : List Segment) (after : Gap) : Text :=
  before.text ++ addWord ++ gap.text ++
    (tag ++ ';' :: Text.join ';' (segments.map Segment.text)) ++ after.text

theorem read_addLine (before gap : Gap) {tag : Text} (segments : List Segment) (after : Gap)
    (hgap : gap.text ≠ []) (htag : ';' ∉ tag) :
    read (addLine before gap tag segments after) =
      .ok (some (.add tag.strip (Fields.ofList (segments.filterMap Segment.pair?)))) := by
  rw [addLine, read_padded before.blank gap.blank hgap after.blank reader?_addWord,
    readAdd_strip htag, Segment.read_join]
  rfl

/-- Everything that is added stands on the line. -/
theorem of_read_add {line tag : Text} {fields : Fields}
    (hread : read line = .ok (some (.add tag fields))) :
    Text.Tight tag ∧ ';' ∉ tag ∧ ∃ written, written ⊆ line ∧ fields = Fields.read written := by
  rcases read_eq_some_cases hread with h | ⟨name, written, hname, hwritten, h⟩ | ⟨_, _, _, h⟩
  · contradiction
  · obtain ⟨rfl, rfl⟩ := Instruction.add.inj h
    exact ⟨Text.strip_tight name, fun hmem => hname (Text.strip_subset name hmem), written,
      hwritten, rfl⟩
  · contradiction

theorem of_read_add_get? {line tag name value : Text} {fields : Fields}
    (hread : read line = .ok (some (.add tag fields))) (hget : fields.get? name = some value) :
    Text.Tight name ∧ ';' ∉ name ∧ '=' ∉ name ∧ ';' ∉ value ∧ value ⊆ line := by
  obtain ⟨-, -, written, hwritten, rfl⟩ := of_read_add hread
  obtain ⟨htight, hone, hplain, hvalue, hsubset⟩ := Fields.of_get?_read hget
  exact ⟨htight, hone, hplain, hvalue, List.Subset.trans hsubset hwritten⟩

/-- The one way to write a tag and fields that needs no choice. -/
def plainAddLine (tag : Text) (fields : Fields) : Text :=
  addWord ++ [' '] ++ tag ++
    ';' :: Text.join ';' (fields.entries.map fun entry => entry.1 ++ '=' :: entry.2.quoted)

theorem exists_plain_segments {entries : List (Text × Text)}
    (hentries : ∀ entry ∈ entries,
      Text.Tight entry.1 ∧ ';' ∉ entry.1 ∧ '=' ∉ entry.1 ∧ ';' ∉ entry.2) :
    ∃ segments : List Segment, segments.filterMap Segment.pair? = entries ∧
      segments.map Segment.text =
        entries.map fun entry => entry.1 ++ '=' :: entry.2.quoted := by
  induction entries with
  | nil => exact ⟨[], rfl, rfl⟩
  | cons entry entries ih =>
    obtain ⟨segments, hpairs, htexts⟩ := ih fun other hother =>
      hentries other (List.mem_cons_of_mem _ hother)
    obtain ⟨htight, hone, hplain, hvalue⟩ := hentries entry List.mem_cons_self
    let given : NamedValue := ⟨entry.1, entry.2, htight, hone, hplain, hvalue⟩
    refine ⟨Segment.plain given :: segments, ?_, ?_⟩
    · simp [hpairs, given]
    · simp [htexts, given]

theorem read_plainAddLine {tag : Text} {fields : Fields} (htag : Text.Tight tag)
    (hone : ';' ∉ tag)
    (hfields : ∀ name value, fields.get? name = some value →
      Text.Tight name ∧ ';' ∉ name ∧ '=' ∉ name ∧ ';' ∉ value) :
    read (plainAddLine tag fields) = .ok (some (.add tag fields)) := by
  have hentries : ∀ entry ∈ fields.entries,
      Text.Tight entry.1 ∧ ';' ∉ entry.1 ∧ '=' ∉ entry.1 ∧ ';' ∉ entry.2 := fun entry hentry =>
    hfields entry.1 entry.2 (Fields.get?_eq_some_iff.2 hentry)
  obtain ⟨segments, hpairs, htexts⟩ := exists_plain_segments hentries
  have hline : plainAddLine tag fields =
      addLine .empty ⟨[' '], by decide⟩ tag segments .empty := by
    simp [plainAddLine, addLine, htexts]
  rw [hline, read_addLine _ _ _ _ (by simp) hone, hpairs, Text.strip_of_tight htag,
    Fields.ofList_entries]

/-- A line written by the grammar gives its stripped tag and, under every name, the
value of the last segment with that name.  What any line gives, the plain writing
gives again. -/
theorem read_add_grammar :
    (∀ (before gap after : Gap) (tag : Text) (segments : List Segment),
      gap.text ≠ [] → ';' ∉ tag →
        ∃ fields, read (addLine before gap tag segments after) =
            .ok (some (.add tag.strip fields)) ∧
          ∀ name, fields.get? name =
            Fields.lastValue? (segments.filterMap Segment.pair?) name) ∧
    ∀ (line tag : Text) (fields : Fields), read line = .ok (some (.add tag fields)) →
      Text.Tight tag ∧ ';' ∉ tag ∧
        (∀ name value, fields.get? name = some value →
          Text.Tight name ∧ ';' ∉ name ∧ '=' ∉ name ∧ ';' ∉ value) ∧
        read (plainAddLine tag fields) = .ok (some (.add tag fields)) := by
  constructor
  · intro before gap after tag segments hgap htag
    exact ⟨_, read_addLine before gap segments after hgap htag, fun name =>
      Fields.get?_ofList _ name⟩
  · intro line tag fields hread
    obtain ⟨htight, hone, -⟩ := of_read_add hread
    have hfields : ∀ name value, fields.get? name = some value →
        Text.Tight name ∧ ';' ∉ name ∧ '=' ∉ name ∧ ';' ∉ value := by
      intro name value hget
      obtain ⟨hname, hnameOne, hplain, hvalue, -⟩ := of_read_add_get? hread hget
      exact ⟨hname, hnameOne, hplain, hvalue⟩
    exact ⟨htight, hone, hfields, read_plainAddLine htight hone hfields⟩

/-- A name that comes twice, with blanks around everything, first between marks and
then bare; and a lone mark that is written again between marks. -/
theorem read_add_grammar_twice :
    (∃ fields, read "\n ADD\t A ;x~y;\u3000b = \" c=d \" ;b=e\"f ".toList =
        .ok (some (.add "A".toList fields)) ∧
      fields.get? "b".toList = some "e\"f".toList) ∧
    ∃ fields, read "ADD A;b=\"".toList = .ok (some (.add "A".toList fields)) ∧
      read "ADD A;b=\"\"\"".toList = .ok (some (.add "A".toList fields)) := by
  constructor
  · obtain ⟨fields, hread, hget⟩ := read_add_grammar.1
      ⟨"\n ".toList, by decide⟩ ⟨"\t ".toList, by decide⟩ ⟨" ".toList, by decide⟩ "A ".toList
      [.junk "x~y".toList (by decide) (by decide),
        .named ⟨"b".toList, " c=d ".toList, by decide, by decide, by decide, by decide⟩ .quoted
          ⟨"\u3000".toList, by decide⟩ ⟨" ".toList, by decide⟩ ⟨" ".toList, by decide⟩
          ⟨" ".toList, by decide⟩,
        .named ⟨"b".toList, "e\"f".toList, by decide, by decide, by decide, by decide⟩
          (.bare (by decide) (by decide)) .empty .empty .empty .empty]
      (by decide) (by decide)
    exact ⟨fields, hread, hget _⟩
  · exact ⟨_, rfl, (read_add_grammar.2 "ADD A;b=\"".toList _ _ rfl).2.2.2⟩

end Instruction

end Commonplace
