/-
Which sayings a run from the empty book can leave: those whose values fit on a line
and between semicolons.  Each such list has a text that leaves exactly it.
-/
import Commonplace.Proofs.AddLine
import Commonplace.Proofs.Making
import Commonplace.Proofs.Verdict

namespace Commonplace

namespace Saying

/-- No value holds a semicolon or a line feed. -/
def Storable (saying : Saying) : Prop :=
  ∀ name value, saying.field? name = some value → ';' ∉ value ∧ '\n' ∉ value

theorem storable_iff {saying : Saying} :
    saying.Storable ↔
      (';' ∉ saying.content ∧ '\n' ∉ saying.content) ∧
        (';' ∉ saying.origin ∧ '\n' ∉ saying.origin) := by
  constructor
  · intro hstorable
    exact ⟨hstorable _ _ saying.field?_contentName, hstorable _ _ saying.field?_originName⟩
  · rintro ⟨hcontent, horigin⟩ name value hfield
    rcases field?_eq_some_iff.1 hfield with ⟨-, rfl⟩ | ⟨-, rfl⟩
    · exact hcontent
    · exact horigin

/-- The line that adds a saying, its values between marks. -/
def line (saying : Saying) : Text :=
  Instruction.addWord ++ [' '] ++ saying.kind.tag ++ [';'] ++
    contentName ++ ['='] ++ saying.content.quoted ++ [';'] ++
    saying.kind.originName ++ ['='] ++ saying.origin.quoted

/-- The line of a storable saying is one that the grammar writes. -/
theorem read_line {saying : Saying} (hstorable : saying.Storable) :
    Instruction.read saying.line =
      .ok (some (.add saying.kind.tag (Fields.ofList
        [(contentName, saying.content), (saying.kind.originName, saying.origin)]))) := by
  obtain ⟨⟨hcontent, -⟩, ⟨horigin, -⟩⟩ := storable_iff.1 hstorable
  have hkind := saying.kind.originName_lettered
  let content : NamedValue := ⟨contentName, saying.content, contentName_lettered.tight,
    contentName_lettered.not_mem rfl, contentName_lettered.not_mem rfl, hcontent⟩
  let origin : NamedValue := ⟨saying.kind.originName, saying.origin, hkind.tight,
    hkind.not_mem rfl, hkind.not_mem rfl, horigin⟩
  have hline : saying.line =
      Instruction.addLine .empty ⟨[' '], by decide⟩ saying.kind.tag
        [Segment.plain content, Segment.plain origin] .empty := by
    simp [line, Instruction.addLine, Text.join, content, origin]
  rw [hline, Instruction.read_addLine _ _ _ _ (by simp) (saying.kind.tag_lettered.not_mem rfl),
    Text.strip_of_tight saying.kind.tag_lettered.tight]
  simp [content, origin]

theorem ofLine_line {saying : Saying} (hstorable : saying.Storable) :
    Verdict.ofLine saying.line = .adds saying :=
  Verdict.ofLine_eq_adds_iff.2 ⟨_, _, read_line hstorable, create_own _ _ _⟩

theorem not_mem_line {saying : Saying} (hstorable : saying.Storable) : '\n' ∉ saying.line := by
  obtain ⟨⟨-, hcontent⟩, ⟨-, horigin⟩⟩ := storable_iff.1 hstorable
  have hword : Text.Lettered Instruction.addWord := by decide
  simp [line, Text.quoted, hword.not_mem, contentName_lettered.not_mem,
    saying.kind.tag_lettered.not_mem, saying.kind.originName_lettered.not_mem, hcontent, horigin]

@[simp]
theorem line_getLast? (saying : Saying) : saying.line.getLast? = some '"' := by
  rw [line, List.getLast?_append, Text.quoted_getLast?]
  rfl

end Saying

namespace Book

/-- The segments of a line keep semicolons out of the values, and the line itself
keeps line feeds out. -/
theorem storable_of_adds {line : Text} (hline : '\n' ∉ line) {saying : Saying}
    (hadds : Verdict.ofLine line = .adds saying) : saying.Storable := by
  intro name value hfield
  obtain ⟨tag, fields, hread, hcreate⟩ := Verdict.ofLine_eq_adds_iff.1 hadds
  have hget := Saying.get?_of_create hcreate hfield
  obtain ⟨-, -, -, hone, hsubset⟩ := Instruction.of_read_add_get? hread hget
  exact ⟨hone, fun hmem => hline (hsubset hmem)⟩

theorem process_storable {book : Book} (hbook : ∀ saying ∈ book.sayings, saying.Storable)
    {line : Text} (hline : '\n' ∉ line) :
    ∀ saying ∈ (book.process line).1.sayings, saying.Storable := by
  intro saying hsaying
  rw [process_eq] at hsaying
  rcases Verdict.of_mem_leaves hsaying with hbefore | hadds
  · exact hbook saying hbefore
  · exact storable_of_adds hline hadds

theorem processAll_storable {lines : List Text} (hlines : ∀ line ∈ lines, '\n' ∉ line)
    {book : Book} (hbook : ∀ saying ∈ book.sayings, saying.Storable) :
    ∀ saying ∈ (book.processAll lines).1.sayings, saying.Storable := by
  induction lines generalizing book with
  | nil => simpa using hbook
  | cons line rest ih =>
    rw [processAll_cons]
    apply ih
    · exact fun other hother => hlines other (List.mem_cons_of_mem _ hother)
    · exact process_storable hbook (hlines line List.mem_cons_self)

/-- The text of one line for each saying. -/
def replay (sayings : List Saying) : Text := Text.join '\n' (sayings.map Saying.line)

theorem lines_replay {sayings : List Saying} (hstorable : ∀ saying ∈ sayings, saying.Storable) :
    (replay sayings).lines = sayings.map Saying.line := by
  apply Text.lines_join
  · intro part hpart
    obtain ⟨saying, hsaying, rfl⟩ := List.mem_map.1 hpart
    exact Saying.not_mem_line (hstorable saying hsaying)
  · intro part hpart
    obtain ⟨saying, -, rfl⟩ := List.mem_map.1 hpart
    simp
  · intro part hpart
    obtain ⟨saying, -, rfl⟩ := List.mem_map.1 hpart
    simp [Saying.line, Instruction.addWord]

theorem processAll_replay (book : Book) {sayings : List Saying}
    (hstorable : ∀ saying ∈ sayings, saying.Storable) :
    book.processAll (sayings.map Saying.line) = (⟨book.sayings ++ sayings⟩, []) := by
  induction sayings generalizing book with
  | nil => simp
  | cons saying sayings ih =>
    have hverdict := Saying.ofLine_line (hstorable saying List.mem_cons_self)
    have hrest := fun book => ih book fun other hother =>
      hstorable other (List.mem_cons_of_mem _ hother)
    rw [List.map_cons, processAll_cons, process_eq, hverdict, hrest]
    simp [Verdict.leaves, Verdict.outcome, Outcome.isReportable, Outcome.shown,
      Outcome.hasDiagnostics, Outcome.diagnostics]

theorem run_replay {sayings : List Saying} (hstorable : ∀ saying ∈ sayings, saying.Storable) :
    empty.run (replay sayings) = (⟨sayings⟩, []) := by
  rw [run, lines_replay hstorable, processAll_replay empty hstorable]
  rfl

/-- A list of sayings is what some text leaves of the empty book exactly if no value
in it holds a semicolon or a line feed; and then the text of its own lines leaves it,
and says nothing. -/
theorem reachable_iff_storable :
    (∀ sayings : List Saying,
      (∃ source, (empty.run source).1.sayings = sayings) ↔
        ∀ saying ∈ sayings, ∀ name value, saying.field? name = some value →
          ';' ∉ value ∧ '\n' ∉ value) ∧
    ∀ sayings : List Saying,
      (∀ saying ∈ sayings, ∀ name value, saying.field? name = some value →
        ';' ∉ value ∧ '\n' ∉ value) →
      empty.run (replay sayings) = (⟨sayings⟩, []) := by
  refine ⟨fun sayings => ⟨?_, ?_⟩, fun sayings => run_replay⟩
  · rintro ⟨source, rfl⟩
    exact processAll_storable (fun line hline => Text.not_mem_of_mem_lines hline)
      (fun saying hsaying => absurd hsaying List.not_mem_nil)
  · intro hstorable
    exact ⟨replay sayings, by rw [run_replay hstorable]⟩

/-- A saying twice, and values with marks, a tilde, a carriage return and a blank at
the end. -/
theorem reachable_iff_storable_twice :
    empty.run ("ADD APHORISM;content=\"=\"~\r\";author=\"\u2028\"\n".toList ++
        "ADD APHORISM;content=\"=\"~\r\";author=\"\u2028\"\n".toList ++
        "ADD PROVERB;content=\"\";country=\"\"\"".toList) =
      (⟨[⟨.aphorism, "=\"~\r".toList, "\u2028".toList⟩,
        ⟨.aphorism, "=\"~\r".toList, "\u2028".toList⟩, ⟨.proverb, [], "\"".toList⟩]⟩, []) := by
  have hvalues : ∀ saying ∈ [(⟨.aphorism, "=\"~\r".toList, "\u2028".toList⟩ : Saying),
      ⟨.aphorism, "=\"~\r".toList, "\u2028".toList⟩, ⟨.proverb, [], "\"".toList⟩],
      (';' ∉ saying.content ∧ '\n' ∉ saying.content) ∧
        (';' ∉ saying.origin ∧ '\n' ∉ saying.origin) := by decide
  have hrun := reachable_iff_storable.2 _ fun saying hsaying =>
    Saying.storable_iff.2 (hvalues saying hsaying)
  exact hrun

end Book

end Commonplace
