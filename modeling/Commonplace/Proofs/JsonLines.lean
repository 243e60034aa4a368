/-
Sayings as JSON lines.  A line is an object whose values are read back as they were, so
it tells the saying, and a listing loses the lines of removed sayings and no others.
-/
import Commonplace.CommandLine.Report
import Commonplace.Proofs.Objects

namespace Commonplace

open Json

namespace Json

/-- A string between marks is the written form of one text only. -/
theorem spells_escape_iff {t u : Text} : Spells u (t.flatMap escape) ↔ u = t := by
  constructor
  · intro hspells
    exact hspells.unique (spells_escape t)
  · rintro rfl
    exact spells_escape u

theorem quote_isValue (t : Text) : IsValue (quote t) := .string (spells_escape t).letters

theorem quote_printable (t : Text) : ∀ c ∈ quote t, 0x20 ≤ c.toNat := by
  have hmark : 0x20 ≤ '"'.toNat := by decide
  have hletters := (spells_escape t).letters.printable
  intro c hc
  simp only [quote, Text.quoted, List.mem_cons, List.mem_append, List.not_mem_nil,
    or_false] at hc
  rcases hc with rfl | hc | rfl
  · exact hmark
  · exact hletters c hc
  · exact hmark

theorem quote_injective {t u : Text} (heq : quote t = quote u) : t = u := by
  have hescape : t.flatMap escape = u.flatMap escape := by simpa [quote, Text.quoted] using heq
  exact spells_escape_iff.1 (hescape ▸ spells_escape t)

end Json

namespace Saying

/-- The object of a saying: its tag, its content and its origin. -/
def object (saying : Saying) : Object :=
  { entries := [.plain "type".toList (quote saying.kind.tag) (quote_isValue _),
      .plain contentName (quote saying.content) (quote_isValue _),
      .plain saying.kind.originName (quote saying.origin) (quote_isValue _)]
    before := .empty
    inner := .empty
    after := .empty }

theorem object_text (saying : Saying) : saying.object.text = saying.json := by
  simp [object, Object.text, Entry.plain, Entry.text, Entry.afterward, json, Text.join, quote,
    Text.quoted]

theorem object_members (saying : Saying) :
    saying.object.members = [("type".toList, quote saying.kind.tag),
      (contentName, quote saying.content), (saying.kind.originName, quote saying.origin)] := rfl

theorem members_of_json {saying : Saying} {object : Object} (htext : object.text = saying.json) :
    object.members = [("type".toList, quote saying.kind.tag),
      (contentName, quote saying.content), (saying.kind.originName, quote saying.origin)] := by
  rw [Object.members_unique (htext.trans saying.object_text.symm), object_members]

theorem json_printable (saying : Saying) : ∀ c ∈ saying.json, 0x20 ≤ c.toNat := by
  have hsigns : ("\x7b:,\x7d".toList.all fun c => decide (0x20 ≤ c.toNat)) = true := by decide
  intro c hc
  have hquoted : ∀ t, c ∈ quote t → 0x20 ≤ c.toNat := fun t => quote_printable t c
  have hsign : c ∈ "\x7b:,\x7d".toList → 0x20 ≤ c.toNat :=
    fun hc => of_decide_eq_true (List.all_eq_true.1 hsigns c hc)
  simp only [json, List.mem_append, List.mem_singleton] at hc
  grind

theorem tag_injective {left right : Kind} (heq : left.tag = right.tag) : left = right := by
  cases left <;> cases right <;> first | rfl | exact absurd heq (by decide)

theorem json_injective {left right : Saying} (heq : left.json = right.json) : left = right := by
  have hmembers := members_of_json (left.object_text.trans heq)
  simp only [object_members, List.cons.injEq, Prod.mk.injEq] at hmembers
  obtain ⟨⟨-, htag⟩, ⟨-, hcontent⟩, ⟨-, horigin⟩, -⟩ := hmembers
  obtain ⟨kind, content, origin⟩ := left
  obtain rfl := tag_injective (quote_injective htag)
  obtain rfl := quote_injective hcontent
  obtain rfl := quote_injective horigin
  rfl

end Saying

/-- A listing is shown as the lines of its sayings. -/
theorem Plan.lines_listed (plan : Plan) (sayings : List Saying) :
    plan.lines (.listed sayings) = sayings.map fun saying => saying.inFormat plan.format :=
  List.append_nil _

namespace Book

/-- Where sayings with the same line are the same, the lines of the sayings that are kept
are those of all without those of the others. -/
theorem lines_of_kept (sayings : List Saying) {line : Saying → Text}
    (hline : ∀ left ∈ sayings, ∀ right ∈ sayings, line left = line right → left = right)
    (test : Saying → Bool) :
    (sayings.filter fun saying => !test saying).map line =
      (sayings.map line).filter fun written => written ∉ (sayings.filter test).map line := by
  rw [List.filter_map]
  congr 1
  refine List.filter_congr fun saying hsaying => ?_
  have hmem : line saying ∈ (sayings.filter test).map line ↔ test saying = true := by
    constructor
    · intro hmem
      obtain ⟨other, hother, heq⟩ := List.mem_map.1 hmem
      obtain ⟨hother, htest⟩ := List.mem_filter.1 hother
      rwa [← hline other hother saying hsaying heq]
    · exact fun htest => List.mem_map_of_mem (List.mem_filter.2 ⟨hsaying, htest⟩)
  simp only [Function.comp_apply, hmem]
  cases test saying <;> rfl

end Book

namespace Saying

/-- The line of a saying is the text of an object of its tag, content and origin, each read back
as it was.  So sayings are told by their lines, and a listing after a removal lacks those of
removed sayings and no others. -/
theorem json_lossless :
    (∀ saying : Saying, (∀ c ∈ saying.json, 0x20 ≤ c.toNat) ∧
      (∃ object : Object, object.text = saying.json) ∧
      ∃ tag content origin : Text, (∀ t, Spells t tag ↔ t = saying.kind.tag) ∧
        (∀ t, Spells t content ↔ t = saying.content) ∧
        (∀ t, Spells t origin ↔ t = saying.origin) ∧
        ∀ object : Object, object.text = saying.json →
          object.members = [("type".toList, Text.quoted tag),
            ("content".toList, Text.quoted content),
            (saying.kind.originName, Text.quoted origin)]) ∧
    (∀ left right : Saying, left.json = right.json → left = right) ∧
    ∀ (book : Book) (condition : Condition) (input : Text) (colored : Bool),
      let plan : Plan := ⟨input, .json, colored⟩
      ∃ (after : Book) (removed : List Saying) (before later : Outcome),
        book.execute .list = (book, .ok before) ∧
        book.execute (.remove condition) = (after, .ok (.removed removed)) ∧
        after.execute .list = (after, .ok later) ∧
        plan.lines later = (plan.lines before).filter fun line => line ∉ removed.map json := by
  refine ⟨fun saying => ⟨saying.json_printable, ⟨saying.object, saying.object_text⟩, _, _, _,
    fun _ => spells_escape_iff, fun _ => spells_escape_iff, fun _ => spells_escape_iff,
    fun _ => members_of_json⟩, fun _ _ => json_injective, ?_⟩
  intro book condition input colored plan
  refine ⟨_, _, _, _, rfl, by rw [Book.execute, Book.remove_eq], rfl, ?_⟩
  have hlines := Book.lines_of_kept book.sayings (fun _ _ _ _ => json_injective) condition.holds
  rw [plan.lines_listed, plan.lines_listed]
  exact hlines

/-- A value that could be taken for the end of itself and another member. -/
theorem json_lossless_marks :
    let saying : Saying := ⟨.proverb, "\",\"country\":\"\n".toList, "\\".toList⟩
    ∃ object : Object, object.text = saying.json ∧
      object.members.map Prod.fst = ["type".toList, "content".toList, "country".toList] := by
  intro saying
  obtain ⟨-, ⟨object, htext⟩, tag, content, origin, -, -, -, hmembers⟩ := json_lossless.1 saying
  refine ⟨object, htext, ?_⟩
  rw [hmembers object htext]
  rfl

end Saying

end Commonplace
