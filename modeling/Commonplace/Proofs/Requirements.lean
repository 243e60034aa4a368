/-
What an addition requires: the tag of a kind, and a value under each of the kind's names.  Of
the names without a value the first is complained of, and values under other names make no
difference.
-/
import Commonplace.Proofs.History
import Commonplace.Proofs.Making

namespace Commonplace

/-- Two collections give the same under each name that the kind of a tag requires. -/
def Fields.AgreeFor (tag : Text) (fields others : Fields) : Prop :=
  ∀ kind : Kind, kind.tag = tag → ∀ name ∈ kind.required, fields.get? name = others.get? name

namespace Saying

theorem exists_create_iff {tag : Text} {fields : Fields} :
    (∃ saying, create tag fields = .ok saying) ↔
      ∃ kind : Kind, kind.tag = tag ∧
        ∀ name ∈ kind.required, (fields.get? name).isSome = true := by
  constructor
  · rintro ⟨saying, hcreate⟩
    obtain ⟨htag, hfields⟩ := create_eq_ok_iff_fields.1 hcreate
    refine ⟨saying.kind, htag, fun name hname => ?_⟩
    rw [← hfields name hname]
    exact isSome_field?_iff.2 hname
  · rintro ⟨kind, rfl, hgiven⟩
    simp only [Kind.required_eq, List.forall_mem_cons, Option.isSome_iff_exists] at hgiven
    obtain ⟨⟨content, hcontent⟩, ⟨origin, horigin⟩, -⟩ := hgiven
    exact ⟨⟨kind, content, origin⟩, create_eq_ok_iff.2 ⟨rfl, hcontent, horigin⟩⟩

/-- Values under other names make no difference. -/
theorem create_congr {tag : Text} {fields others : Fields}
    (hagree : Fields.AgreeFor tag fields others) : create tag fields = create tag others := by
  rw [create, create]
  cases hkind : Kind.ofTag tag with
  | error fault => rfl
  | ok kind =>
    have hnames := hagree kind (Kind.ofTag_eq_ok_iff.1 hkind).symm
    have hrequire : ∀ name ∈ kind.required, require tag fields name = require tag others name :=
      fun name hname => by rw [require, require, hnames name hname]
    simp only [hrequire contentName (Kind.mem_required.2 (Or.inl rfl)),
      hrequire kind.originName (Kind.mem_required.2 (Or.inr rfl))]

/-- What a saying carries, by its names. -/
def values (saying : Saying) : Fields :=
  .ofList (saying.kind.required.filterMap fun name => (saying.field? name).map (name, ·))

theorem values_eq (saying : Saying) : saying.values =
    .ofList [(contentName, saying.content), (saying.kind.originName, saying.origin)] := by
  simp [values, Kind.required_eq]

/-- A saying is made again of its tag and what it carries. -/
theorem create_values (saying : Saying) : create saying.kind.tag saying.values = .ok saying := by
  rw [values_eq]
  exact create_own saying.kind saying.content saying.origin

theorem get?_values (saying : Saying) (name : Text) :
    saying.values.get? name = saying.field? name := by
  have hne := saying.kind.originName_ne_contentName
  rw [values_eq, Fields.get?_pair, field?]
  by_cases hname : name = contentName
  · simp [hname, hne.symm]
  · simp [hname]

end Saying

namespace Book

/-- The line puts one saying at the end, and there is nothing to be shown. -/
def Appends (book : Book) (line : Text) (saying : Saying) : Prop :=
  (book.process line).1.sayings = book.sayings ++ [saying] ∧
    (book.process line).2.told = ⟨[saying], [], []⟩

/-- The line leaves the book as it was, and there is one message to be shown. -/
def Complains (book : Book) (line message : Text) : Prop :=
  (book.process line).1 = book ∧ (book.process line).2.told = ⟨[], [], [message]⟩

section Addition

variable {line tag : Text} {fields : Fields}
  (hread : Instruction.read line = .ok (some (.add tag fields)))

include hread

theorem process_addition (book : Book) :
    book.process line =
      match Saying.create tag fields with
      | .error fault => (book, .rejected fault)
      | .ok saying => (book.append saying, .added saying) := by
  simp only [process, hread, execute, add]
  cases Saying.create tag fields <;> rfl

theorem appends_iff (book : Book) {saying : Saying} :
    book.Appends line saying ↔ Saying.create tag fields = .ok saying := by
  rw [Appends, process_addition hread]
  cases Saying.create tag fields with
  | error fault => simp [Outcome.told, Outcome.affected]
  | ok made =>
    simp [append, Outcome.told, Outcome.affected, Outcome.shown, Outcome.diagnostics]

theorem complains_of_error (book : Book) {fault : Fault}
    (hcreate : Saying.create tag fields = .error fault) :
    book.Complains line fault.message := by
  rw [Complains, process_addition hread, hcreate]
  exact ⟨rfl, rfl⟩

end Addition

/-- An addition takes the tag of a kind and a value under each name that the kind requires, and
carries nothing else.  Without them it is complained of the tag, or else of the first required
name without a value. -/
theorem addition_requires :
    (∀ (book : Book) (line tag : Text) (fields : Fields),
      Instruction.read line = .ok (some (.add tag fields)) →
        ((∃ saying, book.Appends line saying) ↔
          ∃ kind : Kind, kind.tag = tag ∧
            ∀ name ∈ kind.required, (fields.get? name).isSome = true) ∧
        (∀ saying, book.Appends line saying →
          saying.kind.tag = tag ∧
            (∀ name ∈ saying.kind.required, saying.field? name = fields.get? name) ∧
            ∀ name, name ∉ saying.kind.required → saying.field? name = none) ∧
        ((¬ ∃ saying, book.Appends line saying) →
          ((∀ kind : Kind, kind.tag ≠ tag) ∧
            book.Complains line ("Unknown type: ".toList ++ tag)) ∨
          ∃ (kind : Kind) (name : Text), kind.tag = tag ∧
            fields.firstMissing? kind.required = some name ∧
            book.Complains line ("Error: missing required parameter '".toList ++ name ++
              "' for type ".toList ++ tag))) ∧
    (∀ (book : Book) (tag : Text) (fields others : Fields), Fields.AgreeFor tag fields others →
      book.add tag fields = book.add tag others ∧
        ∀ line other : Text, Instruction.read line = .ok (some (.add tag fields)) →
          Instruction.read other = .ok (some (.add tag others)) →
            book.process line = book.process other) ∧
    ∀ (book : Book) (saying : Saying),
      (∀ name, saying.values.get? name = saying.field? name) ∧
        book.add saying.kind.tag saying.values = (book.append saying, .ok (.added saying)) := by
  refine ⟨fun book line tag fields hread => ⟨?_, fun saying happends => ?_, fun hnone => ?_⟩,
    fun book tag fields others hagree => ⟨?_, fun line other hline hother => ?_⟩,
    fun book saying => ⟨saying.get?_values, ?_⟩⟩
  · simp only [appends_iff hread]
    exact Saying.exists_create_iff
  · obtain ⟨htag, hfields⟩ := Saying.create_eq_ok_iff_fields.1 ((appends_iff hread book).1 happends)
    refine ⟨htag, hfields, fun name hname => ?_⟩
    rw [← Option.not_isSome_iff_eq_none, Saying.isSome_field?_iff]
    exact hname
  · cases hcreate : Saying.create tag fields with
    | ok saying => exact absurd ⟨saying, (appends_iff hread book).2 hcreate⟩ hnone
    | error fault =>
      have hcomplains := complains_of_error hread book hcreate
      cases Saying.making_of_create hcreate with
      | unknown htag => exact Or.inl ⟨htag, hcomplains⟩
      | missing htag hname => exact Or.inr ⟨_, _, htag, hname, hcomplains⟩
  · rw [add, add, Saying.create_congr hagree]
  · rw [process_addition hline, process_addition hother, Saying.create_congr hagree]
  · rw [add, saying.create_values]

/-- A proverb with an author instead of a country, and one to which an author makes no
difference. -/
theorem addition_requires_country :
    let lacking := "ADD PROVERB;content=a;author=b".toList
    let plain := "ADD PROVERB;content=a;country=b".toList
    let crowded := "ADD PROVERB;author=c;country=b;content=a".toList
    sample.Complains lacking ("Error: missing required parameter '".toList ++
        "country".toList ++ "' for type ".toList ++ "PROVERB".toList) ∧
      (∃ saying, sample.Appends plain saying ∧ saying.field? "author".toList = none) ∧
      sample.process plain = sample.process crowded := by
  intro lacking plain crowded
  have hlacking : Instruction.read lacking = .ok (some (.add "PROVERB".toList
    (Fields.read "content=a;author=b".toList))) := rfl
  have hplain : Instruction.read plain = .ok (some (.add "PROVERB".toList
    (Fields.read "content=a;country=b".toList))) := rfl
  have hcrowded : Instruction.read crowded = .ok (some (.add "PROVERB".toList
    (Fields.read "author=c;country=b;content=a".toList))) := rfl
  have honly : ∀ kind : Kind, kind.tag = "PROVERB".toList → kind = .proverb := by
    intro kind
    cases kind <;> decide
  refine ⟨?_, ?_, ?_⟩
  · obtain ⟨happends, -, hcomplains⟩ := addition_requires.1 sample _ _ _ hlacking
    have hcountry : (Fields.read "content=a;author=b".toList).firstMissing?
        Kind.proverb.required = some "country".toList := by decide
    have hnone : ¬ ∃ saying, sample.Appends lacking saying := by
      rw [happends]
      rintro ⟨kind, htag, hgiven⟩
      obtain rfl := honly kind htag
      exact absurd (hgiven "country".toList (by decide)) (by decide)
    rcases hcomplains hnone with ⟨hunknown, -⟩ | ⟨kind, name, htag, hname, hmessage⟩
    · exact absurd rfl (hunknown .proverb)
    · obtain rfl := honly kind htag
      obtain rfl := Option.some.inj (hname.symm.trans hcountry)
      exact hmessage
  · obtain ⟨happends, hfields, -⟩ := addition_requires.1 sample _ _ _ hplain
    obtain ⟨saying, hsaying⟩ := happends.2 ⟨.proverb, rfl, by decide⟩
    obtain ⟨htag, -, hother⟩ := hfields saying hsaying
    refine ⟨saying, hsaying, hother _ ?_⟩
    rw [honly saying.kind htag]
    decide
  · refine (addition_requires.2.1 sample _ _ _ ?_).2 _ _ hplain hcrowded
    intro kind htag
    rw [honly kind htag]
    decide

end Book

end Commonplace
