/-
What settings an object gives, in any order of its members and with any others among
them, and when it gives none; and the lists that give the same.
-/
import Commonplace.Settings.Stored
import Commonplace.Proofs.MemberValues

namespace Commonplace

open Json

/-- The entries of a name among the members of an object. -/
def under (name : Text) (entries : List (Text × Text)) : List (Text × Text) :=
  entries.filter fun entry => entry.1 = name

/-- Each known name comes at most once, with a value that gives its member. -/
structure Proper (entries : List (Text × Text)) : Prop where
  once : ∀ member : Member, (under member.name entries).length ≤ 1
  given : ∀ (member : Member) (value : Text), (member.name, value) ∈ entries →
    ∃ setting : Setting, setting.member = member ∧ Gives value setting

/-- Each member has the value that an entry of its name gives, and the default one if no
entry has its name. -/
def Settings.TakenFrom (settings : Settings) (entries : List (Text × Text)) : Prop :=
  ∀ member : Member,
    (∃ value, (member.name, value) ∈ entries ∧ Gives value (settings.setting member)) ∨
      (under member.name entries = [] ∧ settings.setting member = Settings.default.setting member)

theorem mem_under {name : Text} {entries : List (Text × Text)} {entry : Text × Text} :
    entry ∈ under name entries ↔ entry ∈ entries ∧ entry.1 = name := by
  simp [under]

theorem under_eq_nil_iff {name : Text} {entries : List (Text × Text)} :
    under name entries = [] ↔ ∀ value, (name, value) ∉ entries := by
  rw [List.eq_nil_iff_forall_not_mem]
  constructor
  · intro hnone value hmem
    exact hnone _ (mem_under.2 ⟨hmem, rfl⟩)
  · rintro hnone entry hmem
    obtain ⟨hentry, rfl⟩ := mem_under.1 hmem
    exact hnone entry.2 hentry

theorem under_concat (name : Text) (entries : List (Text × Text)) (entry : Text × Text) :
    under name (entries ++ [entry]) =
      under name entries ++ if entry.1 = name then [entry] else [] := by
  simp [under, List.filter_append, List.filter_cons]

namespace Proper

theorem nil : Proper [] := ⟨by simp [under], by simp⟩

/-- The entries before others are proper if all are. -/
theorem of_append {left right : List (Text × Text)} (hproper : Proper (left ++ right)) :
    Proper left := by
  refine ⟨fun member => ?_, fun member value hmem => hproper.given member value (by simp [hmem])⟩
  have honce := hproper.once member
  rw [under, List.filter_append, List.length_append] at honce
  rw [under]
  omega

/-- One more entry of an unknown name makes no difference. -/
theorem concat_unknown {entries : List (Text × Text)} {entry : Text × Text}
    (hproper : Proper entries) (hname : ∀ member : Member, entry.1 ≠ member.name) :
    Proper (entries ++ [entry]) := by
  constructor
  · intro member
    rw [under_concat, if_neg (hname member), List.append_nil]
    exact hproper.once member
  · intro member value hmem
    rcases List.mem_append.1 hmem with hmem | hmem
    · exact hproper.given member value hmem
    · obtain rfl := List.mem_singleton.1 hmem
      exact absurd rfl (hname member)

/-- One more entry of a known name has to be the first of that name, and to give its
member. -/
theorem concat_known_iff {entries : List (Text × Text)} (hproper : Proper entries)
    {member : Member} {value : Text} :
    Proper (entries ++ [(member.name, value)]) ↔
      under member.name entries = [] ∧
        ∃ setting : Setting, setting.member = member ∧ Gives value setting := by
  constructor
  · intro hmore
    refine ⟨?_, hmore.given member value (by simp)⟩
    have honce := hmore.once member
    rw [under_concat, if_pos rfl, List.length_append, List.length_singleton] at honce
    exact List.length_eq_zero_iff.1 (by omega)
  · rintro ⟨hfirst, hgiven⟩
    constructor
    · intro other
      rw [under_concat]
      by_cases hother : member.name = other.name
      · simp [← hother, hfirst]
      · simpa [hother] using hproper.once other
    · intro other found hmem
      rcases List.mem_append.1 hmem with hmem | hmem
      · exact hproper.given other found hmem
      · obtain ⟨hname, rfl⟩ := Prod.mk.inj (List.mem_singleton.1 hmem)
        obtain rfl := Member.name_inj hname
        exact hgiven

theorem value_unique {entries : List (Text × Text)} (hproper : Proper entries) {member : Member}
    {left right : Text} (hleft : (member.name, left) ∈ entries)
    (hright : (member.name, right) ∈ entries) : left = right := by
  have honce := hproper.once member
  have hleft : (member.name, left) ∈ under member.name entries := mem_under.2 ⟨hleft, rfl⟩
  have hright : (member.name, right) ∈ under member.name entries := mem_under.2 ⟨hright, rfl⟩
  match hunder : under member.name entries with
  | [] => simp [hunder] at hleft
  | [entry] =>
    rw [hunder, List.mem_singleton] at hleft hright
    exact (Prod.mk.inj (hleft.trans hright.symm)).2
  | _ :: _ :: _ => simp [hunder] at honce

/-- Proper entries give one settings only. -/
theorem settings_unique {entries : List (Text × Text)} (hproper : Proper entries)
    {left right : Settings} (hleft : left.TakenFrom entries) (hright : right.TakenFrom entries) :
    left = right := by
  refine Settings.eq_of_setting fun member => ?_
  rcases hleft member with ⟨value, hmem, hgives⟩ | ⟨hnone, hdefault⟩
  · rcases hright member with ⟨other, hother, hsame⟩ | ⟨hnone, -⟩
    · obtain rfl := hproper.value_unique hmem hother
      exact hgives.unique hsame (by simp)
    · exact absurd hmem (under_eq_nil_iff.1 hnone value)
  · rcases hright member with ⟨other, hother, -⟩ | ⟨-, hsame⟩
    · exact absurd hother (under_eq_nil_iff.1 hnone other)
    · rw [hdefault, hsame]

end Proper

theorem Settings.TakenFrom.iff_eq {entries : List (Text × Text)} {settings : Settings}
    (htaken : settings.TakenFrom entries) (hproper : Proper entries) (other : Settings) :
    other.TakenFrom entries ↔ other = settings :=
  ⟨fun hother => hproper.settings_unique hother htaken, fun heq => heq ▸ htaken⟩

namespace Members

/-- What has been read is what the entries up to here give. -/
def Holds (members : Members) (entries : List (Text × Text)) : Prop :=
  ∀ member : Member,
    (∃ setting value, members.setting? member = some setting ∧ (member.name, value) ∈ entries ∧
      Gives value setting) ∨
    (members.setting? member = .none ∧ under member.name entries = [])

namespace Holds

theorem none : Holds none [] := fun member => Or.inr ⟨by cases member <;> rfl, rfl⟩

theorem concat_unknown {members : Members} {entries : List (Text × Text)} {entry : Text × Text}
    (hholds : members.Holds entries) (hname : ∀ member : Member, entry.1 ≠ member.name) :
    members.Holds (entries ++ [entry]) := by
  intro member
  rcases hholds member with ⟨setting, value, hsome, hmem, hgives⟩ | ⟨hnone, hunder⟩
  · exact Or.inl ⟨setting, value, hsome, by simp [hmem], hgives⟩
  · refine Or.inr ⟨hnone, ?_⟩
    rw [under_concat, hunder, if_neg (hname member), List.append_nil]

theorem put {members : Members} {entries : List (Text × Text)} {setting : Setting}
    {value : Text} (hholds : members.Holds entries) (hgives : Gives value setting) :
    (members.put setting).Holds (entries ++ [(setting.member.name, value)]) := by
  intro member
  by_cases hmember : member = setting.member
  · subst hmember
    exact Or.inl ⟨setting, value, members.setting?_put_self setting, by simp, hgives⟩
  · rw [members.setting?_put_other hmember]
    rcases hholds member with ⟨other, given, hsome, hmem, hother⟩ | ⟨hnone, hunder⟩
    · exact Or.inl ⟨other, given, hsome, by simp [hmem], hother⟩
    · refine Or.inr ⟨hnone, ?_⟩
      rw [under_concat, hunder, if_neg fun hname => hmember (Member.name_inj hname).symm,
        List.append_nil]

theorem takenFrom {members : Members} {entries : List (Text × Text)}
    (hholds : members.Holds entries) : members.settings.TakenFrom entries := by
  intro member
  rw [setting_settings]
  rcases hholds member with ⟨setting, value, hsome, hmem, hgives⟩ | ⟨hnone, hunder⟩
  · exact Or.inl ⟨value, hmem, by simpa [hsome] using hgives⟩
  · exact Or.inr ⟨hunder, by simp [hnone]⟩

theorem has_iff {members : Members} {entries : List (Text × Text)}
    (hholds : members.Holds entries) (member : Member) :
    members.has member = true ↔ under member.name entries ≠ [] := by
  rw [has_eq]
  rcases hholds member with ⟨setting, value, hsome, hmem, -⟩ | ⟨hnone, hunder⟩
  · have hunder : under member.name entries ≠ [] :=
      fun hnil => under_eq_nil_iff.1 hnil value hmem
    simp [hsome, hunder]
  · simp [hnone, hunder]

end Holds

/-- A reading that holds what entries give and leaves what follows them, or that fails
because the entries are not proper. -/
def Answers (reading : Except Json.Fault (Members × Text)) (entries : List (Text × Text))
    (rest : Text) : Prop :=
  (∃ after, reading = .ok (after, rest) ∧ Proper entries ∧ after.Holds entries) ∨
    (∃ fault, reading = .error fault) ∧ ¬ Proper entries

/-- What stands under a name is read as one more entry. -/
theorem readUnder_entry {members : Members} {entries : List (Text × Text)}
    (hproper : Proper entries) (hholds : members.Holds entries) (entry : Entry) {rest : Text}
    (hrest : Apart rest) :
    Answers (members.readUnder entry.name (entry.afterward rest)) (entries ++ [entry.pair])
      (entry.afterValue.text ++ rest) := by
  have hcolon : readColon (entry.afterward rest) =
      .ok (entry.beforeValue.text ++ (entry.value ++ (entry.afterValue.text ++ rest))) :=
    readColon_append _ _
  have hapart : Apart (entry.afterValue.text ++ rest) := apart_append hrest
  cases hfind : Member.ofName? entry.name with
  | none =>
    have hname : ∀ member : Member, entry.pair.1 ≠ member.name := by
      intro member hname
      have hsome : Member.ofName? entry.name = some member := Member.ofName?_eq_some_iff.2 hname
      rw [hfind] at hsome
      contradiction
    refine Or.inl ⟨members, ?_, hproper.concat_unknown hname, hholds.concat_unknown hname⟩
    rw [readUnder, hfind]
    simp only [hcolon]
    rw [skipValue_append, skipValue_value entry.isValue (fun _ => hapart), skipAfter]
    rfl
  | some member =>
    have hname := Member.ofName?_eq_some_iff.1 hfind
    rw [Answers, Entry.pair, readUnder, hfind, hname, hproper.concat_known_iff]
    by_cases hhas : members.has member = true
    · exact Or.inr ⟨⟨_, if_pos hhas⟩, fun hfirst => (hholds.has_iff member).1 hhas hfirst.1⟩
    · have hfirst : under member.name entries = [] :=
        not_not.1 fun hne => hhas ((hholds.has_iff member).2 hne)
      simp only [if_neg hhas, hcolon]
      by_cases hgiven : ∃ setting : Setting, setting.member = member ∧ Gives entry.value setting
      · obtain ⟨setting, rfl, hgives⟩ := hgiven
        refine Or.inl ⟨members.put setting, ?_, ⟨hfirst, setting, rfl, hgives⟩,
          hholds.put hgives⟩
        exact readValue_eq_ok_iff.2 ⟨setting, _, entry.value, rfl, hgives, rfl, rfl⟩
      · refine Or.inr ⟨?_, fun hproper => hgiven hproper.2⟩
        refine readValue_error _ entry.isValue hapart fun setting hmember hgives => ?_
        exact hgiven ⟨setting, hmember, hgives⟩

theorem nextKey_end (isFirst : Bool) (gap : Spacing) (rest : Text) :
    nextKey isFirst (gap.text ++ Frame.object.parts isFirst rest []) = .ok (.none, rest) := by
  rw [nextKey, skipSpace_append]
  rfl

theorem nextKey_entry (isFirst : Bool) (gap : Spacing) (entry : Entry) (texts : List Text)
    (rest : Text) :
    nextKey isFirst (gap.text ++ Frame.object.parts isFirst rest (entry.text :: texts)) =
      .ok (some entry.name, entry.afterward (Frame.object.parts false rest texts)) := by
  rw [nextKey, skipSpace_append, Frame.parts]
  generalize Frame.object.parts false rest texts = after
  cases isFirst with
  | true =>
    rw [if_pos rfl, List.nil_append, entry.skipSpace_text]
    simp only [Char.reduceEq, if_false, if_true, entry.readString_spelling]
    rfl
  | false =>
    have hcomma : skipSpace (',' :: (entry.text ++ after)) = ',' :: (entry.text ++ after) :=
      skipSpace_token (by decide) _
    simp only [Bool.false_eq_true, if_false, List.cons_append, List.nil_append, hcomma,
      Char.reduceEq, if_true, entry.skipSpace_text, entry.readString_spelling]
    rfl

/-- The entries of an object are read up to its end. -/
theorem readAll_entries {members : Members} {entries : List (Text × Text)}
    (hproper : Proper entries) (hholds : members.Holds entries) (isFirst : Bool) (gap : Spacing)
    (later : List Entry) (rest : Text) :
    Answers (readAll isFirst members
        (gap.text ++ Frame.object.parts isFirst rest (later.map Entry.text)))
      (entries ++ later.map Entry.pair) rest := by
  induction later generalizing members entries isFirst gap with
  | nil =>
    refine Or.inl ⟨members, ?_, by simpa using hproper, by simpa using hholds⟩
    rw [readAll, List.map_nil, nextKey_end]
  | cons entry later ih =>
    have hsplit : entries ++ (entry :: later).map Entry.pair =
        entries ++ [entry.pair] ++ later.map Entry.pair := by simp
    rw [hsplit, readAll, List.map_cons, nextKey_entry]
    dsimp only
    rcases readUnder_entry hproper hholds entry
      (Frame.object.apart_parts (later.map Entry.text) rest) with
      ⟨after, hunder, hmore, hafter⟩ | ⟨⟨fault, hunder⟩, hmore⟩
    · rw [hunder]
      exact ih hmore hafter false entry.afterValue
    · rw [hunder]
      exact Or.inr ⟨⟨fault, rfl⟩, fun hproper => hmore hproper.of_append⟩

theorem closeList_parts (isFirst : Bool) (gap : Spacing) (rest : Text) :
    closeList (gap.text ++ Frame.list.parts isFirst rest []) = .ok rest := by
  rw [closeList, skipSpace_append]
  rfl

theorem nextItem_end (isFirst : Bool) (gap : Spacing) (rest : Text) :
    nextItem isFirst (gap.text ++ Frame.list.parts isFirst rest []) = .ok .none := by
  rw [nextItem, skipSpace_append]
  rfl

theorem nextItem_item (isFirst : Bool) (gap : Spacing) (item : Item) (texts : List Text)
    (rest : Text) :
    nextItem isFirst (gap.text ++ Frame.list.parts isFirst rest (item.text :: texts)) =
      .ok (some (item.value ++ (item.after.text ++ Frame.list.parts false rest texts))) := by
  rw [nextItem, skipSpace_append, Frame.parts]
  generalize Frame.list.parts false rest texts = after
  have hspace : skipSpace (item.text ++ after) = item.value ++ (item.after.text ++ after) := by
    rw [Item.text, List.append_assoc, List.append_assoc, skipSpace_append,
      item.isValue.skipSpace]
  obtain ⟨c, t, hvalue, hc⟩ := item.isValue.head
  have hclosing : c ≠ ']' := (opens_token hc).2 .list
  rw [hvalue, List.cons_append] at hspace ⊢
  cases isFirst with
  | true =>
    rw [if_pos rfl, List.nil_append, hspace]
    simp only [if_neg hclosing, if_true]
  | false =>
    have hcomma : skipSpace (',' :: (item.text ++ after)) = ',' :: (item.text ++ after) :=
      skipSpace_token (by decide) _
    simp only [Bool.false_eq_true, if_false, List.cons_append, List.nil_append, hcomma,
      Char.reduceEq, if_true, hspace]
    split
    · next heq => contradiction
    · next heq => exact absurd (List.cons.inj heq).1 hclosing
    · rfl

/-- The values of a list are read to its end, each for the next of some members, where
they give these. -/
theorem readItems_items {members : Members} {entries : List (Text × Text)}
    (hholds : members.Holds entries) (isFirst : Bool) (gap : Spacing) (items : List Item)
    (rest : Text) {todo : List Member} (hlength : items.length ≤ todo.length)
    (hproper : Proper (entries ++ (todo.map Member.name).zip (items.map Item.value))) :
    ∃ after, readItems isFirst members
        (gap.text ++ Frame.list.parts isFirst rest (items.map Item.text)) todo = .ok (after, rest) ∧
      after.Holds (entries ++ (todo.map Member.name).zip (items.map Item.value)) := by
  induction items generalizing members entries isFirst gap todo with
  | nil =>
    refine ⟨members, ?_, by simpa using hholds⟩
    cases todo with
    | nil => rw [readItems, List.map_nil, closeList_parts]; rfl
    | cons member todo =>
      rw [readItems, List.map_nil, nextItem_end]
      simp only [closeList_parts]
      rfl
  | cons item items ih =>
    cases todo with
    | nil => simp at hlength
    | cons member todo =>
      have hsplit : entries ++ ((member :: todo).map Member.name).zip
            ((item :: items).map Item.value) =
          entries ++ [(member.name, item.value)] ++
            (todo.map Member.name).zip (items.map Item.value) := by simp
      rw [hsplit] at hproper ⊢
      obtain ⟨setting, rfl, hgives⟩ := hproper.given member item.value (by simp)
      have hread : members.readValue setting.member (item.value ++ (item.after.text ++
          Frame.list.parts false rest (items.map Item.text))) =
            .ok (members.put setting,
              item.after.text ++ Frame.list.parts false rest (items.map Item.text)) :=
        readValue_eq_ok_iff.2 ⟨setting, .empty, item.value, rfl, hgives, by simp, rfl⟩
      rw [readItems, List.map_cons, nextItem_item]
      simp only [hread]
      exact ih (hholds.put hgives) false item.after (by simpa using hlength) hproper

end Members

namespace Settings

/-- Settings are read from an object whose members are proper, and from no other. -/
theorem read_object (object : Object) :
    (∃ settings, read object.text = .ok settings ∧ Proper object.members ∧
        settings.TakenFrom object.members) ∨
      (∃ complaint, read object.text = .error complaint) ∧ ¬ Proper object.members := by
  have hend := skipSpace_spacing object.after
  have hmembers : Members.read object.text = Members.readAll true .none (object.inner.text ++
      Frame.object.parts true object.after.text (object.entries.map Entry.text)) := by
    rw [Members.read, object.skipSpace_text]
    rfl
  rw [read, hmembers]
  rcases Members.readAll_entries .nil .none true object.inner object.entries object.after.text with
    ⟨after, hread, hproper, hholds⟩ | ⟨⟨fault, hread⟩, hproper⟩
  · refine Or.inl ⟨after.settings, ?_, hproper, hholds.takenFrom⟩
    simp only [hread, hend]
  · refine Or.inr ⟨⟨fault.locate object.text, ?_⟩, hproper⟩
    simp only [hread]

theorem read_object_of_proper {object : Object} (hproper : Proper object.members) :
    ∃ settings, read object.text = .ok settings ∧ settings.TakenFrom object.members := by
  rcases read_object object with ⟨settings, hread, -, htaken⟩ | ⟨-, hnot⟩
  · exact ⟨settings, hread, htaken⟩
  · exact absurd hproper hnot

/-- The members that the values of a list are for. -/
def listed (values : List Text) : List (Text × Text) := (Member.all.map Member.name).zip values

theorem read_sequence {sequence : Sequence} (hlength : sequence.values.length ≤ Member.all.length)
    (hproper : Proper (listed sequence.values)) :
    ∃ settings, read sequence.text = .ok settings ∧
      settings.TakenFrom (listed sequence.values) := by
  have hend := skipSpace_spacing sequence.after
  have hmembers : Members.read sequence.text = Members.readItems true .none
      (sequence.inner.text ++ Frame.list.parts true sequence.after.text
        (sequence.items.map Item.text)) Member.all := by
    rw [Members.read, sequence.skipSpace_text]
    rfl
  obtain ⟨after, hread, hholds⟩ := Members.readItems_items .none true sequence.inner
    sequence.items sequence.after.text (by simpa [Sequence.values] using hlength) hproper
  refine ⟨after.settings, ?_, hholds.takenFrom⟩
  rw [read, hmembers]
  simp only [hread, hend]

theorem load_text {tree : FileTree} {directory text : Text}
    (hread : tree.read (path directory) = .ok text.toBytes) :
    load tree directory = (read text).mapError Fault.settings := by
  rw [load, hread, ofReading]
  simp only [Reading.text_toBytes]
  cases read text <;> rfl

/-- From an object with proper members, however they are laid out, the settings are loaded that
they give, and from one with other members none are.  A list of the first values stands for the
object of their members. -/
theorem load_given :
    (∀ (tree : FileTree) (directory : Text) (object : Object),
      tree.read (path directory) = .ok object.text.toBytes →
        (Proper object.members → ∃ settings, load tree directory = .ok settings ∧
          ∀ other : Settings, other.TakenFrom object.members ↔ other = settings) ∧
        (¬ Proper object.members →
          ∃ complaint, load tree directory = .error (.settings complaint))) ∧
    ∀ (tree : FileTree) (directory : Text) (sequence : Sequence),
      tree.read (path directory) = .ok sequence.text.toBytes →
      sequence.values.length ≤ Member.all.length → Proper (listed sequence.values) →
        ∃ settings, load tree directory = .ok settings ∧
          (∀ other : Settings, other.TakenFrom (listed sequence.values) ↔ other = settings) ∧
          ∀ (there : FileTree) (place : Text) (object : Object),
            there.read (path place) = .ok object.text.toBytes →
            object.members = listed sequence.values → load there place = .ok settings := by
  constructor
  · intro tree directory object hfile
    rw [load_text hfile]
    constructor
    · intro hproper
      obtain ⟨settings, hread, htaken⟩ := read_object_of_proper hproper
      exact ⟨settings, by rw [hread]; rfl, htaken.iff_eq hproper⟩
    · intro hproper
      rcases read_object object with ⟨-, -, hyes, -⟩ | ⟨⟨complaint, hread⟩, -⟩
      · exact absurd hyes hproper
      · exact ⟨complaint, by rw [hread]; rfl⟩
  · intro tree directory sequence hfile hlength hproper
    obtain ⟨settings, hread, htaken⟩ := read_sequence hlength hproper
    refine ⟨settings, by rw [load_text hfile, hread]; rfl, htaken.iff_eq hproper, ?_⟩
    intro there place object hobject hmembers
    rw [← hmembers] at hproper htaken
    obtain ⟨same, hsame, htoo⟩ := read_object_of_proper hproper
    rw [load_text hobject, hsame, hproper.settings_unique htoo htaken]
    rfl

/-- A directory with settings in it. -/
def keptIn (text : Text) : FileTree :=
  (FileTree.empty []).put ["config.json".toList] (.file text.toBytes)

/-- A name with an escape in it. -/
def escapedColor : Entry :=
  { Entry.plain "color".toList "false".toList (.word (by decide)) with
    spelling := "\\u0063olor".toList
    spelled := .cons (.numbered (.digits (by decide))) (spells_escape "olor".toList) }

/-- An object in a list, under a name of no account. -/
def nestedExtra : Entry :=
  Entry.plain "x".toList "[\x7b\x7d]".toList
    (.full .empty (.last .list (.empty .object .empty) .empty))

def sparse : Object := ⟨[nestedExtra, escapedColor], .empty, .empty, .empty⟩

def repeated : Object :=
  ⟨[escapedColor, .plain "color".toList "true".toList (.word (by decide))],
    .empty, .empty, .empty⟩

def short : Sequence :=
  ⟨[⟨_, .string (spells_escape "a".toList).letters, .empty, .empty⟩], .empty, .empty, .empty⟩

theorem load_given_escaped :
    load (keptIn sparse.text) [] = .ok ⟨"artifact.txt".toList, false, .text⟩ ∧
      (∃ complaint, load (keptIn repeated.text) [] = .error (.settings complaint)) ∧
      load (keptIn short.text) [] = .ok ⟨"a".toList, true, .text⟩ := by
  refine ⟨?_, ?_, ?_⟩
  · have hextra : Proper ([] ++ [nestedExtra.pair]) :=
      Proper.nil.concat_unknown (by rintro (_ | _ | _) <;> decide)
    have hproper : Proper ([] ++ [nestedExtra.pair] ++ [escapedColor.pair]) :=
      hextra.concat_known_iff.2 ⟨by decide, .color false, rfl, .color false⟩
    obtain ⟨settings, hload, hiff⟩ := (load_given.1 (keptIn sparse.text) [] sparse rfl).1 hproper
    rw [hload, ← (hiff ⟨"artifact.txt".toList, false, .text⟩).1]
    rintro (_ | _ | _)
    · exact Or.inr ⟨by decide, rfl⟩
    · exact Or.inl ⟨"false".toList, by decide, .color false⟩
    · exact Or.inr ⟨by decide, rfl⟩
  · refine (load_given.1 (keptIn repeated.text) [] repeated rfl).2 fun hproper => ?_
    exact absurd (hproper.once .color) (by decide)
  · have hproper : Proper ([] ++ [(Member.inputFile.name, "\"a\"".toList)]) :=
      Proper.nil.concat_known_iff.2 ⟨rfl, .inputFile ['a'], rfl, .file (spells_escape ['a'])⟩
    obtain ⟨settings, hload, hiff, -⟩ :=
      load_given.2 (keptIn short.text) [] short rfl (by decide) hproper
    rw [hload, ← (hiff ⟨"a".toList, true, .text⟩).1]
    rintro (_ | _ | _)
    · exact Or.inl ⟨"\"a\"".toList, by decide, .file (spells_escape ['a'])⟩
    · exact Or.inr ⟨by decide, rfl⟩
    · exact Or.inr ⟨by decide, rfl⟩

end Settings

end Commonplace
