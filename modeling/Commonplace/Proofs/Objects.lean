/-
Whole objects and lists as they are written.  The names and the values of an object
can be told from its text in one way only.
-/
import Commonplace.Proofs.Marks
import Commonplace.Proofs.Values

namespace Commonplace

namespace Json

/-- Parts up to the end of their frame, with commas between them, and what follows the
frame. A comma comes before the first part too, unless the frame has just been opened. -/
def Frame.parts (frame : Frame) (isFirst : Bool) (rest : Text) : List Text → Text
  | [] => frame.closing :: rest
  | part :: later =>
    (if isFirst then [] else [',']) ++ (part ++ frame.parts false rest later)

theorem Frame.join_parts (frame : Frame) (texts : List Text) (rest : Text) :
    Text.join ',' texts ++ frame.closing :: rest = frame.parts true rest texts := by
  induction texts with
  | nil => rfl
  | cons first texts ih =>
    cases texts with
    | nil => simp [Text.join, Frame.parts]
    | cons second texts =>
      rw [Frame.parts, if_pos rfl, List.nil_append] at ih
      rw [Text.join, List.intercalate_cons_cons, List.append_assoc, List.append_assoc,
        ← Text.join, ih]
      simp [Frame.parts]

/-- What comes after a part ends whatever number may stand before it. -/
theorem Frame.apart_parts (frame : Frame) (texts : List Text) (rest : Text) :
    Apart (frame.parts false rest texts) := by
  cases texts with
  | nil => exact apart_frame frame (Or.inr rfl) rest
  | cons first texts => exact apart_frame frame (Or.inl rfl) _

/-- A member of an object: its name, a way to write that, a value, and the spaces around
both. -/
structure Entry where
  name : Text
  spelling : Text
  value : Text
  spelled : Spells name spelling
  isValue : IsValue value
  beforeName : Spacing
  afterName : Spacing
  beforeValue : Spacing
  afterValue : Spacing

namespace Entry

def pair (entry : Entry) : Text × Text := (entry.name, entry.value)

/-- What is written after the name of a member. -/
def afterward (entry : Entry) (rest : Text) : Text :=
  entry.afterName.text ++ ':' :: (entry.beforeValue.text ++ (entry.value ++
    (entry.afterValue.text ++ rest)))

def text (entry : Entry) : Text :=
  entry.beforeName.text ++ (Text.quoted entry.spelling ++ entry.afterward [])

/-- A member without spaces, its name written as texts are. -/
def plain (name value : Text) (isValue : IsValue value) : Entry :=
  ⟨name, name.flatMap escape, value, spells_escape name, isValue, .empty, .empty, .empty, .empty⟩

theorem skipSpace_text (entry : Entry) (rest : Text) :
    skipSpace (entry.text ++ rest) = '"' :: (entry.spelling ++ '"' :: entry.afterward rest) := by
  have hsplit : entry.text ++ rest =
      entry.beforeName.text ++ '"' :: (entry.spelling ++ '"' :: entry.afterward rest) := by
    simp [text, afterward, Text.quoted]
  rw [hsplit, skipSpace_append, skipSpace_token (by decide)]

theorem readString_spelling (entry : Entry) (rest : Text) :
    readString (entry.spelling ++ '"' :: entry.afterward rest) =
      .ok (entry.name, entry.afterward rest) :=
  readString_spells entry.spelled _

/-- The name, the value and the end of a member are found where they are. -/
theorem cancel {left right : Entry} {before after : Text} (hbefore : Apart before)
    (hafter : Apart after)
    (heq : skipSpace (left.text ++ before) = skipSpace (right.text ++ after)) :
    left.name = right.name ∧ left.value = right.value ∧ skipSpace before = skipSpace after := by
  rw [skipSpace_text, skipSpace_text] at heq
  obtain ⟨hspelling, hrest⟩ :=
    left.spelled.letters.cancel right.spelled.letters (List.cons.inj heq).2
  have hcolon : readColon (left.afterward before) = readColon (right.afterward after) :=
    congrArg readColon hrest
  rw [afterward, afterward, readColon_append, readColon_append] at hcolon
  have hvalue := congrArg skipSpace (Except.ok.inj hcolon)
  rw [skipSpace_append, skipSpace_append, left.isValue.skipSpace, right.isValue.skipSpace] at hvalue
  obtain ⟨hsame, hend⟩ := left.isValue.cancel right.isValue (fun _ => apart_append hbefore)
    (fun _ => apart_append hafter) hvalue
  refine ⟨left.spelled.unique (hspelling ▸ right.spelled), hsame, ?_⟩
  simpa using congrArg skipSpace hend

end Entry

/-- An object with the spaces around it and, if it has no members, the spaces in it. -/
structure Object where
  entries : List Entry
  before : Spacing
  inner : Spacing
  after : Spacing

namespace Object

def text (object : Object) : Text :=
  object.before.text ++ '{' :: (object.inner.text ++
    (Text.join ',' (object.entries.map Entry.text) ++ '}' :: object.after.text))

/-- The names of the members and the texts of their values, in order. -/
def members (object : Object) : List (Text × Text) := object.entries.map Entry.pair

/-- The text from the opening brace on. -/
theorem skipSpace_text (object : Object) :
    skipSpace object.text = '{' :: (object.inner.text ++
      Frame.object.parts true object.after.text (object.entries.map Entry.text)) := by
  rw [text, skipSpace_append, skipSpace_token (by decide), ← Frame.join_parts]
  rfl

/-- The next entry, or the end of the object. -/
theorem skipSpace_entries (isFirst : Bool) (entries : List Entry) (rest : Text) :
    ∃ c t, skipSpace (Frame.object.parts isFirst rest (entries.map Entry.text)) = c :: t ∧
      c = (if entries.isEmpty then '}' else if isFirst then '"' else ',') := by
  cases entries with
  | nil => exact ⟨'}', rest, rfl, rfl⟩
  | cons entry entries =>
    cases isFirst with
    | true =>
      rw [List.map_cons, Frame.parts, if_pos rfl, List.nil_append, Entry.skipSpace_text]
      exact ⟨_, _, rfl, rfl⟩
    | false => exact ⟨',', _, rfl, rfl⟩

/-- The first character tells whether another entry follows, so both sides end together. -/
theorem members_of_parts {isFirst : Bool} {left right : List Entry} {before after : Text}
    (heq : skipSpace (Frame.object.parts isFirst before (left.map Entry.text)) =
      skipSpace (Frame.object.parts isFirst after (right.map Entry.text))) :
    left.map Entry.pair = right.map Entry.pair := by
  induction left generalizing isFirst right with
  | nil =>
    obtain ⟨c, t, hleft, hc⟩ := skipSpace_entries isFirst [] before
    obtain ⟨d, u, hright, hd⟩ := skipSpace_entries isFirst right after
    rw [hleft, hright] at heq
    cases right with
    | nil => rfl
    | cons entry right => cases isFirst <;> simp_all
  | cons first left ih =>
    obtain ⟨c, t, hleft, hc⟩ := skipSpace_entries isFirst (first :: left) before
    obtain ⟨d, u, hright, hd⟩ := skipSpace_entries isFirst right after
    cases right with
    | nil =>
      rw [hleft, hright] at heq
      cases isFirst <;> simp_all
    | cons second right =>
      have hentries : skipSpace (first.text ++
            Frame.object.parts false before (left.map Entry.text)) =
          skipSpace (second.text ++
            Frame.object.parts false after (right.map Entry.text)) := by
        cases isFirst with
        | true => exact heq
        | false => exact congrArg skipSpace (List.cons.inj heq).2
      obtain ⟨hname, hvalue, hrest⟩ :=
        Entry.cancel (Frame.apart_parts _ _ _) (Frame.apart_parts _ _ _) hentries
      rw [List.map_cons, List.map_cons, Entry.pair, Entry.pair, hname, hvalue, ih hrest]

/-- No text is that of two objects with different members. -/
theorem members_unique {left right : Object} (heq : left.text = right.text) :
    left.members = right.members := by
  have hopen := congrArg skipSpace heq
  rw [skipSpace_text, skipSpace_text] at hopen
  have hparts := congrArg skipSpace (List.cons.inj hopen).2
  rw [skipSpace_append, skipSpace_append] at hparts
  exact members_of_parts hparts

end Object

/-- A value in a list, with the spaces around it. -/
structure Item where
  value : Text
  isValue : IsValue value
  before : Spacing
  after : Spacing

def Item.text (item : Item) : Text := item.before.text ++ (item.value ++ item.after.text)

/-- A list with the spaces around it and, if it has no values, the spaces in it. -/
structure Sequence where
  items : List Item
  before : Spacing
  inner : Spacing
  after : Spacing

namespace Sequence

def text (sequence : Sequence) : Text :=
  sequence.before.text ++ '[' :: (sequence.inner.text ++
    (Text.join ',' (sequence.items.map Item.text) ++ ']' :: sequence.after.text))

/-- The texts of the values, in order. -/
def values (sequence : Sequence) : List Text := sequence.items.map Item.value

/-- The text from the opening bracket on. -/
theorem skipSpace_text (sequence : Sequence) :
    skipSpace sequence.text = '[' :: (sequence.inner.text ++
      Frame.list.parts true sequence.after.text (sequence.items.map Item.text)) := by
  rw [text, skipSpace_append, skipSpace_token (by decide), ← Frame.join_parts]
  rfl

end Sequence

end Json

end Commonplace
