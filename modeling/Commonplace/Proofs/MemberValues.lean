/-
The forms in which a JSON text can give a member of the settings.  The value of a
member is read in exactly these.
-/
import Commonplace.Settings.Reader
import Commonplace.Proofs.Objects

namespace Commonplace

open Json

/-- A member with a value. -/
inductive Setting
  | inputFile (file : Text)
  | color (value : Bool)
  | output (format : Format)
deriving DecidableEq

def Setting.member : Setting → Member
  | .inputFile _ => .inputFile
  | .color _ => .color
  | .output _ => .output

/-- A member with the value that it has. -/
def Settings.setting (settings : Settings) : Member → Setting
  | .inputFile => .inputFile settings.inputFile
  | .color => .color settings.color
  | .output => .output settings.output

@[simp]
theorem Settings.setting_member (settings : Settings) (member : Member) :
    (settings.setting member).member = member := by
  cases member <;> rfl

theorem Settings.eq_of_setting {left right : Settings}
    (hsame : ∀ member, left.setting member = right.setting member) : left = right := by
  have hfile := Setting.inputFile.inj (hsame .inputFile)
  have hcolor := Setting.color.inj (hsame .color)
  have houtput := Setting.output.inj (hsame .output)
  cases left
  cases right
  simp_all

/-- The values that give a member: a string for the file, a truth value for the colours,
and for the form of output its name, or an object with null under that name. -/
inductive Gives : Text → Setting → Prop
  | file {file written : Text} (hspells : Spells file written) :
    Gives (Text.quoted written) (.inputFile file)
  | color (value : Bool) : Gives (Settings.writtenBool value) (.color value)
  | name {format : Format} {written : Text} (hspells : Spells format.name written) :
    Gives (Text.quoted written) (.output format)
  | alone {format : Format} {entry : Entry} (hname : entry.name = format.name)
    (hnull : entry.value = "null".toList) : Gives ('{' :: (entry.text ++ ['}'])) (.output format)

namespace Format

theorem ofName?_name (format : Format) : ofName? format.name = some format := by
  cases format <;> rfl

theorem ofName?_eq_some_iff {name : Text} {format : Format} :
    ofName? name = some format ↔ name = format.name := by
  constructor
  · intro hfind
    have hname := List.find?_some hfind
    exact (of_decide_eq_true hname).symm
  · rintro rfl
    exact ofName?_name format

end Format

namespace Member

theorem ofName?_name (member : Member) : ofName? member.name = some member := by
  cases member <;> rfl

theorem ofName?_eq_some_iff {name : Text} {member : Member} :
    ofName? name = some member ↔ name = member.name := by
  constructor
  · intro hfind
    have hname := List.find?_some hfind
    exact (of_decide_eq_true hname).symm
  · rintro rfl
    exact ofName?_name member

theorem name_inj {left right : Member} (hname : left.name = right.name) : left = right := by
  have hfound := left.ofName?_name
  rw [hname, right.ofName?_name] at hfound
  exact (Option.some.inj hfound).symm

end Member

namespace Json

theorem exists_spacing (s : Text) : ∃ gap : Spacing, s = gap.text ++ skipSpace s :=
  ⟨⟨s.takeWhile isSpace, fun _ => List.mem_takeWhile_imp⟩, List.takeWhile_append_dropWhile.symm⟩

/-- Spaces and then a token. -/
theorem of_skipSpace {s token : Text} (hspace : skipSpace s = token) :
    ∃ gap : Spacing, s = gap.text ++ token := by
  obtain ⟨gap, hgap⟩ := exists_spacing s
  exact ⟨gap, hspace ▸ hgap⟩

theorem readWord_eq_ok_iff {word s rest : Text} :
    readWord word s = .ok rest ↔ s = word ++ rest := by
  constructor
  · intro hread
    fun_induction readWord word s with
    | case1 s => exact Except.ok.inj hread
    | case2 => contradiction
    | case3 word c s ih => rw [ih hread, List.cons_append]
    | case4 => contradiction
  · rintro rfl
    exact readWord_append word rest

theorem readColon_eq_ok_iff {s rest : Text} :
    readColon s = .ok rest ↔ ∃ gap : Spacing, s = gap.text ++ ':' :: rest := by
  constructor
  · fun_cases readColon s with
    | case2 more hspace =>
      intro hread
      obtain rfl := Except.ok.inj hread
      exact of_skipSpace hspace
    | _ => intro hread; contradiction
  · rintro ⟨gap, rfl⟩
    exact readColon_append gap rest

theorem readNull_eq_ok_iff {s rest : Text} :
    readNull s = .ok rest ↔ ∃ gap : Spacing, s = gap.text ++ ("null".toList ++ rest) := by
  constructor
  · fun_cases readNull s with
    | case1 more hspace =>
      intro hread
      obtain rfl := readWord_eq_ok_iff.1 hread
      exact of_skipSpace hspace
    | _ => intro hread; contradiction
  · rintro ⟨gap, rfl⟩
    rw [readNull, skipSpace_append]
    exact readWord_append _ rest

theorem readText_eq_ok_iff {s t rest : Text} :
    readText s = .ok (t, rest) ↔
      ∃ (gap : Spacing) (written : Text), Spells t written ∧
        s = gap.text ++ (Text.quoted written ++ rest) := by
  constructor
  · fun_cases readText s with
    | case1 more hspace =>
      intro hread
      obtain ⟨written, hspells, rfl⟩ := readString_eq_ok_iff.1 hread
      obtain ⟨gap, rfl⟩ := of_skipSpace hspace
      exact ⟨gap, written, hspells, by simp [Text.quoted]⟩
    | _ => intro hread; contradiction
  · rintro ⟨gap, written, hspells, rfl⟩
    rw [readText, skipSpace_append, quoted_append]
    exact readString_spells hspells rest

theorem readBool_eq_ok_iff {s rest : Text} {value : Bool} :
    readBool s = .ok (value, rest) ↔
      ∃ gap : Spacing, s = gap.text ++ (Settings.writtenBool value ++ rest) := by
  constructor
  · have hword : ∀ {found : Bool} {word more : Text},
        (readWord word more).map (found, ·) = .ok (value, rest) →
          found = value ∧ more = word ++ rest := by
      intro found word more hread
      obtain ⟨after, hafter, hpair⟩ := except_map_eq_ok hread
      obtain ⟨hvalue, rfl⟩ := Prod.mk.inj hpair
      exact ⟨hvalue, readWord_eq_ok_iff.1 hafter⟩
    fun_cases readBool s with
    | case1 more hspace =>
      intro hread
      obtain ⟨rfl, rfl⟩ := hword hread
      exact of_skipSpace hspace
    | case2 more hspace =>
      intro hread
      obtain ⟨rfl, rfl⟩ := hword hread
      exact of_skipSpace hspace
    | _ => intro hread; contradiction
  · rintro ⟨gap, rfl⟩
    rw [readBool, skipSpace_append]
    cases value <;> rfl

end Json

namespace Format

theorem read_eq_ok_iff {s rest : Text} {format : Format} :
    read s = .ok (format, rest) ↔
      ∃ written, Spells format.name written ∧ s = written ++ '"' :: rest := by
  constructor
  · fun_cases read s with
    | case2 name more hstring found hfound =>
      intro hread
      obtain ⟨rfl, rfl⟩ := Prod.mk.inj (Except.ok.inj hread)
      obtain rfl := ofName?_eq_some_iff.1 hfound
      exact readString_eq_ok_iff.1 hstring
    | _ => intro hread; contradiction
  · rintro ⟨written, hspells, rfl⟩
    rw [read, readString_spells hspells]
    simp only [ofName?_name]

/-- Behind the brace stands one entry, with the name of the format and null. -/
theorem readObject_eq_ok_iff {s rest : Text} {format : Format} :
    readObject s = .ok (format, rest) ↔
      ∃ entry : Entry, entry.name = format.name ∧ entry.value = "null".toList ∧
        s = entry.text ++ '}' :: rest := by
  constructor
  · fun_cases readObject s with
    | case6 more hspace found after hread next hcolon last hnull final hend =>
      intro hwhole
      obtain ⟨rfl, rfl⟩ := Prod.mk.inj (Except.ok.inj hwhole)
      obtain ⟨written, hspells, rfl⟩ := read_eq_ok_iff.1 hread
      obtain ⟨afterName, rfl⟩ := readColon_eq_ok_iff.1 hcolon
      obtain ⟨beforeValue, rfl⟩ := readNull_eq_ok_iff.1 hnull
      obtain ⟨afterValue, rfl⟩ := of_skipSpace hend
      obtain ⟨beforeName, rfl⟩ := of_skipSpace hspace
      refine ⟨⟨found.name, written, "null".toList, hspells, .word (by decide), beforeName,
        afterName, beforeValue, afterValue⟩, rfl, rfl, ?_⟩
      simp [Entry.text, Entry.afterward, Text.quoted]
    | _ => intro hread; contradiction
  · rintro ⟨entry, hname, hnull, rfl⟩
    have hread : read (entry.spelling ++ '"' :: entry.afterward ('}' :: rest)) =
        .ok (format, entry.afterward ('}' :: rest)) :=
      read_eq_ok_iff.2 ⟨_, hname ▸ entry.spelled, rfl⟩
    have hnull : readNull (entry.beforeValue.text ++ (entry.value ++
        (entry.afterValue.text ++ '}' :: rest))) = .ok (entry.afterValue.text ++ '}' :: rest) :=
      readNull_eq_ok_iff.2 ⟨_, by rw [hnull]⟩
    rw [readObject, Entry.skipSpace_text]
    simp only [hread]
    simp only [Entry.afterward, readColon_append, hnull, skipSpace_append]
    rfl

theorem readValue_eq_ok_iff {s rest : Text} {format : Format} :
    readValue s = .ok (format, rest) ↔
      ∃ (gap : Spacing) (value : Text), Gives value (.output format) ∧
        s = gap.text ++ (value ++ rest) := by
  constructor
  · fun_cases readValue s with
    | case2 more hspace =>
      intro hread
      obtain ⟨written, hspells, rfl⟩ := read_eq_ok_iff.1 hread
      obtain ⟨gap, rfl⟩ := of_skipSpace hspace
      exact ⟨gap, _, .name hspells, by simp [Text.quoted]⟩
    | case3 more hspace =>
      intro hread
      obtain ⟨entry, hname, hnull, rfl⟩ := readObject_eq_ok_iff.1 hread
      obtain ⟨gap, rfl⟩ := of_skipSpace hspace
      exact ⟨gap, _, .alone hname hnull, by simp⟩
    | _ => intro hread; contradiction
  · rintro ⟨gap, value, hgives, rfl⟩
    rw [readValue, skipSpace_append]
    cases hgives with
    | @name format written hspells =>
      rw [quoted_append]
      exact read_eq_ok_iff.2 ⟨written, hspells, rfl⟩
    | @alone format entry hname hnull =>
      rw [List.cons_append, List.append_assoc]
      exact readObject_eq_ok_iff.2 ⟨entry, hname, hnull, rfl⟩

end Format

namespace Members

/-- A member with the value that has been read for it. -/
def setting? (members : Members) : Member → Option Setting
  | .inputFile => members.inputFile.map .inputFile
  | .color => members.color.map .color
  | .output => members.output.map .output

/-- The members with one more read. -/
def put (members : Members) : Setting → Members
  | .inputFile file => { members with inputFile := some file }
  | .color value => { members with color := some value }
  | .output format => { members with output := some format }

theorem has_eq (members : Members) (member : Member) :
    members.has member = (members.setting? member).isSome := by
  cases member <;> simp [has, setting?]

theorem setting?_put_self (members : Members) (setting : Setting) :
    (members.put setting).setting? setting.member = some setting := by
  cases setting <;> rfl

theorem setting?_put_other (members : Members) {setting : Setting} {member : Member}
    (hmember : member ≠ setting.member) :
    (members.put setting).setting? member = members.setting? member := by
  cases setting <;> cases member <;> first | rfl | exact absurd rfl hmember

theorem setting_settings (members : Members) (member : Member) :
    members.settings.setting member =
      (members.setting? member).getD (Settings.default.setting member) := by
  cases member with
  | inputFile => rcases members with ⟨_ | file, _, _⟩ <;> rfl
  | color => rcases members with ⟨_, _ | value, _⟩ <;> rfl
  | output => rcases members with ⟨_, _, _ | format⟩ <;> rfl

/-- A member is read where a value stands that gives it. -/
theorem readValue_eq_ok_iff {members after : Members} {member : Member} {s rest : Text} :
    members.readValue member s = .ok (after, rest) ↔
      ∃ (setting : Setting) (gap : Spacing) (value : Text), setting.member = member ∧
        Gives value setting ∧ s = gap.text ++ (value ++ rest) ∧ after = members.put setting := by
  constructor
  · intro hread
    cases member with
    | inputFile =>
      obtain ⟨⟨file, more⟩, hvalue, hpair⟩ := except_map_eq_ok hread
      obtain ⟨rfl, rfl⟩ := Prod.mk.inj hpair
      obtain ⟨gap, written, hspells, rfl⟩ := readText_eq_ok_iff.1 hvalue
      exact ⟨.inputFile file, gap, _, rfl, .file hspells, rfl, rfl⟩
    | color =>
      obtain ⟨⟨value, more⟩, hvalue, hpair⟩ := except_map_eq_ok hread
      obtain ⟨rfl, rfl⟩ := Prod.mk.inj hpair
      obtain ⟨gap, rfl⟩ := readBool_eq_ok_iff.1 hvalue
      exact ⟨.color value, gap, _, rfl, .color value, rfl, rfl⟩
    | output =>
      obtain ⟨⟨format, more⟩, hvalue, hpair⟩ := except_map_eq_ok hread
      obtain ⟨rfl, rfl⟩ := Prod.mk.inj hpair
      obtain ⟨gap, value, hgives, rfl⟩ := Format.readValue_eq_ok_iff.1 hvalue
      exact ⟨.output format, gap, value, rfl, hgives, rfl, rfl⟩
  · rintro ⟨setting, gap, value, rfl, hgives, rfl, rfl⟩
    cases setting with
    | inputFile file =>
      obtain ⟨hspells⟩ := hgives
      rw [Setting.member, readValue, readText_eq_ok_iff.2 ⟨gap, _, hspells, rfl⟩]
      rfl
    | color value =>
      cases hgives
      rw [Setting.member, readValue, readBool_eq_ok_iff.2 ⟨gap, rfl⟩]
      rfl
    | output format =>
      rw [Setting.member, readValue, Format.readValue_eq_ok_iff.2 ⟨gap, _, hgives, rfl⟩]
      rfl

end Members

namespace Gives

theorem isValue {value : Text} {setting : Setting} (hgives : Gives value setting) :
    IsValue value := by
  cases hgives with
  | file hspells => exact .string hspells.letters
  | color value => cases value <;> exact .word (by decide)
  | name hspells => exact .string hspells.letters
  | @alone format entry hname hnull =>
    have hkey : Key .object
        (Text.quoted entry.spelling ++ (entry.afterName.text ++ ':' :: entry.beforeValue.text)) :=
      .object entry.spelled.letters _ _
    have hobject := Derives.full entry.beforeName (.last hkey entry.isValue entry.afterValue)
    have hsplit : '{' :: (entry.text ++ ['}']) =
        Frame.object.opening :: (entry.beforeName.text ++ (Text.quoted entry.spelling ++
          (entry.afterName.text ++ ':' :: entry.beforeValue.text) ++
            (entry.value ++ entry.afterValue.text) ++ [Frame.object.closing])) := by
      simp [Entry.text, Entry.afterward, Frame.opening, Frame.closing]
    rw [hsplit]
    exact hobject

theorem not_isNumber {value : Text} {setting : Setting} (hgives : Gives value setting) :
    ¬ IsNumber value := by
  intro hnumber
  obtain ⟨c, t, rfl, hc⟩ := hnumber.head
  generalize hvalue : c :: t = value at hgives
  have hhead : c = '"' ∨ c = 't' ∨ c = 'f' ∨ c = '{' := by
    cases hgives with
    | file => exact Or.inl (List.cons.inj hvalue).1
    | color value =>
      cases value with
      | true => exact Or.inr (Or.inl (List.cons.inj hvalue).1)
      | false => exact Or.inr (Or.inr (Or.inl (List.cons.inj hvalue).1))
    | name => exact Or.inl (List.cons.inj hvalue).1
    | alone => exact Or.inr (Or.inr (Or.inr (List.cons.inj hvalue).1))
  rcases hhead with rfl | rfl | rfl | rfl <;> revert hc <;> decide

/-- A value gives a member at most one way. -/
theorem unique {value : Text} {left right : Setting} (hleft : Gives value left)
    (hright : Gives value right) (hmember : left.member = right.member) : left = right := by
  have hread : ∀ setting, Gives value setting → setting.member = right.member →
      Members.none.readValue right.member value = .ok (Members.none.put setting, []) :=
    fun setting hgives hsame =>
      Members.readValue_eq_ok_iff.2 ⟨setting, .empty, value, hsame, hgives, by simp, rfl⟩
  have hput := (hread left hleft hmember).symm.trans (hread right hright rfl)
  have hsetting := Members.none.setting?_put_self left
  rw [(Prod.mk.inj (Except.ok.inj hput)).1, hmember, Members.setting?_put_self] at hsetting
  exact (Option.some.inj hsetting).symm

end Gives

/-- Where a value stands that gives a member in no way, reading the member fails. -/
theorem Members.readValue_error {members : Members} {member : Member} {value rest : Text}
    (gap : Spacing) (hvalue : IsValue value) (hrest : Apart rest)
    (hnone : ∀ setting, setting.member = member → ¬ Gives value setting) :
    ∃ fault, members.readValue member (gap.text ++ (value ++ rest)) = .error fault := by
  cases hread : members.readValue member (gap.text ++ (value ++ rest)) with
  | error fault => exact ⟨fault, rfl⟩
  | ok found =>
    obtain ⟨after, more⟩ := found
    obtain ⟨setting, other, given, hmember, hgives, heq, -⟩ := readValue_eq_ok_iff.1 hread
    have hsame := congrArg skipSpace heq
    rw [skipSpace_append, skipSpace_append, hvalue.skipSpace, hgives.isValue.skipSpace] at hsame
    obtain ⟨rfl, -⟩ := hvalue.cancel hgives.isValue (fun _ => hrest)
      (fun hnumber => absurd hnumber hgives.not_isNumber) hsame
    exact absurd hgives (hnone setting hmember)

end Commonplace
