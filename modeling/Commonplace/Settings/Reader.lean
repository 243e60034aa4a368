/-
Reading settings from a JSON text.  An object may leave members out and may have
members of other names, whose values are passed over; a list gives the members in
order and may stop early.  What is left out has its default value.
-/
import Commonplace.Json.Skip
import Commonplace.Settings

namespace Commonplace

open Json

namespace Json

/-- The fault of a value that is not of the kind expected. What is wrong with the
value itself comes first; the start of a list or an object is not read. -/
def wrongKind (expected : Expected) (s : Text) : Json.Fault :=
  let word := fun (found : Found) (letters rest : Text) =>
    match readWord letters rest with
    | .error fault => fault
    | .ok rest => .behind (.wrongKind found expected) rest
  match s with
  | [] => .atEnd .endInValue
  | c :: rest =>
    if c = 'n' then word .null ['u', 'l', 'l'] rest
    else if c = 't' then word (.boolean true) ['r', 'u', 'e'] rest
    else if c = 'f' then word (.boolean false) ['a', 'l', 's', 'e'] rest
    else if c = '-' ∨ c.isDigit then
      match readNumber s with
      | .error fault => fault
      | .ok (found, rest) => .behind (.wrongKind found expected) rest
    else if c = '"' then
      match readString rest with
      | .error fault => fault
      | .ok (content, rest) => .behind (.wrongKind (.string content) expected) rest
    else if c = '[' then .behind (.wrongKind .sequence expected) s
    else if c = '{' then .behind (.wrongKind .map expected) s
    else .looking .expectedValue s

/-- A value that is a text. -/
def readText (s : Text) : Except Json.Fault (Text × Text) :=
  match skipSpace s with
  | '"' :: rest => readString rest
  | other => .error (wrongKind .string other)

/-- A value that is a truth value. -/
def readBool (s : Text) : Except Json.Fault (Bool × Text) :=
  match skipSpace s with
  | 't' :: rest => (readWord ['r', 'u', 'e'] rest).map (true, ·)
  | 'f' :: rest => (readWord ['a', 'l', 's', 'e'] rest).map (false, ·)
  | other => .error (wrongKind .boolean other)

/-- The value null. -/
def readNull (s : Text) : Except Json.Fault Text :=
  match skipSpace s with
  | 'n' :: rest => readWord ['u', 'l', 'l'] rest
  | other => .error (wrongKind .unit other)

theorem readWord_map_length {α : Type} {value found : α} {word s rest : Text}
    (hread : (readWord word s).map (value, ·) = .ok (found, rest)) :
    rest.length ≤ s.length := by
  obtain ⟨after, hword, hafter⟩ := except_map_eq_ok hread
  cases hafter
  exact readWord_length hword

theorem readText_length {s value rest : Text} (hread : readText s = .ok (value, rest)) :
    rest.length ≤ s.length := by
  have hspace := skipSpace_length_le s
  grind [readText, → readString_length]

theorem readBool_length {s rest : Text} {value : Bool}
    (hread : readBool s = .ok (value, rest)) : rest.length ≤ s.length := by
  have hspace := skipSpace_length_le s
  grind [readBool, → readWord_map_length]

theorem readNull_length {s rest : Text} (hread : readNull s = .ok rest) :
    rest.length ≤ s.length := by
  have hspace := skipSpace_length_le s
  grind [readNull, → readWord_length]

end Json

/-- The name of a format, after its opening mark. -/
def Format.read (s : Text) : Except Json.Fault (Format × Text) :=
  match readString s with
  | .error fault => .error fault
  | .ok (name, rest) =>
    match Format.ofName? name with
    | some format => .ok (format, rest)
    | none => .error (.behind (.unknownName name Format.text.name Format.json.name) rest)

/-- A format under its name, with nothing as its value, after the opening brace
of an object of that one member. -/
def Format.readObject (s : Text) : Except Json.Fault (Format × Text) :=
  match skipSpace s with
  | [] => .error (.atEnd .endInObject)
  | '"' :: rest =>
    match Format.read rest with
    | .error fault => .error fault
    | .ok (format, rest) =>
      match readColon rest with
      | .error fault => .error fault
      | .ok rest =>
        match readNull rest with
        | .error fault => .error fault
        | .ok rest =>
          match skipSpace rest with
          | [] => .error (.atEnd .endInObject)
          | '}' :: rest => .ok (format, rest)
          | other => .error (.behind .expectedValue other)
  | '}' :: rest => .error (.looking .expectedValue ('}' :: rest))
  | other => .error (.looking .keyNotString other)

/-- A value that is a format: its name, or an object that has it as a member. -/
def Format.readValue (s : Text) : Except Json.Fault (Format × Text) :=
  match skipSpace s with
  | [] => .error (.atEnd .endInValue)
  | '"' :: rest => Format.read rest
  | '{' :: rest => Format.readObject rest
  | other => .error (.looking .expectedValue other)

theorem Format.read_length {s rest : Text} {format : Format}
    (hread : Format.read s = .ok (format, rest)) : rest.length ≤ s.length := by
  grind [Format.read, → readString_length]

theorem Format.readObject_length {s rest : Text} {format : Format}
    (hread : Format.readObject s = .ok (format, rest)) : rest.length ≤ s.length := by
  unfold Format.readObject at hread
  split at hread <;> try simp at hread
  next heq =>
    have hspace := skipSpace_length_le s
    rw [heq, List.length_cons] at hspace
    grind [→ Format.read_length, → readColon_length, → readNull_length,
      skipSpace_length_le]

theorem Format.readValue_length {s rest : Text} {format : Format}
    (hread : Format.readValue s = .ok (format, rest)) : rest.length ≤ s.length := by
  grind [Format.readValue, → Format.read_length, → Format.readObject_length,
    skipSpace_length_le]

/-- The members that have been read. -/
structure Members where
  inputFile : Option Text
  color : Option Bool
  output : Option Format
deriving DecidableEq

namespace Members

def none : Members := ⟨.none, .none, .none⟩

def has (members : Members) : Member → Bool
  | .inputFile => members.inputFile.isSome
  | .color => members.color.isSome
  | .output => members.output.isSome

/-- Members that have not been read take their defaults. -/
def settings (members : Members) : Settings :=
  ⟨members.inputFile.getD Settings.default.inputFile,
    members.color.getD Settings.default.color,
    members.output.getD Settings.default.output⟩

/-- The value of a member. -/
def readValue (members : Members) (member : Member) (s : Text) :
    Except Json.Fault (Members × Text) :=
  match member with
  | .inputFile => (readText s).map fun (value, rest) =>
    (⟨some value, members.color, members.output⟩, rest)
  | .color => (readBool s).map fun (value, rest) =>
    (⟨members.inputFile, some value, members.output⟩, rest)
  | .output => (Format.readValue s).map fun (value, rest) =>
    (⟨members.inputFile, members.color, some value⟩, rest)

/-- The text after the end of an object that is given up: its closing brace is
passed over if it comes next. -/
def abandoned (s : Text) : Text :=
  match skipSpace s with
  | '}' :: rest => rest
  | other => other

/-- What stands under a key, after the key.  A known name may come only once. -/
def readUnder (members : Members) (key s : Text) : Except Json.Fault (Members × Text) :=
  match Member.ofName? key with
  | .none =>
    match readColon s with
    | .error fault => .error fault
    | .ok rest => (skipValue [] rest).map (members, ·)
  | .some member =>
    if members.has member then .error (.behind (.repeatedName key) (abandoned s))
    else
      match readColon s with
      | .error fault => .error fault
      | .ok rest => members.readValue member rest

/-- The next key of an object and what follows it, or what follows the object. -/
def nextKey (isFirst : Bool) (s : Text) : Except Json.Fault (Option Text × Text) :=
  match skipSpace s with
  | [] => .error (.atEnd .endInObject)
  | c :: rest =>
    if c = '}' then .ok (.none, rest)
    else if isFirst then
      if c = '"' then (readString rest).map fun (key, rest) => (some key, rest)
      else .error (.looking .keyNotString (c :: rest))
    else if c = ',' then
      match skipSpace rest with
      | [] => .error (.atEnd .endInValue)
      | '"' :: rest => (readString rest).map fun (key, rest) => (some key, rest)
      | '}' :: rest => .error (.looking .trailingComma ('}' :: rest))
      | other => .error (.looking .keyNotString other)
    else .error (.looking .expectedCommaOrBrace (c :: rest))

/-- Whether a list has another value, and the text where the value starts. -/
def nextItem (isFirst : Bool) (s : Text) : Except Json.Fault (Option Text) :=
  match skipSpace s with
  | [] => .error (.atEnd .endInList)
  | c :: rest =>
    if c = ']' then .ok .none
    else if isFirst then .ok (some (c :: rest))
    else if c = ',' then
      match skipSpace rest with
      | [] => .error (.atEnd .endInValue)
      | ']' :: rest => .error (.looking .trailingComma (']' :: rest))
      | other => .ok (some other)
    else .error (.looking .expectedCommaOrBracket (c :: rest))

/-- What follows a list that should have no more values. -/
def closeList (s : Text) : Except Json.Fault Text :=
  match skipSpace s with
  | [] => .error (.atEnd .endInList)
  | ']' :: rest => .ok rest
  | ',' :: rest =>
    match skipSpace rest with
    | ']' :: rest => .error (.looking .trailingComma (']' :: rest))
    | other => .error (.looking .trailingCharacters other)
  | other => .error (.looking .trailingCharacters other)

/-- The values of a list, each for the next of the members it may give. -/
def readItems (isFirst : Bool) (members : Members) (s : Text) :
    List Member → Except Json.Fault (Members × Text)
  | [] => (closeList s).map (members, ·)
  | member :: later =>
    match nextItem isFirst s with
    | .error fault => .error fault
    | .ok .none => (closeList s).map (members, ·)
    | .ok (.some item) =>
      match members.readValue member item with
      | .error fault => .error fault
      | .ok (members, rest) => readItems false members rest later

theorem readValue_length {members after : Members} {member : Member} {s rest : Text}
    (hread : members.readValue member s = .ok (after, rest)) : rest.length ≤ s.length := by
  cases member with
  | inputFile =>
    obtain ⟨⟨value, _⟩, hvalue, hafter⟩ := except_map_eq_ok hread
    cases hafter
    exact readText_length hvalue
  | color =>
    obtain ⟨⟨value, _⟩, hvalue, hafter⟩ := except_map_eq_ok hread
    cases hafter
    exact readBool_length hvalue
  | output =>
    obtain ⟨⟨value, _⟩, hvalue, hafter⟩ := except_map_eq_ok hread
    cases hafter
    exact Format.readValue_length hvalue

theorem readUnder_length {members after : Members} {key s rest : Text}
    (hread : members.readUnder key s = .ok (after, rest)) : rest.length ≤ s.length := by
  unfold readUnder at hread
  split at hread
  · split at hread
    · simp at hread
    · next hcolon =>
      obtain ⟨_, hskip, hafter⟩ := except_map_eq_ok hread
      cases hafter
      have hlength := readColon_length hcolon
      have hrest := skipValue_length hskip
      omega
  · split at hread
    · simp at hread
    · split at hread
      · simp at hread
      · next hcolon =>
        have hlength := readColon_length hcolon
        have hrest := readValue_length hread
        omega

theorem nextKey_length {isFirst : Bool} {s key rest : Text}
    (hnext : nextKey isFirst s = .ok (some key, rest)) : rest.length < s.length := by
  have hspace := skipSpace_length_le s
  unfold nextKey at hnext
  split at hnext
  · simp at hnext
  · next c tail heq =>
    rw [heq, List.length_cons] at hspace
    split at hnext
    · simp at hnext
    split at hnext
    · split at hnext
      · obtain ⟨⟨_, _⟩, hstring, hafter⟩ := except_map_eq_ok hnext
        cases hafter
        have hlength := readString_length hstring
        omega
      · simp at hnext
    split at hnext
    · have hagain := skipSpace_length_le tail
      split at hnext
      · simp at hnext
      · next heq =>
        rw [heq, List.length_cons] at hagain
        obtain ⟨⟨_, _⟩, hstring, hafter⟩ := except_map_eq_ok hnext
        cases hafter
        have hlength := readString_length hstring
        omega
      · simp at hnext
      · simp at hnext
    · simp at hnext

/-- The members of an object up to its closing brace, and what follows it. -/
def readAll (isFirst : Bool) (members : Members) (s : Text) :
    Except Json.Fault (Members × Text) :=
  match _hkey : nextKey isFirst s with
  | .error fault => .error fault
  | .ok (.none, rest) => .ok (members, rest)
  | .ok (some key, rest) =>
    match _hvalue : members.readUnder key rest with
    | .error fault => .error fault
    | .ok (members, rest) => readAll false members rest
termination_by s.length
decreasing_by
  have hkey := nextKey_length _hkey
  have hvalue := readUnder_length _hvalue
  omega

/-- The members in an object or a list, and what follows it. -/
def read (s : Text) : Except Json.Fault (Members × Text) :=
  match skipSpace s with
  | '{' :: rest => readAll true none rest
  | '[' :: rest => readItems true none rest Member.all
  | other => .error (wrongKind .settings other)

end Members

/-- The settings that a whole text gives, or where it is at fault. -/
def Settings.read (text : Text) : Except Complaint Settings :=
  match Members.read text with
  | .error fault => .error (fault.locate text)
  | .ok (members, rest) =>
    match skipSpace rest with
    | [] => .ok members.settings
    | other => .error ((Json.Fault.looking .trailingCharacters other).locate text)

end Commonplace
