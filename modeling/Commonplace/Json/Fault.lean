/-
What can be wrong with a JSON text, where in the text it is wrong, and how both
are said.
-/
import Commonplace.Text.Shown

namespace Commonplace

namespace Json

/-- A value as it is named in a complaint about its kind. -/
inductive Found
  | null
  | boolean (value : Bool)
  | integer (negative : Bool) (magnitude : Nat)
  | floating (written : Text)
  | string (content : Text)
  | sequence
  | map
deriving DecidableEq

/-- What a value should have been. -/
inductive Expected
  | string
  | boolean
  | unit
  | settings
deriving DecidableEq

inductive Cause
  | endInValue
  | endInObject
  | endInList
  | endInString
  | expectedValue
  | expectedWord
  | expectedColon
  | expectedCommaOrBrace
  | expectedCommaOrBracket
  | keyNotString
  | trailingComma
  | trailingCharacters
  | invalidNumber
  | numberOutOfRange
  | invalidEscape
  | endInEscape
  | loneSurrogate
  | controlCharacter
  | wrongKind (found : Found) (expected : Expected)
  | unknownName (name : Text) (first second : Text)
  | repeatedName (name : Text)
deriving DecidableEq

/-- A cause with the text that was still unread when it was noticed. The place
of a fault lies a number of bytes into that text: a byte that was looked at
counts as reached. -/
structure Fault where
  cause : Cause
  unread : Text
  ahead : Nat
deriving DecidableEq

/-- A fault at the first byte of the unread text, which is counted, or at the
end of the text. -/
def Fault.looking (cause : Cause) (unread : Text) : Fault := ⟨cause, unread, 1⟩

/-- A fault in what was read last. -/
def Fault.behind (cause : Cause) (unread : Text) : Fault := ⟨cause, unread, 0⟩

/-- A fault that only the end of the text brings out. -/
def Fault.atEnd (cause : Cause) : Fault := ⟨cause, [], 0⟩

/-- Lines count from one, columns in bytes from the last line feed. -/
structure Place where
  line : Nat
  column : Nat
deriving DecidableEq

def Place.start : Place := ⟨1, 0⟩

def Place.step (place : Place) (c : Char) : Place :=
  if c = '\n' then ⟨place.line + 1, 0⟩ else ⟨place.line, place.column + c.utf8Size⟩

/-- The place a number of bytes further on, or the end of the text. -/
def Place.ahead (place : Place) : Nat → Text → Place
  | 0, _ => place
  | _, [] => place
  | n, c :: rest =>
    if c.utf8Size ≤ n then (place.step c).ahead (n - c.utf8Size) rest
    else ⟨place.line, place.column + n⟩

/-- A cause with its place. -/
structure Complaint where
  cause : Cause
  place : Place
deriving DecidableEq

/-- The place of a fault met while reading the whole text. -/
def Fault.locate (fault : Fault) (whole : Text) : Complaint :=
  let passed := whole.take (whole.length - fault.unread.length)
  ⟨fault.cause, (passed.foldl Place.step Place.start).ahead fault.ahead fault.unread⟩

def Found.say : Found → Text
  | .null => "null".toList
  | .boolean true => "boolean `true`".toList
  | .boolean false => "boolean `false`".toList
  | .integer false magnitude => "integer `".toList ++ Text.ofNat magnitude ++ "`".toList
  | .integer true magnitude => "integer `-".toList ++ Text.ofNat magnitude ++ "`".toList
  | .floating written => "floating point `".toList ++ written ++ "`".toList
  | .string content => "string ".toList ++ content.shown
  | .sequence => "sequence".toList
  | .map => "map".toList

def Expected.say : Expected → Text
  | .string => "a string".toList
  | .boolean => "a boolean".toList
  | .unit => "unit".toList
  | .settings => "struct SayingsConfig".toList

def Cause.say : Cause → Text
  | .endInValue => "EOF while parsing a value".toList
  | .endInObject => "EOF while parsing an object".toList
  | .endInList => "EOF while parsing a list".toList
  | .endInString => "EOF while parsing a string".toList
  | .expectedValue => "expected value".toList
  | .expectedWord => "expected ident".toList
  | .expectedColon => "expected `:`".toList
  | .expectedCommaOrBrace => "expected `,` or `\x7d`".toList
  | .expectedCommaOrBracket => "expected `,` or `]`".toList
  | .keyNotString => "key must be a string".toList
  | .trailingComma => "trailing comma".toList
  | .trailingCharacters => "trailing characters".toList
  | .invalidNumber => "invalid number".toList
  | .numberOutOfRange => "number out of range".toList
  | .invalidEscape => "invalid escape".toList
  | .endInEscape => "unexpected end of hex escape".toList
  | .loneSurrogate => "lone leading surrogate in hex escape".toList
  | .controlCharacter =>
    "control character (\\u0000-\\u001F) found while parsing a string".toList
  | .wrongKind found expected =>
    "invalid type: ".toList ++ found.say ++ ", expected ".toList ++ expected.say
  | .unknownName name first second =>
    "unknown variant `".toList ++ name ++ "`, expected `".toList ++ first ++
      "` or `".toList ++ second ++ "`".toList
  | .repeatedName name => "duplicate field `".toList ++ name ++ "`".toList

def Complaint.say (complaint : Complaint) : Text :=
  complaint.cause.say ++ " at line ".toList ++ Text.ofNat complaint.place.line ++
    " column ".toList ++ Text.ofNat complaint.place.column

end Json

end Commonplace
