/-
The sayings that are collected: aphorisms, which have an author, and proverbs,
which have a country.
-/
import Commonplace.Fault
import Commonplace.Fields
import Commonplace.Json.Quoted
import Commonplace.Text.Within

namespace Commonplace

inductive Kind
  | aphorism
  | proverb
deriving DecidableEq

namespace Kind

/-- Every kind, in the order in which they are numbered. -/
def all : List Kind := [.aphorism, .proverb]

def tag : Kind → Text
  | .aphorism => "APHORISM".toList
  | .proverb => "PROVERB".toList

/-- The name of the field that only sayings of this kind have. -/
def originName : Kind → Text
  | .aphorism => "author".toList
  | .proverb => "country".toList

def number (kind : Kind) : Nat := all.idxOf kind

/-- The kind with a tag, which has to be spelled exactly. -/
def ofTag (tag : Text) : Except Fault Kind :=
  match all.find? (fun kind => kind.tag = tag) with
  | some kind => .ok kind
  | none => .error (.unknownKind tag)

end Kind

/-- A saying and where it comes from: the author of an aphorism, the country of a
proverb. -/
structure Saying where
  kind : Kind
  content : Text
  origin : Text
deriving DecidableEq

namespace Saying

def contentName : Text := "content".toList

/-- The value of a field that a saying carries. -/
def field? (saying : Saying) (name : Text) : Option Text :=
  if name = contentName then some saying.content
  else if name = saying.kind.originName then some saying.origin
  else none

/-- Whether the saying carries the field and its value contains the part. -/
def mentions (saying : Saying) (name part : Text) : Bool :=
  match saying.field? name with
  | some value => value.contains part
  | none => false

/-- A required field of a saying that is to be made. -/
def require (tag : Text) (fields : Fields) (name : Text) : Except Fault Text :=
  match fields.get? name with
  | some value => .ok value
  | none => .error (.missingField name tag)

/-- The saying with a tag and fields. The content is required first; fields of
other names are of no account. -/
def create (tag : Text) (fields : Fields) : Except Fault Saying :=
  match Kind.ofTag tag with
  | .error fault => .error fault
  | .ok kind =>
    match require tag fields contentName with
    | .error fault => .error fault
    | .ok content =>
      match require tag fields kind.originName with
      | .error fault => .error fault
      | .ok origin => .ok ⟨kind, content, origin⟩

/-- A saying as a line of text, its values as they are. -/
def render (saying : Saying) : Text :=
  ['['] ++ saying.kind.tag ++ "] ".toList ++
    contentName ++ ['='] ++ saying.content.quoted ++ [' '] ++
    saying.kind.originName ++ ['='] ++ saying.origin.quoted

/-- A saying as a JSON object on one line. -/
def json (saying : Saying) : Text :=
  let member := fun name value => Json.quote name ++ [':'] ++ Json.quote value
  ['{'] ++ member "type".toList saying.kind.tag ++ [','] ++
    member contentName saying.content ++ [','] ++
    member saying.kind.originName saying.origin ++ ['}']

end Saying

end Commonplace
