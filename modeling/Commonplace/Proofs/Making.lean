/-
When a saying is made, and what it carries: exactly the values that its kind
requires, under the names of the fields.  Otherwise there is one complaint, of the tag or
of the first required name without a value.
-/
import Commonplace.Proofs.Blanks
import Commonplace.Saying

namespace Commonplace

/-- The names that a kind requires, in the order in which they are required. -/
def Kind.required : Kind → List Text
  | .aphorism => ["content".toList, "author".toList]
  | .proverb => ["content".toList, "country".toList]

namespace Kind

theorem tag_lettered (kind : Kind) : Text.Lettered kind.tag := by
  cases kind <;> decide

theorem originName_lettered (kind : Kind) : Text.Lettered kind.originName := by
  cases kind <;> decide

theorem ofTag_tag (kind : Kind) : ofTag kind.tag = .ok kind := by
  cases kind <;> rfl

/-- A kind is found by its own tag and by no other. -/
theorem ofTag_eq_ok_iff {tag : Text} {kind : Kind} : ofTag tag = .ok kind ↔ tag = kind.tag := by
  constructor
  · intro hfound
    rw [ofTag] at hfound
    split at hfound
    · next found hfind =>
      have htag := List.find?_some hfind
      rw [← Except.ok.inj hfound]
      exact (of_decide_eq_true htag).symm
    · contradiction
  · rintro rfl
    exact ofTag_tag kind

theorem ofTag_eq_error_iff {tag : Text} {fault : Fault} :
    ofTag tag = .error fault ↔ (∀ kind : Kind, kind.tag ≠ tag) ∧ fault = .unknownKind tag := by
  have hfault : ∀ {other : Fault}, ofTag tag = .error other → other = .unknownKind tag := by
    intro other hother
    rw [ofTag] at hother
    split at hother
    · contradiction
    · exact (Except.error.inj hother).symm
  constructor
  · intro hnone
    refine ⟨fun kind htag => ?_, hfault hnone⟩
    rw [ofTag_eq_ok_iff.2 htag.symm] at hnone
    contradiction
  · rintro ⟨htag, rfl⟩
    cases hkind : ofTag tag with
    | ok kind => exact absurd (ofTag_eq_ok_iff.1 hkind).symm (htag kind)
    | error other => rw [hfault hkind]

theorem required_eq (kind : Kind) : kind.required = [Saying.contentName, kind.originName] := by
  cases kind <;> rfl

theorem mem_required {kind : Kind} {name : Text} :
    name ∈ kind.required ↔ name = Saying.contentName ∨ name = kind.originName := by
  simp [required_eq]

theorem originName_ne_contentName (kind : Kind) : kind.originName ≠ Saying.contentName := by
  cases kind <;> decide

end Kind

namespace Fields

/-- The first of some names under which there is no value. -/
def firstMissing? (fields : Fields) (names : List Text) : Option Text :=
  names.find? fun name => (fields.get? name).isNone

theorem get?_pair (first second : Text × Text) (name : Text) :
    (ofList [first, second]).get? name =
      if name = second.1 then some second.2
      else if name = first.1 then some first.2
      else none := by
  have hpair : ofList [first, second] =
      (empty.insert first.1 first.2).insert second.1 second.2 := rfl
  rw [hpair, get?_insert, get?_insert, get?_empty]

end Fields

namespace Saying

theorem contentName_lettered : Text.Lettered contentName := by decide

theorem require_eq_ok_iff {tag name value : Text} {fields : Fields} :
    require tag fields name = .ok value ↔ fields.get? name = some value := by
  rw [require]
  cases fields.get? name <;> simp

theorem require_eq_error_iff {tag name : Text} {fields : Fields} {fault : Fault} :
    require tag fields name = .error fault ↔
      fields.get? name = none ∧ fault = .missingField name tag := by
  rw [require]
  cases fields.get? name <;> simp [eq_comm]

/-- A saying is made of a tag and fields if they are its own. -/
theorem create_eq_ok_iff {tag : Text} {fields : Fields} {saying : Saying} :
    create tag fields = .ok saying ↔
      tag = saying.kind.tag ∧ fields.get? contentName = some saying.content ∧
        fields.get? saying.kind.originName = some saying.origin := by
  constructor
  · intro hcreate
    rw [create] at hcreate
    split at hcreate
    · contradiction
    · next kind hkind =>
      split at hcreate
      · contradiction
      · next content hcontent =>
        split at hcreate
        · contradiction
        · next origin horigin =>
          obtain rfl := Except.ok.inj hcreate
          exact ⟨Kind.ofTag_eq_ok_iff.1 hkind, require_eq_ok_iff.1 hcontent,
            require_eq_ok_iff.1 horigin⟩
  · rintro ⟨rfl, hcontent, horigin⟩
    rw [create, Kind.ofTag_tag]
    simp only [require_eq_ok_iff.2 hcontent, require_eq_ok_iff.2 horigin]

/-- A saying is made of the two values that its kind requires. -/
theorem create_own (kind : Kind) (content origin : Text) :
    create kind.tag (Fields.ofList [(contentName, content), (kind.originName, origin)]) =
      .ok ⟨kind, content, origin⟩ := by
  have hne := kind.originName_ne_contentName
  refine create_eq_ok_iff.2 ⟨rfl, ?_, ?_⟩
  · simp [Fields.get?_pair, hne.symm]
  · simp [Fields.get?_pair]

@[simp]
theorem field?_contentName (saying : Saying) :
    saying.field? contentName = some saying.content := by
  simp [field?]

@[simp]
theorem field?_originName (saying : Saying) :
    saying.field? saying.kind.originName = some saying.origin := by
  simp [field?, saying.kind.originName_ne_contentName]

/-- A saying carries its content, its origin and nothing else. -/
theorem field?_eq_some_iff {saying : Saying} {name value : Text} :
    saying.field? name = some value ↔
      (name = contentName ∧ value = saying.content) ∨
        (name = saying.kind.originName ∧ value = saying.origin) := by
  constructor
  · intro hfield
    rw [field?] at hfield
    split at hfield
    · next hname => exact Or.inl ⟨hname, (Option.some.inj hfield).symm⟩
    · split at hfield
      · next hname => exact Or.inr ⟨hname, (Option.some.inj hfield).symm⟩
      · contradiction
  · rintro (⟨rfl, rfl⟩ | ⟨rfl, rfl⟩)
    · exact saying.field?_contentName
    · exact saying.field?_originName

/-- A saying mentions what stands in one piece in a value that it carries. -/
theorem mentions_iff {saying : Saying} {name part : Text} :
    saying.mentions name part = true ↔ ∃ value ∈ saying.field? name, part <:+: value := by
  rw [mentions]
  cases saying.field? name with
  | none => simp
  | some value => simp [Text.contains_iff_infix]

/-- What a saying carries was under the same name before it was made. -/
theorem get?_of_create {tag name value : Text} {fields : Fields} {saying : Saying}
    (hcreate : create tag fields = .ok saying) (hfield : saying.field? name = some value) :
    fields.get? name = some value := by
  obtain ⟨-, hcontent, horigin⟩ := create_eq_ok_iff.1 hcreate
  rcases field?_eq_some_iff.1 hfield with ⟨rfl, rfl⟩ | ⟨rfl, rfl⟩
  · exact hcontent
  · exact horigin

/-- A saying carries the fields that its kind requires and no others. -/
theorem isSome_field?_iff {saying : Saying} {name : Text} :
    (saying.field? name).isSome = true ↔ name ∈ saying.kind.required := by
  rw [Option.isSome_iff_exists, Kind.mem_required]
  constructor
  · rintro ⟨value, hfield⟩
    exact (field?_eq_some_iff.1 hfield).imp And.left And.left
  · rintro (rfl | rfl)
    · exact ⟨_, saying.field?_contentName⟩
    · exact ⟨_, saying.field?_originName⟩

/-- A saying is made of whatever gives its tag and what it carries. -/
theorem create_eq_ok_iff_fields {tag : Text} {fields : Fields} {saying : Saying} :
    create tag fields = .ok saying ↔
      saying.kind.tag = tag ∧
        ∀ name ∈ saying.kind.required, saying.field? name = fields.get? name := by
  rw [create_eq_ok_iff, eq_comm (a := tag)]
  refine and_congr_right fun _ => ?_
  simp [Kind.required_eq, eq_comm]

/-- What comes of a tag and fields: a saying that carries what was given under the required
names, a complaint of the tag, or one of the first required name without a value. -/
inductive Making (tag : Text) (fields : Fields) : Except Fault Saying → Prop
  | made {saying : Saying} (htag : saying.kind.tag = tag)
    (hfields : ∀ name ∈ saying.kind.required, saying.field? name = fields.get? name) :
    Making tag fields (.ok saying)
  | unknown (htag : ∀ kind : Kind, kind.tag ≠ tag) : Making tag fields (.error (.unknownKind tag))
  | missing {kind : Kind} {name : Text} (htag : kind.tag = tag)
    (hname : fields.firstMissing? kind.required = some name) :
    Making tag fields (.error (.missingField name tag))

theorem making_of_create {tag : Text} {fields : Fields} {result : Except Fault Saying}
    (hcreate : create tag fields = result) : Making tag fields result := by
  subst hcreate
  fun_cases create tag fields with
  | case1 fault hkind =>
    obtain ⟨htag, rfl⟩ := Kind.ofTag_eq_error_iff.1 hkind
    exact .unknown htag
  | case2 kind hkind fault hcontent =>
    obtain ⟨hnone, rfl⟩ := require_eq_error_iff.1 hcontent
    refine .missing (Kind.ofTag_eq_ok_iff.1 hkind).symm ?_
    simp [Fields.firstMissing?, Kind.required_eq, hnone]
  | case3 kind hkind content hcontent fault horigin =>
    obtain ⟨hnone, rfl⟩ := require_eq_error_iff.1 horigin
    refine .missing (Kind.ofTag_eq_ok_iff.1 hkind).symm ?_
    simp [Fields.firstMissing?, Kind.required_eq, require_eq_ok_iff.1 hcontent, hnone]
  | case4 kind hkind content hcontent origin horigin =>
    have hmade : create tag fields = .ok ⟨kind, content, origin⟩ :=
      create_eq_ok_iff.2 ⟨Kind.ofTag_eq_ok_iff.1 hkind, require_eq_ok_iff.1 hcontent,
        require_eq_ok_iff.1 horigin⟩
    obtain ⟨htag, hfields⟩ := create_eq_ok_iff_fields.1 hmade
    exact .made htag hfields

end Saying

end Commonplace
