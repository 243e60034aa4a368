/-
What a saying mentions.  A part stands in a value in one piece exactly if its bytes stand in
those of the value in one piece: no byte of a character but the first can start one.
-/
import Commonplace.Proofs.Encoding
import Commonplace.Proofs.Making

namespace Commonplace

namespace Text

@[simp]
theorem toBytes_append (t u : Text) : toBytes (t ++ u) = t.toBytes ++ u.toBytes := by
  simp only [toBytes, String.toByteArray_ofList, List.utf8Encode_append]

/-- Of the bytes of a character only the first starts one. -/
theorem eq_nil_of_first {c : Char} {before after : List UInt8} {byte : UInt8}
    (hfirst : byte.IsUTF8FirstByte)
    (hbytes : String.utf8EncodeChar c = before ++ byte :: after) : before = [] := by
  have hplace : before.length < (String.utf8EncodeChar c).length := by
    simp [hbytes]
  have hbyte : (String.utf8EncodeChar c)[before.length] = byte := by
    simp [hbytes]
  rw [← hbyte, UInt8.isUTF8FirstByte_getElem_utf8EncodeChar] at hfirst
  exact List.length_eq_zero_iff.1 hfirst

/-- A byte that starts a character has whole characters before it. -/
theorem exists_parts_of_first {t : Text} {before after : List UInt8} {byte : UInt8}
    (hfirst : byte.IsUTF8FirstByte)
    (hbytes : t.flatMap String.utf8EncodeChar = before ++ byte :: after) :
    ∃ left right : Text, t = left ++ right ∧
      right.flatMap String.utf8EncodeChar = byte :: after := by
  induction t generalizing before with
  | nil => simp at hbytes
  | cons c t ih =>
    rw [List.flatMap_cons] at hbytes
    rcases List.append_eq_append_iff.1 hbytes with ⟨more, -, hrest⟩ | ⟨more, hc, hmore⟩
    · obtain ⟨left, right, rfl, hright⟩ := ih hrest
      exact ⟨c :: left, right, rfl, hright⟩
    · cases more with
      | nil => exact ⟨[c], t, rfl, hmore.symm⟩
      | cons first more =>
        obtain ⟨rfl, rfl⟩ := List.cons.inj hmore
        obtain rfl := eq_nil_of_first hfirst hc
        exact ⟨[], c :: t, rfl, by rw [List.flatMap_cons, hc]; rfl⟩

theorem toBytes_toList (t : Text) :
    t.toBytes.data.toList = t.flatMap String.utf8EncodeChar :=
  (toBytes_eq_iff.1 rfl).symm

/-- The bytes of some text that is not empty begin with a byte that starts a character. -/
theorem exists_first {t : Text} (hne : t ≠ []) :
    ∃ byte rest, UInt8.IsUTF8FirstByte byte ∧ t.flatMap String.utf8EncodeChar = byte :: rest := by
  cases t with
  | nil => exact absurd rfl hne
  | cons c t =>
    obtain ⟨byte, rest, hbytes⟩ :=
      List.exists_cons_of_ne_nil (String.utf8EncodeChar_ne_nil (c := c))
    have hfirst := UInt8.isUTF8FirstByte_getElem_zero_utf8EncodeChar (c := c)
    simp only [hbytes, List.getElem_cons_zero] at hfirst
    exact ⟨byte, rest ++ t.flatMap String.utf8EncodeChar, hfirst, by
      rw [List.flatMap_cons, hbytes, List.cons_append]⟩

/-- A text contains a part exactly if its bytes contain those of the part. -/
theorem infix_iff_bytes {t part : Text} :
    part <:+: t ↔ ∃ before after : ByteArray, t.toBytes = before ++ part.toBytes ++ after := by
  constructor
  · rintro ⟨before, after, rfl⟩
    exact ⟨toBytes before, toBytes after, by rw [toBytes_append, toBytes_append]⟩
  · rintro ⟨before, after, hbytes⟩
    by_cases hne : part = []
    · subst hne
      exact List.nil_infix
    · obtain ⟨byte, rest, hfirst, hpart⟩ := exists_first hne
      have hlist : t.flatMap String.utf8EncodeChar =
          before.data.toList ++ byte :: (rest ++ after.data.toList) := by
        rw [toBytes_eq_iff.1 hbytes]
        simp [toBytes_toList, hpart]
      obtain ⟨left, right, rfl, hright⟩ := exists_parts_of_first hfirst hlist
      have hrest : right.toBytes = part.toBytes ++ after := by
        rw [toBytes_eq_iff, hright]
        simp [toBytes_toList, hpart]
      obtain ⟨more, rfl⟩ := exists_toBytes_of_append hrest
      have hsplit : right = part ++ more := toBytes_injective (by rw [hrest, toBytes_append])
      exact ⟨left, more, by rw [hsplit, List.append_assoc]⟩

end Text

/-- The names and values that a saying carries: its content, and an author or a country. -/
inductive Saying.Carries : Saying → Text → Text → Prop
  | content (saying : Saying) : Carries saying "content".toList saying.content
  | author (content origin : Text) : Carries ⟨.aphorism, content, origin⟩ "author".toList origin
  | country (content origin : Text) : Carries ⟨.proverb, content, origin⟩ "country".toList origin

namespace Saying

theorem carries_iff {saying : Saying} {name value : Text} :
    saying.Carries name value ↔ saying.field? name = some value := by
  rw [field?_eq_some_iff]
  constructor
  · rintro (_ | _ | _)
    · exact Or.inl ⟨rfl, rfl⟩
    · exact Or.inr ⟨rfl, rfl⟩
    · exact Or.inr ⟨rfl, rfl⟩
  · rintro (⟨rfl, rfl⟩ | ⟨rfl, rfl⟩)
    · exact .content saying
    · obtain ⟨kind, content, origin⟩ := saying
      cases kind with
      | aphorism => exact .author content origin
      | proverb => exact .country content origin

/-- A saying mentions a part under a name exactly if it carries a value of that name in which the
part stands in one piece, in characters or, as well, in bytes. -/
theorem mentions_in_one_piece :
    (∀ (saying : Saying) (name part : Text), saying.mentions name part = true ↔
      ∃ value before after, saying.Carries name value ∧ value = before ++ part ++ after) ∧
    (∀ (saying : Saying) (name part value : Text), saying.Carries name value →
      (saying.mentions name part = true ↔
        ∃ before after : ByteArray, value.toBytes = before ++ part.toBytes ++ after)) ∧
    ∀ (saying : Saying) (name : Text), (∀ value, ¬ saying.Carries name value) →
      ∀ part, saying.mentions name part = false := by
  have hcharacters : ∀ (saying : Saying) (name part : Text), saying.mentions name part = true ↔
      ∃ value before after, saying.Carries name value ∧ value = before ++ part ++ after := by
    intro saying name part
    rw [mentions_iff]
    constructor
    · rintro ⟨value, hfield, before, after, hvalue⟩
      exact ⟨value, before, after, carries_iff.2 hfield, hvalue.symm⟩
    · rintro ⟨value, before, after, hcarries, hvalue⟩
      exact ⟨value, carries_iff.1 hcarries, before, after, hvalue.symm⟩
  refine ⟨hcharacters, ?_, ?_⟩
  · intro saying name part value hcarries
    rw [mentions_iff, ← Text.infix_iff_bytes, carries_iff.1 hcarries]
    simp
  · intro saying name hnone part
    rw [Bool.eq_false_iff]
    intro hmentions
    obtain ⟨value, before, after, hcarries, -⟩ := (hcharacters saying name part).1 hmentions
    exact hnone value hcarries

/-- Characters that share a byte, of which a value holds one or both, and a name that only the
other kind of saying has. -/
theorem mentions_in_one_piece_shared :
    let both : Text := "\u00e9\u00a9".toList
    let one : Text := "\u00e9".toList
    let part : Text := "\u00a9".toList
    let saying : Saying := ⟨.proverb, both, one⟩
    (∃ before after : ByteArray, both.toBytes = before ++ part.toBytes ++ after) ∧
      (¬ ∃ before after : ByteArray, one.toBytes = before ++ part.toBytes ++ after) ∧
      saying.mentions "author".toList [] = false := by
  intro both one part saying
  have hcontent := mentions_in_one_piece.2.1 saying _ part both (.content saying)
  have hcountry := mentions_in_one_piece.2.1 saying _ part one (.country both one)
  refine ⟨hcontent.1 (by decide), fun hbytes => ?_, ?_⟩
  · have hmentions := hcountry.2 hbytes
    contradiction
  · refine mentions_in_one_piece.2.2 saying _ (fun value hcarries => ?_) []
    have hfield := carries_iff.1 hcarries
    contradiction

end Saying

end Commonplace
