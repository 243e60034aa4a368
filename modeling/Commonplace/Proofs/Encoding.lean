/-
The bytes of texts.  The bytes of one character have one of nine forms, and bytes are those
of a text exactly if they fall into such forms one after the other.  The bounds of the forms
keep out codes that are longer than they need to be, the codes of surrogates and those past
the last character.
-/
import Mathlib.Data.List.Forall2
import Commonplace.Text

namespace Commonplace

namespace Text

/-- The least and the greatest byte behind the first of a character, where nothing narrower
is said. -/
def trail : UInt8 × UInt8 := (0x80, 0xBF)

/-- The forms of the bytes of one character, each byte by its bounds. -/
def byteForms : List (List (UInt8 × UInt8)) :=
  [[(0x00, 0x7F)],
   [(0xC2, 0xDF), trail],
   [(0xE0, 0xE0), (0xA0, 0xBF), trail],
   [(0xE1, 0xEC), trail, trail],
   [(0xED, 0xED), (0x80, 0x9F), trail],
   [(0xEE, 0xEF), trail, trail],
   [(0xF0, 0xF0), (0x90, 0xBF), trail, trail],
   [(0xF1, 0xF3), trail, trail, trail],
   [(0xF4, 0xF4), (0x80, 0x8F), trail, trail]]

def Within (bounds : UInt8 × UInt8) (byte : UInt8) : Prop :=
  bounds.1 ≤ byte ∧ byte ≤ bounds.2

def Fits (form : List (UInt8 × UInt8)) (bytes : List UInt8) : Prop :=
  List.Forall₂ Within form bytes

/-- Bytes that fall into forms one after the other. -/
inductive WellFormed : List UInt8 → Prop
  | nil : WellFormed []
  | append {form : List (UInt8 × UInt8)} {bytes rest : List UInt8} (hform : form ∈ byteForms)
    (hbytes : Fits form bytes) (hrest : WellFormed rest) : WellFormed (bytes ++ rest)

theorem within_iff {bounds : UInt8 × UInt8} {byte : UInt8} :
    Within bounds byte ↔ bounds.1.toNat ≤ byte.toNat ∧ byte.toNat ≤ bounds.2.toNat := by
  rw [Within, UInt8.le_iff_toNat_le, UInt8.le_iff_toNat_le]

theorem within_trail_iff {byte : UInt8} :
    Within trail byte ↔ 0x80 ≤ byte.toNat ∧ byte.toNat ≤ 0xBF := within_iff

theorem within_ofNat {bounds : UInt8 × UInt8} {n : Nat} (hleast : bounds.1.toNat ≤ n)
    (hgreatest : n ≤ bounds.2.toNat) : Within bounds (.ofNat n) := by
  have hn : n < 256 := Nat.lt_of_le_of_lt hgreatest bounds.2.toNat_lt
  rw [within_iff, UInt8.toNat_ofNat_of_lt' hn]
  exact ⟨hleast, hgreatest⟩

/-- Six bits behind the first byte. -/
theorem within_trail (n : Nat) : Within trail (.ofNat (n % 0x40 + 0x80)) := by
  have hbits : n % 0x40 < 0x40 := Nat.mod_lt n (by decide)
  apply within_ofNat
  · exact Nat.le_add_left 0x80 _
  · exact Nat.add_le_add_right (Nat.le_of_lt_succ hbits) 0x80

theorem fits_three {lead next : UInt8 × UInt8} {v : Nat}
    (hlead : lead.1.toNat ≤ v / 0x1000 % 0x10 + 0xE0 ∧ v / 0x1000 % 0x10 + 0xE0 ≤ lead.2.toNat)
    (hnext : next.1.toNat ≤ v / 0x40 % 0x40 + 0x80 ∧ v / 0x40 % 0x40 + 0x80 ≤ next.2.toNat) :
    Fits [lead, next, trail] [.ofNat (v / 0x1000 % 0x10 + 0xE0),
      .ofNat (v / 0x40 % 0x40 + 0x80), .ofNat (v % 0x40 + 0x80)] := by
  refine .cons ?_ (.cons ?_ (.cons (within_trail v) .nil))
  · exact within_ofNat hlead.1 hlead.2
  · exact within_ofNat hnext.1 hnext.2

theorem fits_four {lead next : UInt8 × UInt8} {v : Nat}
    (hlead : lead.1.toNat ≤ v / 0x40000 % 0x08 + 0xF0 ∧
      v / 0x40000 % 0x08 + 0xF0 ≤ lead.2.toNat)
    (hnext : next.1.toNat ≤ v / 0x1000 % 0x40 + 0x80 ∧ v / 0x1000 % 0x40 + 0x80 ≤ next.2.toNat) :
    Fits [lead, next, trail, trail] [.ofNat (v / 0x40000 % 0x08 + 0xF0),
      .ofNat (v / 0x1000 % 0x40 + 0x80), .ofNat (v / 0x40 % 0x40 + 0x80),
      .ofNat (v % 0x40 + 0x80)] := by
  refine .cons ?_ (.cons ?_ (.cons (within_trail _) (.cons (within_trail v) .nil)))
  · exact within_ofNat hlead.1 hlead.2
  · exact within_ofNat hnext.1 hnext.2

/-- The bytes of a character have a form.  The first of three bytes or of four leaves
room for characters that are none or that have fewer bytes, so the second is bounded there. -/
theorem exists_form (c : Char) : ∃ form ∈ byteForms, Fits form (String.utf8EncodeChar c) := by
  have hvalid : c.val.toNat < 0xD800 ∨ 0xDFFF < c.val.toNat ∧ c.val.toNat < 0x110000 := c.valid
  unfold String.utf8EncodeChar
  generalize c.val.toNat = v at hvalid
  dsimp only
  split
  · refine ⟨[(0x00, 0x7F)], by decide, .cons (within_ofNat ?_ ?_) .nil⟩ <;> simp; omega
  split
  · refine ⟨[(0xC2, 0xDF), trail], by decide,
      .cons (within_ofNat ?_ ?_) (.cons (within_trail v) .nil)⟩ <;> simp <;> omega
  split
  · have hparts : v < 0x1000 ∨ (0x1000 ≤ v ∧ v < 0xD000) ∨ (0xD000 ≤ v ∧ v < 0xD800) ∨
        0xE000 ≤ v := by omega
    rcases hparts with hv | hv | hv | hv
    · exact ⟨[(0xE0, 0xE0), (0xA0, 0xBF), trail], by decide,
        fits_three (by simp; omega) (by simp; omega)⟩
    · exact ⟨[(0xE1, 0xEC), trail, trail], by decide,
        fits_three (by simp; omega) (by simp [trail]; omega)⟩
    · exact ⟨[(0xED, 0xED), (0x80, 0x9F), trail], by decide,
        fits_three (by simp; omega) (by simp; omega)⟩
    · exact ⟨[(0xEE, 0xEF), trail, trail], by decide,
        fits_three (by simp; omega) (by simp [trail]; omega)⟩
  · have hparts : v < 0x40000 ∨ (0x40000 ≤ v ∧ v < 0x100000) ∨ 0x100000 ≤ v := by omega
    rcases hparts with hv | hv | hv
    · exact ⟨[(0xF0, 0xF0), (0x90, 0xBF), trail, trail], by decide,
        fits_four (by simp; omega) (by simp; omega)⟩
    · exact ⟨[(0xF1, 0xF3), trail, trail, trail], by decide,
        fits_four (by simp; omega) (by simp [trail]; omega)⟩
    · exact ⟨[(0xF4, 0xF4), (0x80, 0x8F), trail, trail], by decide,
        fits_four (by simp; omega) (by simp; omega)⟩

theorem ofNat_eq_of_toNat_eq {n : Nat} {byte : UInt8} (hn : byte.toNat = n) :
    UInt8.ofNat n = byte := by
  rw [← hn, UInt8.ofNat_toNat]

/-- A number of a scalar value is that of a character. -/
theorem exists_char_of_value {v : Nat} (hvalid : v.isValidChar) :
    ∃ c : Char, c.val.toNat = v := ⟨Char.ofNatAux v hvalid, rfl⟩

theorem exists_char_one {bytes : List UInt8} (hbytes : Fits [(0x00, 0x7F)] bytes) :
    ∃ c : Char, String.utf8EncodeChar c = bytes := by
  obtain _ | ⟨hfirst, _ | _⟩ := hbytes
  rename_i first
  have hvalue : first.toNat ≤ 0x7F := (within_iff.1 hfirst).2
  obtain ⟨c, hc⟩ := exists_char_of_value (v := first.toNat) (Or.inl (by omega))
  refine ⟨c, ?_⟩
  rw [String.utf8EncodeChar]
  simp only [hc, hvalue, if_true, UInt8.ofNat_toNat]

theorem exists_char_two {bytes : List UInt8} (hbytes : Fits [(0xC2, 0xDF), trail] bytes) :
    ∃ c : Char, String.utf8EncodeChar c = bytes := by
  obtain _ | ⟨hfirst, _ | ⟨hsecond, _ | _⟩⟩ := hbytes
  rename_i first second
  have hlead : 0xC2 ≤ first.toNat ∧ first.toNat ≤ 0xDF := within_iff.1 hfirst
  have htrail := within_trail_iff.1 hsecond
  obtain ⟨v, hv⟩ : ∃ v, v = (first.toNat - 0xC0) * 0x40 + (second.toNat - 0x80) := ⟨_, rfl⟩
  obtain ⟨c, hc⟩ := exists_char_of_value (v := v) (Or.inl (by omega))
  refine ⟨c, ?_⟩
  rw [String.utf8EncodeChar]
  simp only [hc]
  rw [if_neg (by omega), if_pos (by omega)]
  congr
  · exact ofNat_eq_of_toNat_eq (by omega)
  · exact ofNat_eq_of_toNat_eq (by omega)

/-- Three bytes are not for what two can say, nor for surrogates. -/
theorem exists_char_three {lead next : UInt8 × UInt8}
    (hlead : 0xE0 ≤ lead.1.toNat ∧ lead.2.toNat ≤ 0xEF)
    (hnext : 0x80 ≤ next.1.toNat ∧ next.2.toNat ≤ 0xBF)
    (hlong : 0xE0 < lead.1.toNat ∨ 0xA0 ≤ next.1.toNat)
    (hscalar : lead.2.toNat < 0xED ∨ 0xED < lead.1.toNat ∨ next.2.toNat ≤ 0x9F)
    {bytes : List UInt8} (hbytes : Fits [lead, next, trail] bytes) :
    ∃ c : Char, String.utf8EncodeChar c = bytes := by
  obtain _ | ⟨hfirst, _ | ⟨hsecond, _ | ⟨hthird, _ | _⟩⟩⟩ := hbytes
  rename_i first second third
  rw [within_iff] at hfirst hsecond
  rw [within_trail_iff] at hthird
  obtain ⟨v, hv⟩ : ∃ v, v = (first.toNat - 0xE0) * 0x1000 + (second.toNat - 0x80) * 0x40 +
    (third.toNat - 0x80) := ⟨_, rfl⟩
  have hvalid : v < 0xD800 ∨ 0xDFFF < v ∧ v < 0x110000 := by omega
  obtain ⟨c, hc⟩ := exists_char_of_value hvalid
  refine ⟨c, ?_⟩
  rw [String.utf8EncodeChar]
  simp only [hc]
  rw [if_neg (by omega), if_neg (by omega), if_pos (by omega)]
  congr
  · exact ofNat_eq_of_toNat_eq (by omega)
  · exact ofNat_eq_of_toNat_eq (by omega)
  · exact ofNat_eq_of_toNat_eq (by omega)

/-- Four bytes are not for what three can say, nor for numbers past the last character. -/
theorem exists_char_four {lead next : UInt8 × UInt8}
    (hlead : 0xF0 ≤ lead.1.toNat ∧ lead.2.toNat ≤ 0xF4)
    (hnext : 0x80 ≤ next.1.toNat ∧ next.2.toNat ≤ 0xBF)
    (hlong : 0xF0 < lead.1.toNat ∨ 0x90 ≤ next.1.toNat)
    (hscalar : lead.2.toNat < 0xF4 ∨ next.2.toNat ≤ 0x8F)
    {bytes : List UInt8} (hbytes : Fits [lead, next, trail, trail] bytes) :
    ∃ c : Char, String.utf8EncodeChar c = bytes := by
  obtain _ | ⟨hfirst, _ | ⟨hsecond, _ | ⟨hthird, _ | ⟨hfourth, _ | _⟩⟩⟩⟩ := hbytes
  rename_i first second third fourth
  rw [within_iff] at hfirst hsecond
  rw [within_trail_iff] at hthird hfourth
  obtain ⟨v, hv⟩ : ∃ v, v = (first.toNat - 0xF0) * 0x40000 + (second.toNat - 0x80) * 0x1000 +
    (third.toNat - 0x80) * 0x40 + (fourth.toNat - 0x80) := ⟨_, rfl⟩
  have hvalid : v < 0xD800 ∨ 0xDFFF < v ∧ v < 0x110000 := by omega
  obtain ⟨c, hc⟩ := exists_char_of_value hvalid
  refine ⟨c, ?_⟩
  rw [String.utf8EncodeChar]
  simp only [hc]
  rw [if_neg (by omega), if_neg (by omega), if_neg (by omega)]
  congr
  · exact ofNat_eq_of_toNat_eq (by omega)
  · exact ofNat_eq_of_toNat_eq (by omega)
  · exact ofNat_eq_of_toNat_eq (by omega)
  · exact ofNat_eq_of_toNat_eq (by omega)

/-- Bytes of a form are those of a character. -/
theorem exists_char {form : List (UInt8 × UInt8)} (hform : form ∈ byteForms)
    {bytes : List UInt8} (hbytes : Fits form bytes) :
    ∃ c : Char, String.utf8EncodeChar c = bytes := by
  simp only [byteForms, List.mem_cons, List.not_mem_nil, or_false] at hform
  rcases hform with rfl | rfl | rfl | rfl | rfl | rfl | rfl | rfl | rfl
  · exact exists_char_one hbytes
  · exact exists_char_two hbytes
  · exact exists_char_three (by decide) (by decide) (by decide) (by decide) hbytes
  · exact exists_char_three (by decide) (by decide) (by decide) (by decide) hbytes
  · exact exists_char_three (by decide) (by decide) (by decide) (by decide) hbytes
  · exact exists_char_three (by decide) (by decide) (by decide) (by decide) hbytes
  · exact exists_char_four (by decide) (by decide) (by decide) (by decide) hbytes
  · exact exists_char_four (by decide) (by decide) (by decide) (by decide) hbytes
  · exact exists_char_four (by decide) (by decide) (by decide) (by decide) hbytes

theorem wellFormed_flatMap (t : Text) : WellFormed (t.flatMap String.utf8EncodeChar) := by
  induction t with
  | nil => exact .nil
  | cons c t ih =>
    obtain ⟨form, hform, hbytes⟩ := exists_form c
    exact .append hform hbytes ih

theorem WellFormed.exists_text {bytes : List UInt8} (hbytes : WellFormed bytes) :
    ∃ t : Text, t.flatMap String.utf8EncodeChar = bytes := by
  induction hbytes with
  | nil => exact ⟨[], rfl⟩
  | append hform hfirst _ ih =>
    obtain ⟨c, hc⟩ := exists_char hform hfirst
    obtain ⟨t, ht⟩ := ih
    exact ⟨c :: t, by rw [List.flatMap_cons, hc, ht]⟩

theorem toBytes_injective {t u : Text} (heq : t.toBytes = u.toBytes) : t = u := by
  have hread := ofBytes?_toBytes t
  rw [heq, ofBytes?_toBytes] at hread
  exact (Option.some.inj hread).symm

theorem toBytes_eq_iff {t : Text} {bytes : ByteArray} :
    t.toBytes = bytes ↔ t.flatMap String.utf8EncodeChar = bytes.data.toList := by
  rw [toBytes, String.toByteArray_ofList, List.utf8Encode, ByteArray.ext_iff,
    List.data_toByteArray, ← Array.toList_inj]

/-- The bytes of a character tell where they end. -/
theorem utf8EncodeChar_append_inj {c d : Char} {rest others : List UInt8}
    (hbytes : String.utf8EncodeChar c ++ rest = String.utf8EncodeChar d ++ others) :
    c = d ∧ rest = others := by
  have hdecode (e : Char) (more : List UInt8) :
      (String.utf8EncodeChar e ++ more).toByteArray.utf8DecodeChar? 0 = some e := by
    rw [List.toByteArray_append]
    exact ByteArray.utf8DecodeChar?_utf8EncodeChar_append
  obtain rfl : c = d := Option.some.inj (by rw [← hdecode c rest, hbytes, hdecode d others])
  exact ⟨rfl, List.append_cancel_left hbytes⟩

/-- What follows the bytes of one text within those of another is the bytes of a text, too. -/
theorem exists_text_of_append {t u : Text} {rest : List UInt8}
    (hbytes : t.flatMap String.utf8EncodeChar ++ rest = u.flatMap String.utf8EncodeChar) :
    ∃ v : Text, v.flatMap String.utf8EncodeChar = rest := by
  induction t generalizing u with
  | nil => exact ⟨u, hbytes.symm⟩
  | cons c t ih =>
    rw [List.flatMap_cons, List.append_assoc] at hbytes
    cases u with
    | nil => exact absurd (List.append_eq_nil_iff.1 hbytes).1 String.utf8EncodeChar_ne_nil
    | cons d u =>
      rw [List.flatMap_cons] at hbytes
      exact ih (utf8EncodeChar_append_inj hbytes).2

theorem exists_toBytes_of_append {t u : Text} {rest : ByteArray}
    (hbytes : u.toBytes = t.toBytes ++ rest) : ∃ v : Text, v.toBytes = rest := by
  have htext : t.toBytes.data.toList = t.flatMap String.utf8EncodeChar :=
    (toBytes_eq_iff.1 rfl).symm
  rw [toBytes_eq_iff, ByteArray.data_append, Array.toList_append, htext] at hbytes
  obtain ⟨v, hv⟩ := exists_text_of_append hbytes.symm
  exact ⟨v, toBytes_eq_iff.2 hv⟩

/-- Bytes are those of some text exactly if they are well formed. -/
theorem exists_toBytes_iff {bytes : ByteArray} :
    (∃ t : Text, t.toBytes = bytes) ↔ WellFormed bytes.data.toList := by
  simp only [toBytes_eq_iff]
  constructor
  · rintro ⟨t, ht⟩
    exact ht ▸ wellFormed_flatMap t
  · exact WellFormed.exists_text

end Text

end Commonplace
