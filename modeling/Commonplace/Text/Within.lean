/-
Contiguous containment of one text in another.
-/
import Commonplace.Text

namespace Commonplace

namespace Text

/-- Whether the part looked for stands, in one piece, somewhere in the text. -/
def contains : Text → Text → Bool
  | [], part => part.isEmpty
  | c :: rest, part => part.isPrefixOf (c :: rest) || contains rest part

/-- A text contains a part when it is something before the part, the part, and
something after it. -/
theorem contains_iff (t part : Text) :
    t.contains part = true ↔ ∃ before after, t = before ++ part ++ after := by
  induction t with
  | nil => cases part <;> simp [contains]
  | cons c rest ih =>
    rw [contains, Bool.or_eq_true, List.isPrefixOf_iff_prefix, ih]
    constructor
    · rintro (⟨after, hafter⟩ | ⟨before, after, hrest⟩)
      · exact ⟨[], after, by simp [hafter]⟩
      · exact ⟨c :: before, after, by simp [hrest]⟩
    · rintro ⟨before, after, hwhole⟩
      cases before with
      | nil => exact Or.inl ⟨after, by simpa using hwhole.symm⟩
      | cons d before =>
        obtain ⟨rfl, hrest⟩ := List.cons.inj (by simpa using hwhole)
        exact Or.inr ⟨before, after, by simpa using hrest⟩

theorem contains_iff_infix {t part : Text} : t.contains part = true ↔ part <:+: t := by
  rw [contains_iff]
  constructor
  · rintro ⟨before, after, ht⟩
    exact ⟨before, after, ht.symm⟩
  · rintro ⟨before, after, ht⟩
    exact ⟨before, after, ht.symm⟩

end Text

end Commonplace
