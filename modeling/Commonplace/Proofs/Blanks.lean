/-
Stripping as a property of the result: what is left is tight, and only blanks
went, on the left and on the right.  Then the texts that lose a pair of quotation
marks, and those that do not.
-/
import Mathlib.Data.List.DropRight
import Commonplace.Text

namespace Commonplace

namespace Text

/-- A text of blanks only, perhaps of none. -/
def Blank (t : Text) : Prop := ∀ c ∈ t, isBlank c = true

/-- A text without a blank at either end. -/
structure Tight (t : Text) : Prop where
  head : ∀ c ∈ t.head?, isBlank c = false
  last : ∀ c ∈ t.getLast?, isBlank c = false

theorem blank_iff_all {t : Text} : Blank t ↔ t.all isBlank = true :=
  List.all_eq_true.symm

theorem tight_iff_all {t : Text} :
    Tight t ↔ t.head?.all (!isBlank ·) = true ∧ t.getLast?.all (!isBlank ·) = true := by
  simp only [Option.all_eq_true, Bool.not_eq_true', ← Option.mem_def]
  exact ⟨fun h => ⟨h.head, h.last⟩, fun h => ⟨h.1, h.2⟩⟩

instance (t : Text) : Decidable (Blank t) :=
  decidable_of_iff (t.all isBlank = true) blank_iff_all.symm

instance (t : Text) : Decidable (Tight t) :=
  decidable_of_iff (t.head?.all (!isBlank ·) = true ∧ t.getLast?.all (!isBlank ·) = true)
    tight_iff_all.symm

@[simp]
theorem blank_nil : Blank [] := by
  simp [Blank]

theorem blank_space : Blank [' '] := by decide

theorem Blank.append {left right : Text} (hleft : Blank left) (hright : Blank right) :
    Blank (left ++ right) := by
  intro c hc
  rcases List.mem_append.1 hc with hc | hc
  · exact hleft c hc
  · exact hright c hc

/-- A character that is no blank stands in no run of blanks. -/
theorem Blank.not_mem {t : Text} {c : Char} (ht : Blank t) (hc : isBlank c = false) :
    c ∉ t := by
  intro hmem
  simp [ht c hmem] at hc

/-- A word of letters only. -/
def Lettered (t : Text) : Prop := ∀ c ∈ t, c.isAlpha = true

instance (t : Text) : Decidable (Lettered t) :=
  decidable_of_iff (t.all Char.isAlpha = true) List.all_eq_true

theorem isBlank_of_isAlpha {c : Char} (hc : c.isAlpha = true) : isBlank c = false := by
  have hbounds : (65 ≤ c.toNat ∧ c.toNat ≤ 90) ∨ (97 ≤ c.toNat ∧ c.toNat ≤ 122) := by
    rcases Bool.or_eq_true_iff.1 hc with hupper | hlower
    · exact Or.inl (of_decide_eq_true hupper)
    · obtain ⟨hfirst, hlast⟩ := Bool.and_eq_true_iff.1 hlower
      exact Or.inr ⟨of_decide_eq_true hfirst, of_decide_eq_true hlast⟩
  simp only [isBlank, blankRuns, List.any_cons, List.any_nil, Bool.or_eq_false_iff,
    Bool.and_eq_false_iff, decide_eq_false_iff_not, and_true]
  omega

/-- No mark stands in a word of letters. -/
theorem Lettered.not_mem {t : Text} {c : Char} (ht : Lettered t) (hc : c.isAlpha = false) :
    c ∉ t := by
  intro hmem
  simp [ht c hmem] at hc

theorem Lettered.tight {t : Text} (ht : Lettered t) : Tight t where
  head c hc := isBlank_of_isAlpha (ht c (List.mem_of_mem_head? hc))
  last c hc := isBlank_of_isAlpha (ht c (List.mem_of_getLast? hc))

theorem strip_eq (t : Text) :
    strip t = (t.dropWhile isBlank).rdropWhile isBlank := rfl

theorem dropWhile_head (t : Text) :
    ∀ c ∈ (t.dropWhile isBlank).head?, isBlank c = false := by
  intro c hc
  have hnot := List.head?_dropWhile_not isBlank t
  rw [Option.mem_def.1 hc] at hnot
  simpa using hnot

theorem rdropWhile_last (t : Text) :
    ∀ c ∈ (t.rdropWhile isBlank).getLast?, isBlank c = false := by
  intro c hc
  have hne : t.rdropWhile isBlank ≠ [] := by
    rintro hnil
    simp [hnil] at hc
  have hlast := List.rdropWhile_last_not isBlank t hne
  rw [List.getLast?_eq_some_getLast hne, Option.mem_some_iff] at hc
  simpa [hc] using hlast

theorem head?_append_of_mem {t : Text} {c : Char} (hc : c ∈ t.head?) (rest : Text) :
    c ∈ (t ++ rest).head? := by
  rw [List.head?_append, Option.mem_def.1 hc]
  rfl

theorem strip_tight (t : Text) : Tight (strip t) := by
  rw [strip_eq]
  refine ⟨?_, rdropWhile_last _⟩
  intro c hc
  apply dropWhile_head t
  rw [← List.rdropWhile_append_rtakeWhile (l := t.dropWhile isBlank) (p := isBlank)]
  exact head?_append_of_mem hc _

/-- Only blanks are stripped. -/
theorem exists_padding (t : Text) :
    ∃ before after, Blank before ∧ Blank after ∧ t = before ++ strip t ++ after := by
  refine ⟨t.takeWhile isBlank, (t.dropWhile isBlank).rtakeWhile isBlank, ?_, ?_, ?_⟩
  · intro c hc
    exact List.mem_takeWhile_imp hc
  · intro c hc
    exact List.mem_rtakeWhile_imp hc
  · rw [strip_eq, List.append_assoc, List.rdropWhile_append_rtakeWhile,
      List.takeWhile_append_dropWhile]

theorem dropWhile_tight_append {t after : Text} (ht : Tight t) (hne : t ≠ []) :
    (t ++ after).dropWhile isBlank = t ++ after := by
  cases t with
  | nil => exact absurd rfl hne
  | cons c t =>
    have hc : isBlank c = false := ht.head c (by simp)
    rw [List.cons_append, List.dropWhile_cons_of_neg (by simp [hc])]

theorem rdropWhile_append_blank {t after : Text} (hafter : Blank after) :
    (t ++ after).rdropWhile isBlank = t.rdropWhile isBlank := by
  induction after using List.reverseRecOn with
  | nil => simp
  | append_singleton after c ih =>
    have hc : isBlank c = true := hafter c (by simp)
    rw [← List.append_assoc, List.rdropWhile_concat_pos _ _ _ hc]
    exact ih fun d hd => hafter d (by simp [hd])

theorem rdropWhile_tight {t : Text} (ht : Tight t) : t.rdropWhile isBlank = t := by
  rw [List.rdropWhile_eq_self_iff]
  intro hne
  have hlast := ht.last (t.getLast hne) (by simp [List.getLast?_eq_some_getLast hne])
  simp [hlast]

/-- A tight text comes back from between two runs of blanks. -/
theorem strip_padded {before t after : Text} (hbefore : Blank before) (ht : Tight t)
    (hafter : Blank after) : strip (before ++ t ++ after) = t := by
  rw [strip_eq, List.append_assoc, List.dropWhile_append_of_pos hbefore]
  by_cases hne : t = []
  · subst hne
    have hnil : after.dropWhile isBlank = [] := List.dropWhile_eq_nil_iff.2 hafter
    simp [hnil]
  · rw [dropWhile_tight_append ht hne, rdropWhile_append_blank hafter, rdropWhile_tight ht]

theorem strip_of_tight {t : Text} (ht : Tight t) : strip t = t := by
  simpa using strip_padded blank_nil ht blank_nil

theorem strip_eq_self_iff {t : Text} : strip t = t ↔ Tight t := by
  constructor
  · intro heq
    exact heq ▸ strip_tight t
  · exact strip_of_tight

/-- Blanks around a text do not count. -/
theorem strip_surrounded {before after : Text} (hbefore : Blank before) (hafter : Blank after)
    (t : Text) : strip (before ++ t ++ after) = strip t := by
  obtain ⟨left, right, hleft, hright, ht⟩ := exists_padding t
  have hwhole : before ++ t ++ after = (before ++ left) ++ strip t ++ (right ++ after) := by
    conv_lhs => rw [ht]
    simp
  rw [hwhole, strip_padded (hbefore.append hleft) (strip_tight t) (hright.append hafter)]

theorem strip_dropWhile (t : Text) : strip (t.dropWhile isBlank) = strip t := by
  rw [strip_eq, List.dropWhile_idempotent, strip_eq]

theorem strip_rdropWhile (t : Text) : strip (t.rdropWhile isBlank) = strip t := by
  have hend : Blank (t.rtakeWhile isBlank) := fun c hc => List.mem_rtakeWhile_imp hc
  have hstrip := strip_surrounded blank_nil hend (t.rdropWhile isBlank)
  rw [List.nil_append, List.rdropWhile_append_rtakeWhile] at hstrip
  exact hstrip.symm

theorem tight_append_cons {left right : Text} {c : Char}
    (hleft : ∀ d ∈ left.head?, isBlank d = false) (hc : isBlank c = false)
    (hright : ∀ d ∈ right.getLast?, isBlank d = false) : Tight (left ++ c :: right) := by
  constructor
  · intro d hd
    cases left with
    | nil =>
      have heq : c = d := by simpa using hd
      exact heq ▸ hc
    | cons e left => exact hleft d (by simpa using hd)
  · intro d hd
    rw [List.getLast?_append, List.getLast?_cons] at hd
    cases hlast : right.getLast? with
    | none =>
      have heq : c = d := by simpa [hlast] using hd
      exact heq ▸ hc
    | some e => exact hright d (by simpa [hlast] using hd)

/-- Stripping keeps every character that is no blank where it is, and works on
the two sides of it apart. -/
theorem strip_append_cons {left right : Text} {c : Char} (hc : isBlank c = false) :
    strip (left ++ c :: right) = left.dropWhile isBlank ++ c :: right.rdropWhile isBlank := by
  have htight : Tight (left.dropWhile isBlank ++ c :: right.rdropWhile isBlank) :=
    tight_append_cons (dropWhile_head left) hc (rdropWhile_last right)
  have hsplit : left ++ c :: right =
      left.takeWhile isBlank ++ (left.dropWhile isBlank ++ c :: right.rdropWhile isBlank) ++
        right.rtakeWhile isBlank := by
    rw [List.append_assoc, List.append_assoc, List.cons_append,
      List.rdropWhile_append_rtakeWhile, ← List.append_assoc, List.takeWhile_append_dropWhile]
  rw [hsplit]
  exact strip_padded (fun d hd => List.mem_takeWhile_imp hd) htight
    fun d hd => List.mem_rtakeWhile_imp hd

/-- Stripping takes characters away and adds none. -/
theorem strip_sublist (t : Text) : (strip t).Sublist t := by
  obtain ⟨before, after, -, -, ht⟩ := exists_padding t
  have hinfix : strip t <:+: t := ⟨before, after, ht.symm⟩
  exact hinfix.sublist

theorem strip_subset (t : Text) : strip t ⊆ t := (strip_sublist t).subset

/-- A text that starts with one quotation mark and ends with another. -/
structure Marked (t : Text) : Prop where
  two : 2 ≤ t.length
  head : t.head? = some '"'
  last : t.getLast? = some '"'

instance (t : Text) : Decidable (Marked t) :=
  decidable_of_iff (2 ≤ t.length ∧ t.head? = some '"' ∧ t.getLast? = some '"')
    ⟨fun h => ⟨h.1, h.2.1, h.2.2⟩, fun h => ⟨h.two, h.head, h.last⟩⟩

@[simp]
theorem quoted_head? (t : Text) : (quoted t).head? = some '"' := rfl

@[simp]
theorem quoted_getLast? (t : Text) : (quoted t).getLast? = some '"' := by
  rw [quoted, ← List.cons_append, List.getLast?_concat]

theorem quoted_tight (t : Text) : Tight (quoted t) := by
  have hmark : isBlank '"' = false := by decide
  constructor <;> simpa using hmark

/-- A text without the pair of marks is taken as it is. -/
theorem unquote_of_not_marked {t : Text} (ht : ¬ Marked t) : unquote t = t := by
  cases t with
  | nil => rfl
  | cons c rest =>
    by_cases hc : c = '"'
    · subst hc
      have hlast : rest.getLast? ≠ some '"' := by
        intro hlast
        have hne : rest ≠ [] := by
          rintro rfl
          simp at hlast
        have htwo : 1 ≤ rest.length := List.length_pos_iff.2 hne
        exact ht ⟨by simpa using htwo, rfl, by rwa [List.getLast?_cons_of_ne_nil hne]⟩
      simp [unquote, hlast]
    · rw [unquote]
      intro _ heq
      exact hc (List.cons.inj heq).1

theorem unquote_subset (t : Text) : unquote t ⊆ t := by
  by_cases ht : Marked t
  · cases t with
    | nil => exact List.Subset.refl []
    | cons c rest =>
      intro d hd
      have hc : c = '"' := by simpa using ht.head
      subst hc
      rw [unquote] at hd
      split at hd
      · exact List.mem_cons_of_mem _ (List.dropLast_subset rest hd)
      · exact hd
  · rw [unquote_of_not_marked ht]
    exact List.Subset.refl t

end Text

end Commonplace
