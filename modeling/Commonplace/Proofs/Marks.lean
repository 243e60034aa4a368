/-
Cuts, pieces and lines as properties of the result: where the mark stood, and
which texts joined by the mark give the whole again.
-/
import Mathlib.Data.List.Basic
import Mathlib.Data.List.TakeWhile
import Commonplace.Text.Cut

namespace Commonplace

namespace Text

/-- Texts one after the other with a mark between them. -/
def join (mark : Char) (parts : List Text) : Text := [mark].intercalate parts

theorem cut?_eq_none_iff {isMark : Char → Bool} {t : Text} :
    cut? isMark t = none ↔ ∀ c ∈ t, isMark c = false := by
  rw [cut?]
  cases hrest : t.dropWhile (fun c => !isMark c) with
  | nil =>
    have hall := List.dropWhile_eq_nil_iff.1 hrest
    simpa using hall
  | cons mark after =>
    have hmem : ¬ ∀ c ∈ t, isMark c = false := by
      intro hall
      have hnil : t.dropWhile (fun c => !isMark c) = [] :=
        List.dropWhile_eq_nil_iff.2 fun c hc => by simp [hall c hc]
      simp [hnil] at hrest
    simpa using hmem

/-- A cut is made at the first mark. -/
theorem cut?_eq_some_iff {isMark : Char → Bool} {t before after : Text} :
    cut? isMark t = some (before, after) ↔
      (∀ c ∈ before, isMark c = false) ∧
        ∃ mark, isMark mark = true ∧ t = before ++ mark :: after := by
  constructor
  · intro hcut
    rw [cut?] at hcut
    cases hrest : t.dropWhile (fun c => !isMark c) with
    | nil => simp [hrest] at hcut
    | cons mark rest =>
      have hmark := List.head?_dropWhile_not (fun c => !isMark c) t
      simp only [hrest, Option.some.injEq, Prod.mk.injEq] at hcut
      obtain ⟨rfl, rfl⟩ := hcut
      refine ⟨?_, mark, by simpa [hrest] using hmark, ?_⟩
      · intro c hc
        simpa using List.mem_takeWhile_imp hc
      · rw [← hrest, List.takeWhile_append_dropWhile]
  · rintro ⟨hbefore, mark, hmark, rfl⟩
    have hpass : ∀ c ∈ before, (!isMark c) = true := fun c hc => by simp [hbefore c hc]
    rw [cut?, List.dropWhile_append_of_pos hpass, List.takeWhile_append_of_pos hpass]
    simp [hmark]

theorem cut?_first {mark : Char} {before : Text} (hbefore : mark ∉ before) (after : Text) :
    cut? (· = mark) (before ++ mark :: after) = some (before, after) := by
  refine cut?_eq_some_iff.2 ⟨?_, mark, by simp, rfl⟩
  intro c hc
  exact decide_eq_false fun heq => hbefore (heq ▸ hc)

/-- The first mark separates the same parts, however the text was put together. -/
theorem append_mark_inj {mark : Char} {left right after behind : Text} (hleft : mark ∉ left)
    (hright : mark ∉ right) (heq : left ++ mark :: after = right ++ mark :: behind) :
    left = right ∧ after = behind := by
  have hcut : some (left, after) = some (right, behind) := by
    rw [← cut?_first hleft after, heq, cut?_first hright behind]
  exact Prod.mk.inj (Option.some.inj hcut)

theorem cut?_of_mem {mark : Char} {t : Text} (hmem : mark ∈ t) :
    ∃ before after, mark ∉ before ∧ t = before ++ mark :: after ∧
      cut? (· = mark) t = some (before, after) := by
  obtain ⟨before, after, ht, hbefore⟩ := List.eq_append_cons_of_mem hmem
  exact ⟨before, after, hbefore, ht, ht ▸ cut?_first hbefore after⟩

theorem cut?_of_not_mem {mark : Char} {t : Text} (hmem : mark ∉ t) :
    cut? (· = mark) t = none := by
  refine cut?_eq_none_iff.2 fun c hc => ?_
  exact decide_eq_false fun heq => hmem (heq ▸ hc)

theorem of_cut?_eq_some {mark : Char} {t before after : Text}
    (hcut : cut? (· = mark) t = some (before, after)) :
    mark ∉ before ∧ t = before ++ mark :: after := by
  obtain ⟨hbefore, found, hfound, ht⟩ := cut?_eq_some_iff.1 hcut
  refine ⟨fun hmem => ?_, (of_decide_eq_true hfound) ▸ ht⟩
  simpa using hbefore mark hmem

/-- The pieces are those of the library's own splitting. -/
theorem pieces_eq_splitOn (mark : Char) (t : Text) : pieces mark t = t.splitOn mark := by
  induction t with
  | nil => simp
  | cons c t ih =>
    rw [pieces_cons, List.splitOn_cons_eq_if_modifyHead, ih]
    cases hpieces : t.splitOn mark with
    | nil => exact absurd hpieces (List.splitOn_ne_nil mark t)
    | cons first others => by_cases hc : c = mark <;> simp [hc]

theorem join_pieces (mark : Char) (t : Text) : join mark (pieces mark t) = t := by
  rw [join, pieces_eq_splitOn, List.intercalate_splitOn]

theorem pieces_join {mark : Char} {parts : List Text} (hplain : ∀ part ∈ parts, mark ∉ part)
    (hne : parts ≠ []) : pieces mark (join mark parts) = parts := by
  rw [join, pieces_eq_splitOn, List.splitOn_intercalate mark hplain hne]

theorem pieces_of_not_mem {mark : Char} {t : Text} (hmem : mark ∉ t) : pieces mark t = [t] := by
  rw [pieces_eq_splitOn, List.splitOn_eq_singleton hmem]

/-- What is put behind a text without a mark belongs to its last piece. -/
theorem exists_pieces_append {mark : Char} {after : Text} (hafter : mark ∉ after) (t : Text) :
    ∃ first last, pieces mark t = first ++ [last] ∧
      pieces mark (t ++ after) = first ++ [last ++ after] := by
  induction t with
  | nil => exact ⟨[], [], by simp, by simpa using pieces_of_not_mem hafter⟩
  | cons c t ih =>
    obtain ⟨first, last, ht, hwhole⟩ := ih
    rw [List.cons_append, pieces_cons, pieces_cons, ht, hwhole]
    by_cases hc : c = mark
    · exact ⟨[] :: first, last, by simp [hc], by simp [hc]⟩
    · cases first with
      | nil => exact ⟨[], c :: last, by simp [hc], by simp [hc]⟩
      | cons piece first => exact ⟨(c :: piece) :: first, last, by simp [hc], by simp [hc]⟩

theorem subset_join (mark : Char) {parts : List Text} {part : Text} (hpart : part ∈ parts) :
    part ⊆ join mark parts := by
  induction parts with
  | nil => simp at hpart
  | cons first parts ih =>
    intro c hc
    cases parts with
    | nil => simpa [join, ← List.mem_singleton.1 hpart] using hc
    | cons second parts =>
      rw [join, List.intercalate_cons_cons]
      rcases List.mem_cons.1 hpart with rfl | hpart
      · simp [hc]
      · have hrest := ih hpart hc
        rw [join] at hrest
        simp [hrest]

theorem subset_of_mem_pieces {mark : Char} {t piece : Text} (hpiece : piece ∈ pieces mark t) :
    piece ⊆ t := by
  have hsubset := subset_join mark hpiece
  rwa [join_pieces] at hsubset

theorem dropReturn_subset (t : Text) : dropReturn t ⊆ t := by
  rw [dropReturn]
  split
  · exact List.dropLast_subset t
  · exact List.Subset.refl t

/-- No line holds a line feed. -/
theorem not_mem_of_mem_lines {t line : Text} (hline : line ∈ lines t) : '\n' ∉ line := by
  have hpieces := not_mem_of_mem_pieces '\n' t
  rw [lines] at hline
  rcases List.mem_append.1 hline with hline | hline
  · obtain ⟨piece, hpiece, rfl⟩ := List.mem_map.1 hline
    intro hmem
    exact hpieces piece (List.dropLast_subset _ hpiece) (dropReturn_subset piece hmem)
  · split at hline
    · simp at hline
    · rw [List.mem_singleton.1 hline, List.getLastD_eq_getLast?,
        List.getLast?_eq_some_getLast (pieces_ne_nil '\n' t)]
      exact hpieces _ (List.getLast_mem _)

/-- Lines that could be taken for nothing else are found again in their joined
text. -/
theorem lines_join {parts : List Text} (hfeed : ∀ part ∈ parts, '\n' ∉ part)
    (hreturn : ∀ part ∈ parts, part.getLast? ≠ some '\r') (hne : ∀ part ∈ parts, part ≠ []) :
    lines (join '\n' parts) = parts := by
  rcases List.eq_nil_or_concat' parts with rfl | ⟨first, last, rfl⟩
  · rfl
  · have hkeep : first.map dropReturn = first := by
      have hid : first.map dropReturn = first.map id := by
        refine List.map_congr_left fun part hpart => ?_
        exact if_neg (hreturn part (by simp [hpart]))
      rw [hid, List.map_id]
    have hlast : last ≠ [] := hne last (by simp)
    rw [lines, pieces_join hfeed (by simp)]
    simp [hkeep, hlast]

end Text

end Commonplace
