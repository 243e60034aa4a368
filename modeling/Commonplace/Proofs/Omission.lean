/-
Leaving members of a list out by their places.  What is left out and what is not are
together the whole list, each in its order.
-/
import Mathlib.Data.List.Basic

namespace Commonplace

/-- The members of a list other than those at the places that are gone; the first place
is 0. -/
def without {α : Type} (gone : Nat → Bool) : List α → List α
  | [] => []
  | x :: rest =>
    if gone 0 then without (fun n => gone (n + 1)) rest
    else x :: without (fun n => gone (n + 1)) rest

section Omission

variable {α β : Type}

theorem without_cons_gone {gone : Nat → Bool} (hgone : gone 0 = true) (x : α) (rest : List α) :
    without gone (x :: rest) = without (fun n => gone (n + 1)) rest := by
  rw [without, if_pos hgone]

theorem without_cons_kept {gone : Nat → Bool} (hkept : gone 0 = false) (x : α) (rest : List α) :
    without gone (x :: rest) = x :: without (fun n => gone (n + 1)) rest := by
  rw [without, if_neg (by simp [hkept])]

/-- Nothing is left out where nothing is gone. -/
@[simp]
theorem without_false (xs : List α) : without (fun _ => false) xs = xs := by
  induction xs with
  | nil => rfl
  | cons x rest ih => rw [without_cons_kept rfl, ih]

theorem without_sublist (gone : Nat → Bool) (xs : List α) : (without gone xs).Sublist xs := by
  induction xs generalizing gone with
  | nil => exact List.Sublist.refl []
  | cons x rest ih =>
    cases hgone : gone 0 with
    | true =>
      rw [without_cons_gone hgone]
      exact (ih _).cons x
    | false =>
      rw [without_cons_kept hgone]
      exact (ih _).cons_cons x

theorem without_map (f : α → β) (gone : Nat → Bool) (xs : List α) :
    without gone (xs.map f) = (without gone xs).map f := by
  induction xs generalizing gone with
  | nil => rfl
  | cons x rest ih =>
    rw [List.map_cons]
    cases hgone : gone 0 with
    | true => rw [without_cons_gone hgone, without_cons_gone hgone, ih]
    | false => rw [without_cons_kept hgone, without_cons_kept hgone, ih, List.map_cons]

/-- The places of the second list come after those of the first. -/
theorem without_append (gone : Nat → Bool) (first second : List α) :
    without gone (first ++ second) =
      without gone first ++ without (fun n => gone (n + first.length)) second := by
  induction first generalizing gone with
  | nil => rfl
  | cons x first ih =>
    rw [List.cons_append, List.length_cons]
    cases hgone : gone 0 with
    | true =>
      rw [without_cons_gone hgone, without_cons_gone hgone, ih]
      rfl
    | false =>
      rw [without_cons_kept hgone, without_cons_kept hgone, ih]
      rfl

/-- The members that are left out and those that are not are all there are. -/
theorem perm_without (gone : Nat → Bool) (xs : List α) :
    (without gone xs ++ without (fun n => !gone n) xs).Perm xs := by
  induction xs generalizing gone with
  | nil => exact List.Perm.refl []
  | cons x rest ih =>
    cases hgone : gone 0 with
    | true =>
      rw [without_cons_gone hgone, without_cons_kept (by simp [hgone])]
      exact List.perm_middle.trans ((ih _).cons x)
    | false =>
      rw [without_cons_kept hgone, without_cons_gone (by simp [hgone])]
      exact (ih _).cons x

end Omission

end Commonplace
