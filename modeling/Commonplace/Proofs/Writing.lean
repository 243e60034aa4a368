/-
What is read where a file was written.  Writing leaves every directory in its place,
so the path leads to the same location as before.
-/
import Commonplace.FileTree
import Commonplace.Proofs.Marks

namespace Commonplace

theorem except_bind_eq_ok {ε α β : Type} {first : Except ε α} {next : α → Except ε β} {value : β}
    (hbind : first >>= next = .ok value) : ∃ found, first = .ok found ∧ next found = .ok value := by
  cases first with
  | error fault => contradiction
  | ok found => exact ⟨found, rfl, hbind⟩

namespace FileTree

theorem lookup_filter_ne {location other : Location} (hother : other ≠ location)
    (nodes : List (Location × Node)) :
    (nodes.filter fun entry => entry.1 ≠ location).lookup other = nodes.lookup other := by
  induction nodes with
  | nil => rfl
  | cons entry nodes ih =>
    obtain ⟨here, node⟩ := entry
    by_cases hhere : here = location
    · subst hhere
      have hmiss : (other == here) = false := beq_false_of_ne hother
      rw [List.filter_cons_of_neg (by simp), ih, List.lookup_cons, hmiss]
    · rw [List.filter_cons_of_pos (by simpa using hhere), List.lookup_cons, List.lookup_cons, ih]

theorem node?_put_self {location : Location} (hlocation : location ≠ []) (tree : FileTree)
    (node : Node) : (tree.put location node).node? location = some node := by
  simp [node?, put, hlocation]

theorem node?_put_other {location other : Location} (hother : other ≠ location)
    (tree : FileTree) (node : Node) :
    (tree.put location node).node? other = tree.node? other := by
  have hmiss : (other == location) = false := beq_false_of_ne hother
  rw [node?, node?, put, List.lookup_cons, hmiss, lookup_filter_ne hother]

/-- Names lead on from directories only. -/
theorem directory_of_step {tree : FileTree} {location next : Location} {name : Text}
    (hstep : tree.step location name = .ok next) : tree.node? location = some .directory := by
  revert hstep
  fun_cases step tree location name <;> first | (intro; assumption) | (intro hstep; contradiction)

/-- A node that is put where no directory is stands in nobody's way. -/
theorem step_put {tree : FileTree} {place location next : Location} {name : Text}
    (hplace : tree.node? place ≠ some .directory) (hstep : tree.step location name = .ok next)
    (node : Node) : (tree.put place node).step location name = .ok next := by
  have hdirectory := directory_of_step hstep
  have hother : location ≠ place := by
    rintro rfl
    exact hplace hdirectory
  rw [step, node?_put_other hother]
  exact hstep

theorem follow_put {tree : FileTree} {place location next : Location} {names : List Text}
    (hplace : tree.node? place ≠ some .directory)
    (hfollow : tree.follow location names = .ok next) (node : Node) :
    (tree.put place node).follow location names = .ok next := by
  induction names generalizing location with
  | nil => exact hfollow
  | cons name names ih =>
    rw [follow, List.foldlM_cons] at hfollow ⊢
    obtain ⟨one, hstep, hrest⟩ := except_bind_eq_ok hfollow
    rw [step_put hplace hstep]
    exact ih hrest

theorem follow_concat (tree : FileTree) (location : Location) (names : List Text) (name : Text) :
    tree.follow location (names ++ [name]) =
      tree.follow location names >>= fun next => tree.step next name := by
  rw [follow, List.foldlM_append]
  simp only [List.foldlM_cons, List.foldlM_nil, bind_pure]
  rfl

/-- The names of a path lead to the location of its new entry. -/
theorem follow_of_newLocation {tree : FileTree} {location next : Location} {names : List Text}
    {isTaken : FileFailure} (hnames : names ≠ [])
    (hnew : tree.newLocation location names isTaken = .ok next) :
    tree.follow location names = .ok next := by
  obtain ⟨parent, hparent, hnew⟩ := except_bind_eq_ok hnew
  obtain ⟨found, hstep, hnew⟩ := except_bind_eq_ok hnew
  have hsame : found = next := by
    split at hnew
    · contradiction
    · exact Except.ok.inj hnew
  have hlast : names.getLastD [] = names.getLast hnames := by
    rw [List.getLastD_eq_getLast?, List.getLast?_eq_some_getLast hnames, Option.getD_some]
  have hsplit : names = names.dropLast ++ [names.getLastD []] := by
    rw [hlast, List.dropLast_append_getLast hnames]
  rw [hsplit, follow_concat, hparent]
  exact hsame ▸ hstep

theorem start_names {tree : FileTree} {path : Text} {location : Location} {names : List Text}
    (hstart : tree.start path = .ok (location, names)) : names = path.pieces '/' := by
  revert hstart
  fun_cases start tree path with
  | case4 => exact fun hstart => (Prod.mk.inj (Except.ok.inj hstart)).2.symm
  | _ => intro hstart; contradiction

theorem read_of_follow {tree : FileTree} {path : Text} {location place : Location}
    {names : List Text} {bytes : ByteArray} (hstart : tree.start path = .ok (location, names))
    (hfollow : tree.follow location names = .ok place)
    (hnode : tree.node? place = some (.file bytes)) : tree.read path = .ok bytes := by
  have hfind : tree.find path = .ok (place, .file bytes) := by
    simp only [find, hstart, hfollow, hnode, bind, Except.bind, pure, Except.pure]
  simp only [read, hfind, bind, Except.bind, pure, Except.pure]

/-- What was written is read. -/
theorem read_of_write {tree after : FileTree} {path : Text} {bytes : ByteArray}
    (hwrite : tree.write path bytes = .ok after) : after.read path = .ok bytes := by
  obtain ⟨⟨location, names⟩, hstart, hwrite⟩ := except_bind_eq_ok hwrite
  obtain ⟨place, hnew, hwrite⟩ := except_bind_eq_ok hwrite
  have hnames : names ≠ [] := start_names hstart ▸ Text.pieces_ne_nil '/' path
  have hput : tree.node? place ≠ some .directory ∧ tree.put place (.file bytes) = after := by
    split at hwrite
    · contradiction
    · next hnode => exact ⟨hnode, Except.ok.inj hwrite⟩
  obtain ⟨hplace, rfl⟩ := hput
  have hne : place ≠ [] := by
    rintro rfl
    exact hplace rfl
  exact read_of_follow (show (tree.put place (.file bytes)).start path = _ from hstart)
    (follow_put hplace (follow_of_newLocation hnames hnew) _) (node?_put_self hne tree _)

end FileTree

end Commonplace
