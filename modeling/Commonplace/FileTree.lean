/-
A tree of files, how a path leads through it, and reading, writing and making
directories in it.  A path is relative to the current directory unless it starts
with a slash.
-/
import Commonplace.FileTree.Failure
import Commonplace.Text.Cut

namespace Commonplace

/-- A path in a directory: joined by a slash unless one ends the first part, and
the second part alone if it starts with one or if the first is empty. -/
def joinPath (directory name : Text) : Text :=
  if directory.isEmpty || name.head? = some '/' then name
  else if directory.getLast? = some '/' then directory ++ name
  else directory ++ ['/'] ++ name

namespace FileTree

inductive Node
  | file (bytes : ByteArray)
  | directory

/-- The names on the way from the root. -/
abbrev Location := List Text

end FileTree

/-- What stands where, other than the root, which is a directory, and the
location of the current directory. -/
structure FileTree where
  nodes : List (FileTree.Location × FileTree.Node)
  current : FileTree.Location

namespace FileTree

def node? (tree : FileTree) (location : Location) : Option Node :=
  if location.isEmpty then some .directory else tree.nodes.lookup location

def put (tree : FileTree) (location : Location) (node : Node) : FileTree :=
  ⟨(location, node) :: tree.nodes.filter (fun entry => entry.1 ≠ location), tree.current⟩

/-- A tree with nothing but the current directory and those on the way to it. -/
def empty (current : Location) : FileTree :=
  ⟨(List.range current.length).map fun n => (current.take (n + 1), .directory), current⟩

/-- The greatest number of bytes in a name and in a path. -/
def nameLimit : Nat := 255

def pathLimit : Nat := 4095

/-- The name leads from one location to the next; the first has to be a
directory. -/
def step (tree : FileTree) (location : Location) (name : Text) :
    Except FileFailure Location :=
  match tree.node? location with
  | some .directory =>
    if name.isEmpty || name = ['.'] then .ok location
    else if name = ['.', '.'] then .ok location.dropLast
    else if nameLimit < name.byteSize then .error .nameTooLong
    else .ok (location ++ [name])
  | some (.file _) => .error .notDirectory
  | none => .error .noEntry

/-- The location that names lead to, which need not be there. -/
def follow (tree : FileTree) (location : Location) (names : List Text) :
    Except FileFailure Location :=
  names.foldlM tree.step location

/-- Where a path starts, and its names. -/
def start (tree : FileTree) (path : Text) : Except FileFailure (Location × List Text) :=
  if path.any (· = '\x00') then .error .nulInName
  else if path.isEmpty then .error .noEntry
  else if pathLimit < path.byteSize then .error .nameTooLong
  else .ok (if path.head? = some '/' then [] else tree.current, path.pieces '/')

/-- The location and the node that a path leads to. -/
def find (tree : FileTree) (path : Text) : Except FileFailure (Location × Node) := do
  let (location, names) ← tree.start path
  let location ← tree.follow location names
  match tree.node? location with
  | some node => return (location, node)
  | none => throw .noEntry

def isDirectory (tree : FileTree) (path : Text) : Bool :=
  match tree.find path with
  | .ok (_, .directory) => true
  | _ => false

/-- The bytes of a file. -/
def read (tree : FileTree) (path : Text) : Reading := do
  match ← tree.find path with
  | (_, .file bytes) => return bytes
  | (_, .directory) => throw .isDirectory

/-- The location of a new entry: of a directory on the way there that is in the
tree, and a last name that is not a step in place or back. -/
def newLocation (tree : FileTree) (location : Location) (names : List Text)
    (isTaken : FileFailure) : Except FileFailure Location := do
  let parent ← tree.follow location names.dropLast
  let last := names.getLastD []
  let location ← tree.step parent last
  if last.isEmpty || last = ['.'] || last = ['.', '.'] then throw isTaken
  return location

/-- Writes a whole file, in place of an earlier one. -/
def write (tree : FileTree) (path : Text) (bytes : ByteArray) :
    Except FileFailure FileTree := do
  let (location, names) ← tree.start path
  let location ← tree.newLocation location names .isDirectory
  match tree.node? location with
  | some .directory => throw .isDirectory
  | _ => return tree.put location (.file bytes)

/-- Makes one directory. Slashes after its name do not count. -/
def makeDirectory (tree : FileTree) (path : Text) : Except FileFailure FileTree := do
  let (location, names) ← tree.start path
  let names := (names.reverse.dropWhile List.isEmpty).reverse
  let location ← tree.newLocation location names .alreadyThere
  if (tree.node? location).isSome then throw .alreadyThere
  return tree.put location .directory

/-- A reversed path without the slashes and the steps in place that come first in
it, other than the root or the step at the start of the path. -/
def bare : Text → Text
  | '/' :: c :: rest => bare (c :: rest)
  | '.' :: '/' :: rest => bare ('/' :: rest)
  | path => path

/-- The path before its last name, unless it leads to the root or is empty.  A step
in place is a name only at the start of a path. -/
def parentPath? (path : Text) : Option Text :=
  match bare path.reverse with
  | [] => none
  | ['/'] => none
  | last => some (bare (last.dropWhile (· ≠ '/'))).reverse

theorem bare_length (path : Text) : (bare path).length ≤ path.length := by
  fun_induction bare path with
  | case1 c rest ih => exact Nat.le_succ_of_le ih
  | case2 rest ih => exact Nat.le_succ_of_le ih
  | case3 => exact Nat.le_refl _

theorem bare_head {path rest : Text} (hbare : bare path = '/' :: rest) : rest = [] := by
  fun_induction bare path with
  | case1 c rest ih => exact ih hbare
  | case2 rest ih => exact ih hbare
  | case3 path hslash hstep =>
    cases rest with
    | nil => rfl
    | cons c rest => exact absurd hbare (hslash c rest)

theorem parentPath?_length {path parent : Text} (hparent : parentPath? path = some parent) :
    parent.length < path.length := by
  have hbare := bare_length path.reverse
  rw [List.length_reverse] at hbare
  unfold parentPath? at hparent
  split at hparent
  · simp at hparent
  · simp at hparent
  · next hempty hroot =>
    obtain rfl := Option.some.inj hparent
    rw [List.length_reverse]
    refine Nat.lt_of_le_of_lt (bare_length _) ?_
    cases hlast : bare path.reverse with
    | nil => exact absurd hlast hempty
    | cons c rest =>
      rw [hlast, List.length_cons] at hbare
      have hc : c ≠ '/' := by
        rintro rfl
        exact hroot (by rw [hlast, bare_head hlast])
      have hrest := Text.length_dropWhile_le (· ≠ '/') rest
      simp only [List.dropWhile_cons, ne_eq, hc, not_false_eq_true, decide_true, if_true]
      exact Nat.lt_of_le_of_lt hrest hbare

/-- Makes a directory and those on the way to it. Directories that are there
already are no failure. -/
def makeDirectories (tree : FileTree) (path : Text) : Except FileFailure FileTree :=
  let settle := fun (tree : FileTree) (failure : FileFailure) =>
    if tree.isDirectory path then .ok tree else .error failure
  match _hparent : parentPath? path with
  | none => .ok tree
  | some parent =>
    match tree.makeDirectory path with
    | .ok tree => .ok tree
    | .error .noEntry =>
      match tree.makeDirectories parent with
      | .error failure => .error failure
      | .ok tree =>
        match tree.makeDirectory path with
        | .ok tree => .ok tree
        | .error failure => settle tree failure
    | .error failure => settle tree failure
termination_by path.length
decreasing_by exact parentPath?_length _hparent

/-- The tree with a node at a path, and with the directories on the way there. -/
def place (tree : FileTree) (path : Text) : Node → Except FileFailure FileTree
  | .directory => tree.makeDirectories path
  | .file bytes => do (← tree.makeDirectories ((parentPath? path).getD [])).write path bytes

end FileTree

end Commonplace
