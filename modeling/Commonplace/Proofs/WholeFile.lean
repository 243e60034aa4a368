/-
Runs over files.  A file is run only if all of its bytes are those of a text.  A defect at
any place in it, also behind lines that could be run, stops the run before its first line,
and so does a path that leads to no file.
-/
import Commonplace.Outcome
import Commonplace.Proofs.Encoding
import Commonplace.Proofs.Writing

namespace Commonplace

theorem except_bind_eq_error {ε α β : Type} {first : Except ε α} {next : α → Except ε β}
    {fault : ε} : first >>= next = .error fault ↔
      first = .error fault ∨ ∃ found, first = .ok found ∧ next found = .error fault := by
  cases first with
  | error other => simp [bind, Except.bind]
  | ok found => simp [bind, Except.bind]

namespace FileTree

/-- The first names of a path lead to a place, and the names behind them are left. -/
def Reaches (tree : FileTree) (path : Text) (place : Location) (left : List Text) : Prop :=
  ∃ location front, tree.start path = .ok (location, front ++ left) ∧
    tree.follow location front = .ok place

/-- The path leads to a file with some bytes. -/
def Holds (tree : FileTree) (path : Text) (bytes : ByteArray) : Prop :=
  ∃ place, tree.Reaches path place [] ∧ tree.node? place = some (.file bytes)

/-- The path is empty or leads over a place where nothing is.  A path that leads on from a
file meets something, so it is not absent. -/
def Absent (tree : FileTree) (path : Text) : Prop :=
  path = [] ∨ ∃ place left, tree.Reaches path place left ∧ tree.node? place = none

theorem reaches_of_find {tree : FileTree} {path : Text} {place : Location} {node : Node}
    (hfind : tree.find path = .ok (place, node)) :
    tree.Reaches path place [] ∧ tree.node? place = some node := by
  obtain ⟨⟨location, names⟩, hstart, hfind⟩ := except_bind_eq_ok hfind
  obtain ⟨found, hfollow, hfind⟩ := except_bind_eq_ok hfind
  cases hnode : tree.node? found with
  | none => simp [hnode, throw, throwThe, MonadExceptOf.throw] at hfind
  | some there =>
    simp only [hnode, pure, Except.pure, Except.ok.injEq, Prod.mk.injEq] at hfind
    obtain ⟨rfl, rfl⟩ := hfind
    exact ⟨⟨location, names, by rwa [List.append_nil], hfollow⟩, hnode⟩

theorem read_eq_ok_iff {tree : FileTree} {path : Text} {bytes : ByteArray} :
    tree.read path = .ok bytes ↔ tree.Holds path bytes := by
  constructor
  · intro hread
    obtain ⟨⟨place, node⟩, hfind, hread⟩ := except_bind_eq_ok hread
    cases node with
    | directory => contradiction
    | file content =>
      obtain rfl := Except.ok.inj hread
      exact ⟨place, reaches_of_find hfind⟩
  · rintro ⟨place, ⟨location, front, hstart, hfollow⟩, hnode⟩
    rw [List.append_nil] at hstart
    exact read_of_follow hstart hfollow hnode

theorem start_eq_noEntry_iff {tree : FileTree} {path : Text} :
    tree.start path = .error .noEntry ↔ path = [] := by
  fun_cases start tree path with
  | case1 hnul =>
    have hne : path ≠ [] := by
      rintro rfl
      contradiction
    simp [hne]
  | _ => simp_all

theorem step_eq_noEntry_iff {tree : FileTree} {location : Location} {name : Text} :
    tree.step location name = .error .noEntry ↔ tree.node? location = none := by
  fun_cases step tree location name <;> simp_all

/-- Names lead nowhere if a name is left at a place where nothing is. -/
theorem follow_eq_noEntry_iff {tree : FileTree} {location : Location} {names : List Text} :
    tree.follow location names = .error .noEntry ↔
      ∃ front name left place, names = front ++ name :: left ∧
        tree.follow location front = .ok place ∧ tree.node? place = none := by
  induction names generalizing location with
  | nil => simp [follow, pure, Except.pure]
  | cons name names ih =>
    have hcons : tree.follow location (name :: names) =
        tree.step location name >>= fun next => tree.follow next names := List.foldlM_cons
    rw [hcons, except_bind_eq_error, step_eq_noEntry_iff]
    constructor
    · rintro (hnone | ⟨next, hstep, hnames⟩)
      · exact ⟨[], name, names, location, rfl, rfl, hnone⟩
      · obtain ⟨front, other, left, place, rfl, hfront, hnone⟩ := ih.1 hnames
        refine ⟨name :: front, other, left, place, rfl, ?_, hnone⟩
        rw [follow, List.foldlM_cons, hstep]
        exact hfront
    · rintro ⟨front, other, left, place, hsplit, hfront, hnone⟩
      cases front with
      | nil =>
        obtain rfl := Except.ok.inj hfront
        exact Or.inl hnone
      | cons first front =>
        obtain ⟨rfl, rfl⟩ := List.cons.inj hsplit
        obtain ⟨next, hstep, hrest⟩ := except_bind_eq_ok hfront
        exact Or.inr ⟨next, hstep, ih.2 ⟨front, other, left, place, rfl, hrest, hnone⟩⟩

theorem find_eq_noEntry_iff {tree : FileTree} {path : Text} :
    tree.find path = .error .noEntry ↔ tree.Absent path := by
  rw [find, except_bind_eq_error, start_eq_noEntry_iff]
  apply or_congr Iff.rfl
  constructor
  · rintro ⟨⟨location, names⟩, hstart, hfind⟩
    rcases except_bind_eq_error.1 hfind with hfollow | ⟨place, hfollow, hnode⟩
    · obtain ⟨front, name, left, place, rfl, hfront, hnone⟩ := follow_eq_noEntry_iff.1 hfollow
      exact ⟨place, name :: left, ⟨location, front, hstart, hfront⟩, hnone⟩
    · refine ⟨place, [], ⟨location, names, by rwa [List.append_nil], hfollow⟩, ?_⟩
      cases hplace : tree.node? place with
      | none => rfl
      | some node => simp [hplace, pure, Except.pure] at hnode
  · rintro ⟨place, left, ⟨location, front, hstart, hfront⟩, hnone⟩
    refine ⟨_, hstart, except_bind_eq_error.2 ?_⟩
    cases left with
    | nil =>
      refine Or.inr ⟨place, by rwa [List.append_nil], ?_⟩
      rw [hnone]
      rfl
    | cons name left =>
      exact Or.inl (follow_eq_noEntry_iff.2 ⟨front, name, left, place, rfl, hfront, hnone⟩)

/-- A directory is no file, but it is not absent either. -/
theorem read_eq_noEntry_iff {tree : FileTree} {path : Text} :
    tree.read path = .error .noEntry ↔ tree.Absent path := by
  rw [read, except_bind_eq_error, find_eq_noEntry_iff]
  constructor
  · rintro (habsent | ⟨⟨place, node⟩, _, hnode⟩)
    · exact habsent
    · cases node with
      | file bytes => contradiction
      | directory => exact absurd (Except.error.inj hnode) (by decide)
  · exact Or.inl

end FileTree

namespace Book

/-- The run of a file ends with a fatal fault before its first line. -/
def Refuses (book : Book) (name : Text) (reading : Reading) (fault : Fault) : Prop :=
  book.runFile name reading = (book, [], .error fault) ∧ fault.isFatal = true

theorem refuses_of_ne_toBytes (book : Book) (name : Text) {bytes : ByteArray}
    (hbytes : ∀ t : Text, t.toBytes ≠ bytes) :
    book.Refuses name (.ok bytes) (.sourceUnreadable name .notText) := by
  have hread : Text.ofBytes? bytes = none := by
    cases hread : Text.ofBytes? bytes with
    | none => rfl
    | some t => exact absurd (Text.toBytes_eq_of_ofBytes? hread) (hbytes t)
  refine ⟨?_, rfl⟩
  simp only [runFile, Reading.source, Reading.text, hread]

/-- A defect is no less one behind good lines. -/
theorem refuses_append (book : Book) (name t : Text) {rest : ByteArray}
    (hrest : ∀ u : Text, u.toBytes ≠ rest) :
    book.Refuses name (.ok (t.toBytes ++ rest)) (.sourceUnreadable name .notText) := by
  apply refuses_of_ne_toBytes
  intro u hu
  obtain ⟨v, hv⟩ := Text.exists_toBytes_of_append hu
  exact hrest v hv

theorem refuses_missing (book : Book) (name : Text) :
    book.Refuses name (.error .noEntry) (.sourceMissing name) := ⟨rfl, rfl⟩

theorem refuses_failure (book : Book) (name : Text) {failure : FileFailure}
    (hfailure : failure ≠ .noEntry) :
    book.Refuses name (.error failure) (.sourceUnreadable name failure) := by
  cases failure with
  | noEntry => contradiction
  | _ => exact ⟨rfl, rfl⟩

/-- A file that holds a text is run as that text is.  One that holds none, wherever its bytes
stop to be those of a text, is not run, and neither is what cannot be read. -/
theorem runFile_all_or_nothing (book : Book) (name : Text) :
    (∀ t : Text,
      book.runFile name (.ok t.toBytes) = ((book.run t).1, (book.run t).2, .ok ())) ∧
    (∀ bytes : ByteArray, (∀ t : Text, t.toBytes ≠ bytes) →
      book.Refuses name (.ok bytes) (.sourceUnreadable name .notText)) ∧
    (∀ (t : Text) (rest : ByteArray), (∀ u : Text, u.toBytes ≠ rest) →
      book.Refuses name (.ok (t.toBytes ++ rest)) (.sourceUnreadable name .notText)) ∧
    (∀ bytes : ByteArray, (∃ t : Text, t.toBytes = bytes) ↔
      Text.WellFormed bytes.data.toList) ∧
    book.Refuses name (.error .noEntry) (.sourceMissing name) ∧
    (∀ failure : FileFailure, failure ≠ .noEntry →
      book.Refuses name (.error failure) (.sourceUnreadable name failure)) ∧
    ∀ (tree : FileTree) (path : Text),
      (∀ bytes : ByteArray, tree.read path = .ok bytes ↔ tree.Holds path bytes) ∧
        (tree.read path = .error .noEntry ↔ tree.Absent path) := by
  refine ⟨?_, ?_, ?_, ?_, ?_, ?_, ?_⟩
  · exact book.runFile_text name
  · exact fun _ => book.refuses_of_ne_toBytes name
  · exact fun t _ => book.refuses_append name t
  · exact fun _ => Text.exists_toBytes_iff
  · exact book.refuses_missing name
  · exact fun _ => book.refuses_failure name
  · exact fun _ _ => ⟨fun _ => FileTree.read_eq_ok_iff, FileTree.read_eq_noEntry_iff⟩

/-- A file cut off within its last character, a path to nothing and one to a directory. -/
theorem runFile_all_or_nothing_cut_off :
    let lines : Text := "ADD PROVERB;content=a;country=b\nPRINT\n".toList
    let bytes : ByteArray := lines.toBytes ++ ⟨#[0xE2, 0x82]⟩
    let tree : FileTree := ⟨[([['a']], .file bytes)], []⟩
    sample.Refuses ['a'] (tree.read ['a']) (.sourceUnreadable ['a'] .notText) ∧
      sample.Refuses ['b'] (tree.read ['b']) (.sourceMissing ['b']) ∧
      sample.Refuses ['.'] (tree.read ['.']) (.sourceUnreadable ['.'] .isDirectory) := by
  intro lines bytes tree
  refine ⟨?_, ?_, ?_⟩
  · have hread : tree.read ['a'] = .ok bytes := rfl
    have hrest : ∀ u : Text, u.toBytes ≠ ⟨#[0xE2, 0x82]⟩ := by
      intro u hu
      have hnone : Text.ofBytes? ⟨#[0xE2, 0x82]⟩ = none := by decide
      rw [← hu, Text.ofBytes?_toBytes] at hnone
      contradiction
    rw [hread]
    exact (runFile_all_or_nothing sample ['a']).2.2.1 _ _ hrest
  · have hread : tree.read ['b'] = .error .noEntry := rfl
    rw [hread]
    exact (runFile_all_or_nothing sample ['b']).2.2.2.2.1
  · have hread : tree.read ['.'] = .error .isDirectory := rfl
    rw [hread]
    exact (runFile_all_or_nothing sample ['.']).2.2.2.2.2.1 _ (by decide)

end Book

end Commonplace
