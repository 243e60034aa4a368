/-
Settings that are saved and loaded again.  What is written is an object with every
member, so nothing is left to the defaults.
-/
import Commonplace.Proofs.GivenSettings
import Commonplace.Proofs.Writing

namespace Commonplace

open Json

theorem Member.mem_all (member : Member) : member ∈ all := by
  cases member <;> decide

namespace Settings

theorem gives_value (settings : Settings) (member : Member) :
    Gives (settings.value member) (settings.setting member) := by
  cases member with
  | inputFile => exact .file (spells_escape settings.inputFile)
  | color => exact .color settings.color
  | output => exact .name (spells_escape settings.output.name)

/-- A member on a line of its own. -/
def entry (settings : Settings) (after : Spacing) (member : Member) : Entry :=
  { Entry.plain member.name (settings.value member) (settings.gives_value member).isValue with
    beforeName := .of "\n  ".toList rfl
    beforeValue := .of " ".toList rfl
    afterValue := after }

/-- The object that is written. -/
def object (settings : Settings) : Object :=
  { entries := [settings.entry .empty .inputFile, settings.entry .empty .color,
      settings.entry (.of ['\n'] rfl) .output]
    before := .empty
    inner := .empty
    after := .empty }

theorem object_text (settings : Settings) : settings.object.text = settings.written := by
  simp [object, Object.text, entry, Entry.plain, Entry.text, Entry.afterward, written,
    Spacing.of, Text.join, Member.all, Json.quote, Text.quoted]

theorem object_members (settings : Settings) :
    settings.object.members = Member.all.map fun member => (member.name, settings.value member) :=
  rfl

theorem mem_object_members {settings : Settings} {member : Member} {value : Text} :
    (member.name, value) ∈ settings.object.members ↔ value = settings.value member := by
  rw [object_members, List.mem_map]
  constructor
  · rintro ⟨other, -, heq⟩
    obtain ⟨hname, rfl⟩ := Prod.mk.inj heq
    rw [Member.name_inj hname]
  · rintro rfl
    exact ⟨member, member.mem_all, rfl⟩

theorem object_proper (settings : Settings) : Proper settings.object.members := by
  refine ⟨fun member => by cases member <;> exact Nat.le_refl 1, fun member value hmem => ?_⟩
  rw [mem_object_members.1 hmem]
  exact ⟨settings.setting member, settings.setting_member member, settings.gives_value member⟩

theorem read_written (settings : Settings) : read settings.written = .ok settings := by
  have htaken : settings.TakenFrom settings.object.members := fun member =>
    Or.inl ⟨settings.value member, mem_object_members.2 rfl, settings.gives_value member⟩
  obtain ⟨found, hread, hfound⟩ := read_object_of_proper settings.object_proper
  rw [← object_text, hread, settings.object_proper.settings_unique hfound htaken]

theorem write_of_save {settings : Settings} {tree after : FileTree} {directory : Text}
    (hsave : settings.save tree directory = .ok after) :
    ∃ made : FileTree, tree.makeDirectories directory = .ok made ∧
      made.write (path directory) settings.written.toBytes = .ok after := by
  revert hsave
  fun_cases save settings tree directory with
  | case3 made hmade final hwrite =>
    intro hsave
    obtain rfl := Except.ok.inj hsave
    exact ⟨made, hmade, hwrite⟩
  | _ => intro hsave; contradiction

/-- Settings that were saved are loaded as they were, and their written form is that of
no others. -/
theorem load_of_save :
    (∀ (settings : Settings) (tree after : FileTree) (directory : Text),
      settings.save tree directory = .ok after →
        load after directory = .ok settings ∧
          after.read (path directory) = .ok settings.written.toBytes) ∧
    (∀ settings : Settings, read settings.written = .ok settings) ∧
    ∀ left right : Settings, left.written = right.written → left = right := by
  refine ⟨fun settings tree after directory hsave => ?_, read_written, fun left right heq => ?_⟩
  · obtain ⟨made, -, hwrite⟩ := write_of_save hsave
    have hread := FileTree.read_of_write hwrite
    refine ⟨?_, hread⟩
    rw [load_text hread, read_written]
    rfl
  · have hread := left.read_written
    rw [heq, read_written] at hread
    exact (Except.ok.inj hread).symm

/-- A name with a mark, a control character and what looks like an escape, in a directory
that is made for it. -/
theorem load_of_save_nested :
    let settings : Settings := ⟨"\"\\u0041\x01\u2028".toList, false, .json⟩
    ∃ after, settings.save (.empty []) "nested".toList = .ok after ∧
      load after "nested".toList = .ok settings := by
  intro settings
  have hsaved : ∃ after, settings.save (.empty []) "nested".toList = .ok after := by
    refine ⟨((FileTree.empty []).put ["nested".toList] .directory).put
      ["nested".toList, "config.json".toList] (.file settings.written.toBytes), ?_⟩
    rw [save, FileTree.makeDirectories]
    rfl
  obtain ⟨after, hsave⟩ := hsaved
  exact ⟨after, hsave, (load_of_save.1 settings _ after _ hsave).1⟩

end Settings

end Commonplace
