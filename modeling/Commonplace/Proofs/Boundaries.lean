/-
Faults by the boundary that they cross.  What goes wrong within a line is not fatal: it becomes
the message of the line, and the run goes on.  What goes wrong with a file or with settings is
fatal, and no fault of a line is ever among it.
-/
import Commonplace.Proofs.Rejection
import Commonplace.Settings.Stored

namespace Commonplace

/-- Whatever fault a result is, it is fatal, or is not, as is said. -/
def FailsOnly {α : Type} (fatal : Bool) (result : Except Fault α) : Prop :=
  ∀ fault, result = .error fault → fault.isFatal = fatal

theorem failsOnly_ok {α : Type} (fatal : Bool) (value : α) : FailsOnly fatal (.ok value) := by
  intro fault hfault
  contradiction

theorem failsOnly_error {α : Type} (fault : Fault) :
    FailsOnly fault.isFatal (.error fault : Except Fault α) := by
  intro other hother
  rw [Except.error.inj hother]

theorem Fault.OfLine.not_fatal {line : Text} {fault : Fault} (hfault : fault.OfLine line) :
    fault.isFatal = false := by
  cases hfault <;> rfl

theorem Reading.source_failsOnly (name : Text) (reading : Reading) :
    FailsOnly true (reading.source name) := by
  fun_cases Reading.source reading name with
  | case1 hreading => exact failsOnly_error (.sourceMissing name)
  | case2 failure hreading hfailure => exact failsOnly_error (.sourceUnreadable name failure)
  | case3 source hreading => exact failsOnly_ok true source

theorem Instruction.read_failsOnly (line : Text) : FailsOnly false (read line) :=
  fun _ hread => (read_error_ofLine hread).not_fatal

theorem Saying.create_failsOnly (tag : Text) (fields : Fields) :
    FailsOnly false (create tag fields) := by
  intro fault hcreate
  cases making_of_create hcreate with
  | unknown htag => rfl
  | missing htag hname => rfl

namespace Book

theorem add_eq_error_iff {book : Book} {tag : Text} {fields : Fields} {fault : Fault} :
    (book.add tag fields).2 = .error fault ↔ Saying.create tag fields = .error fault := by
  rw [add]
  cases Saying.create tag fields <;> simp

/-- Only an addition can fail. -/
theorem execute_eq_error_iff {book : Book} {instruction : Instruction} {fault : Fault} :
    (book.execute instruction).2 = .error fault ↔
      ∃ tag fields, instruction = .add tag fields ∧ Saying.create tag fields = .error fault := by
  cases instruction with
  | add tag fields => simp [execute, add_eq_error_iff]
  | remove condition => simp [execute]
  | list => simp [execute]

/-- An instruction that fails does nothing. -/
theorem execute_of_error {book : Book} {instruction : Instruction} {fault : Fault}
    (hexecute : (book.execute instruction).2 = .error fault) :
    book.execute instruction = (book, .error fault) := by
  obtain ⟨tag, fields, rfl, hcreate⟩ := execute_eq_error_iff.1 hexecute
  simp only [execute, add, hcreate]

theorem add_failsOnly (book : Book) (tag : Text) (fields : Fields) :
    FailsOnly false (book.add tag fields).2 :=
  fun fault hadd => Saying.create_failsOnly tag fields fault (add_eq_error_iff.1 hadd)

theorem execute_failsOnly (book : Book) (instruction : Instruction) :
    FailsOnly false (book.execute instruction).2 := by
  intro fault hexecute
  obtain ⟨tag, fields, -, hcreate⟩ := execute_eq_error_iff.1 hexecute
  exact Saying.create_failsOnly tag fields fault hcreate

/-- The fault comes from reading the line or from executing what was read. -/
def Meets (book : Book) (line : Text) (fault : Fault) : Prop :=
  Instruction.read line = .error fault ∨
    ∃ instruction, Instruction.read line = .ok (some instruction) ∧
      (book.execute instruction).2 = .error fault

theorem Meets.not_fatal {book : Book} {line : Text} {fault : Fault}
    (hmeets : book.Meets line fault) : fault.isFatal = false := by
  rcases hmeets with hread | ⟨instruction, -, hexecute⟩
  · exact Instruction.read_failsOnly line fault hread
  · exact book.execute_failsOnly instruction fault hexecute

theorem process_of_meets {book : Book} {line : Text} {fault : Fault}
    (hmeets : book.Meets line fault) : book.process line = (book, .rejected fault) := by
  rcases hmeets with hread | ⟨instruction, hread, hexecute⟩
  · simp only [process, hread]
  · simp only [process, hread, execute_of_error hexecute]

/-- A line is rejected for no other fault than the one it meets. -/
theorem meets_of_rejected {book : Book} {line : Text} {fault : Fault}
    (hrejected : (book.process line).2 = .rejected fault) : book.Meets line fault := by
  rw [process_eq] at hrejected
  have hverdict : Verdict.ofLine line = .rejected fault := by
    cases hline : Verdict.ofLine line with
    | rejected other =>
      rw [hline] at hrejected
      exact congrArg Verdict.rejected (Outcome.rejected.inj hrejected)
    | _ =>
      rw [hline] at hrejected
      contradiction
  rcases Verdict.ofLine_eq_rejected_cases hverdict with hread | ⟨tag, fields, hread, hcreate⟩
  · exact Or.inl hread
  · exact Or.inr ⟨_, hread, execute_eq_error_iff.2 ⟨tag, fields, rfl, hcreate⟩⟩

/-- A line has no message, or that of the fault that it meets. -/
theorem process_contains (book : Book) (line : Text) :
    (book.process line).2.diagnostics = [] ∨
      ∃ fault, book.Meets line fault ∧ book.process line = (book, .rejected fault) := by
  cases houtcome : (book.process line).2 with
  | rejected fault =>
    have hmeets := meets_of_rejected houtcome
    exact Or.inr ⟨fault, hmeets, process_of_meets hmeets⟩
  | _ => exact Or.inl rfl

/-- What a run rejects is no more than what its lines meet. -/
theorem exists_meets_of_mem_processAll {book : Book} {lines : List Text} {fault : Fault}
    (hmem : .rejected fault ∈ (book.processAll lines).2) :
    ∃ line ∈ lines, ∃ before : Book, before.Meets line fault := by
  induction lines generalizing book with
  | nil => simp at hmem
  | cons line rest ih =>
    rw [processAll_cons, List.mem_append] at hmem
    rcases hmem with hfirst | hrest
    · have houtcome := List.mem_singleton.1 (List.mem_filter.1 hfirst).1
      exact ⟨line, List.mem_cons_self, book, meets_of_rejected houtcome.symm⟩
    · obtain ⟨other, hother, hmeets⟩ := ih hrest
      exact ⟨other, List.mem_cons_of_mem line hother, hmeets⟩

/-- A run over a file fails for what came of reading the file, and for nothing in its lines. -/
theorem runFile_failsOnly (book : Book) (name : Text) (reading : Reading) :
    FailsOnly true (book.runFile name reading).2.2 := by
  unfold runFile
  cases hsource : reading.source name with
  | error fault =>
    intro other hother
    obtain rfl := Except.error.inj hother
    exact Reading.source_failsOnly name reading fault hsource
  | ok source => exact failsOnly_ok true ()

end Book

namespace Settings

theorem ofReading_failsOnly (reading : Reading) : FailsOnly true (ofReading reading) := by
  unfold ofReading
  split
  · next failure =>
    split
    · exact failsOnly_ok true default
    · exact failsOnly_error (.file failure)
  · split
    · next failure htext => exact failsOnly_error (.file failure)
    · split
      · next complaint hread => exact failsOnly_error (.settings complaint)
      · next settings hread => exact failsOnly_ok true settings

theorem load_failsOnly (tree : FileTree) (directory : Text) :
    FailsOnly true (load tree directory) :=
  ofReading_failsOnly (tree.read (path directory))

theorem save_failsOnly (settings : Settings) (tree : FileTree) (directory : Text) :
    FailsOnly true (settings.save tree directory) := by
  fun_cases save settings tree directory with
  | case1 failure hmake => exact failsOnly_error (.file failure)
  | case2 made hmake failure hwrite => exact failsOnly_error (.file failure)
  | case3 made hmake after hwrite => exact failsOnly_ok true after

end Settings

namespace Book

/-- What reading a line, making a saying and executing an instruction fail with is not fatal;
what reading a source, loading settings and saving them fail with is, and no fault that a line
meets is among it. -/
theorem fatal_by_boundary :
    (∀ (book : Book) (line tag : Text) (fields : Fields) (instruction : Instruction),
      FailsOnly false (Instruction.read line) ∧ FailsOnly false (Saying.create tag fields) ∧
        FailsOnly false (book.add tag fields).2 ∧
        FailsOnly false (book.execute instruction).2) ∧
    (∀ (book : Book) (line : Text), (book.process line).2.diagnostics = [] ∨
      ∃ fault, book.Meets line fault ∧ fault.isFatal = false ∧
        book.process line = (book, .rejected fault)) ∧
    (∀ (book : Book) (condition : Condition),
      (∃ after removed, book.execute (.remove condition) = (after, .ok (.removed removed))) ∧
        book.execute .list = (book, .ok (.listed book.sayings))) ∧
    (∀ (book : Book) (name : Text) (reading : Reading) (settings : Settings) (tree : FileTree)
      (directory : Text),
      FailsOnly true (book.runFile name reading).2.2 ∧
        FailsOnly true (Settings.load tree directory) ∧
        FailsOnly true (settings.save tree directory)) ∧
    (∀ (book : Book) (name source : Text),
      book.runFile name (.ok source.toBytes) =
          ((book.run source).1, (book.run source).2, .ok ()) ∧
        ∀ fault, .rejected fault ∈ (book.run source).2 →
          fault.isFatal = false ∧ ∃ line ∈ source.lines, ∃ before : Book, before.Meets line fault) ∧
    ∀ (before book : Book) (line name : Text) (reading : Reading) (fault : Fault),
      before.Meets line fault → (book.runFile name reading).2.2 ≠ .error fault := by
  refine ⟨fun book line tag fields instruction => ⟨Instruction.read_failsOnly line,
      Saying.create_failsOnly tag fields, book.add_failsOnly tag fields,
      book.execute_failsOnly instruction⟩, fun book line => ?_,
    fun book condition => ⟨⟨_, _, rfl⟩, rfl⟩,
    fun book name reading settings tree directory => ⟨book.runFile_failsOnly name reading,
      Settings.load_failsOnly tree directory, settings.save_failsOnly tree directory⟩,
    fun book name source => ⟨book.runFile_text name source, fun fault hmem => ?_⟩, ?_⟩
  · refine (book.process_contains line).imp_right ?_
    rintro ⟨fault, hmeets, hprocess⟩
    exact ⟨fault, hmeets, hmeets.not_fatal, hprocess⟩
  · obtain ⟨line, hline, before, hmeets⟩ := exists_meets_of_mem_processAll hmem
    exact ⟨hmeets.not_fatal, line, hline, before, hmeets⟩
  · intro before book line name reading fault hmeets hrun
    have hfatal := book.runFile_failsOnly name reading fault hrun
    rw [hmeets.not_fatal] at hfatal
    contradiction

/-- A file with a line of no instruction, a file of no text, and a directory where the settings
of the current one would stand. -/
theorem fatal_by_boundary_samples :
    let source : Text := "X\nPRINT".toList
    let tree : FileTree := ⟨[(["config.json".toList], .directory), ([['b']], .file ⟨#[0xFF]⟩)], []⟩
    Instruction.read ['X'] = .error (.unknownCommand ['X']) ∧
      (Fault.unknownCommand ['X']).isFatal = false ∧
      Saying.create ['Q'] .empty = .error (.unknownKind ['Q']) ∧
      (Fault.unknownKind ['Q']).isFatal = false ∧
      .rejected (.unknownCommand ['X']) ∈ (sample.run source).2 ∧
      (∃ line ∈ source.lines, ∃ before : Book, before.Meets line (.unknownCommand ['X'])) ∧
      (sample.runFile ['b'] (tree.read ['b'])).2.2 = .error (.sourceUnreadable ['b'] .notText) ∧
      (Fault.sourceUnreadable ['b'] .notText).isFatal = true ∧
      (sample.runFile ['b'] (tree.read ['b'])).2.2 ≠ .error (.unknownCommand ['X']) ∧
      Settings.load tree [] = .error (.file .isDirectory) ∧
      Settings.default.save tree [] = .error (.file .isDirectory) ∧
      (Fault.file .isDirectory).isFatal = true := by
  intro source tree
  have hread : Instruction.read ['X'] = .error (.unknownCommand ['X']) := rfl
  have hcreate : Saying.create ['Q'] .empty = .error (.unknownKind ['Q']) := rfl
  have hrejected : .rejected (.unknownCommand ['X']) ∈ (sample.run source).2 := by decide
  have hunread : (sample.runFile ['b'] (tree.read ['b'])).2.2 =
      .error (.sourceUnreadable ['b'] .notText) := rfl
  have hloaded : Settings.load tree [] = .error (.file .isDirectory) := rfl
  have hsaved : Settings.default.save tree [] = .error (.file .isDirectory) := by
    rw [Settings.save, FileTree.makeDirectories]
    rfl
  obtain ⟨hlines, -, -, hfiles, hsources, hapart⟩ := fatal_by_boundary
  obtain ⟨hline, hmade, -, -⟩ := hlines sample ['X'] ['Q'] .empty .list
  obtain ⟨hrun, -, hsave⟩ := hfiles sample ['b'] (tree.read ['b']) Settings.default tree []
  exact ⟨hread, hline _ hread, hcreate, hmade _ hcreate, hrejected,
    ((hsources sample ['a'] source).2 _ hrejected).2, hunread, hrun _ hunread,
    hapart sample sample ['X'] ['b'] _ _ (Or.inl hread), hloaded, hsaved, hsave _ hsaved⟩

end Book

end Commonplace
