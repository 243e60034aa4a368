/-
The answer of the program to a command line that asks for a run, away from a terminal.  Bad
settings are replaced as a whole, a source that is no text ends the run with its fault alone, and
rejected lines do not end it.  What says how to colour messages or what notes to keep has no part
in the status or the results, unless the filter of the notes divides a character.
-/
import Commonplace.Proofs.Output

namespace Commonplace

namespace Surroundings

/-- The settings of the directory, if there is one and they load, and otherwise the default
ones. -/
def settings (around : Surroundings) (tree : FileTree) : Settings :=
  match Settings.directory? around.environment with
  | none => .default
  | some directory =>
    match Settings.load tree directory with
    | .ok settings => settings
    | .error _ => .default

theorem plan_eq (around : Surroundings) (tree : FileTree) (arguments : Arguments) :
    around.plan tree arguments =
      Plan.choose arguments (around.settings tree) around.terminal := by
  unfold plan settle settings
  cases Settings.directory? around.environment with
  | none => rfl
  | some directory =>
    change Plan.choose arguments (Report.settle directory (Settings.load tree directory)).1
      around.terminal = _
    cases hload : Settings.load tree directory <;> simp only [Report.settle, hload]

end Surroundings

namespace Book

theorem Refuses.unique {book : Book} {name : Text} {reading : Reading} {fault other : Fault}
    (hfault : book.Refuses name reading fault) (hother : book.Refuses name reading other) :
    fault = other := by
  have hafter := hfault.1.symm.trans hother.1
  simpa using hafter

/-- What is no text is refused. -/
theorem exists_refuses (book : Book) (name : Text) {reading : Reading}
    (hreading : ∀ source : Text, reading ≠ .ok source.toBytes) :
    ∃ fault, book.Refuses name reading fault := by
  cases reading with
  | ok bytes =>
    exact ⟨_, book.refuses_of_ne_toBytes name fun source hsource =>
      hreading source (congrArg Except.ok hsource.symm)⟩
  | error failure =>
    by_cases hfailure : failure = .noEntry
    · subst hfailure
      exact ⟨_, book.refuses_missing name⟩
    · exact ⟨_, book.refuses_failure name hfailure⟩

end Book

namespace Report

/-- The status of a run that begins, and all that it writes: for a text the records and the
messages of its lines in order, and for anything else the fault that it is refused with. -/
structure Answers (input : Text) (format : Format) (reading : Reading) (status : Nat)
    (written : Text) : Prop where
  status_eq : status = 0 ∨ status = 1
  status_one : status = 1 ↔ ∀ source : Text, reading ≠ .ok source.toBytes
  text : ∀ source : Text, reading = .ok source.toBytes →
    written = (Book.empty.run source).2.flatMap fun outcome =>
      ended (outcome.shown.map (·.inFormat format) ++ outcome.diagnostics)
  noText : ∀ bytes : ByteArray, reading = .ok bytes → (∀ source : Text, source.toBytes ≠ bytes) →
    written = (Fault.sourceUnreadable input .notText).message ++ ['\n']
  missing : reading = .error .noEntry → written = (Fault.sourceMissing input).message ++ ['\n']
  failed : ∀ failure : FileFailure, reading = .error failure → failure ≠ .noEntry →
    written = (Fault.sourceUnreadable input failure).message ++ ['\n']

theorem answers_refused {input : Text} {reading : Reading} {fault : Fault} (format : Format)
    (hreading : ∀ source : Text, reading ≠ .ok source.toBytes)
    (hrefuses : Book.empty.Refuses input reading fault) :
    Answers input format reading 1 (fault.message ++ ['\n']) where
  status_eq := .inr rfl
  status_one := iff_of_true rfl hreading
  text source hsource := absurd hsource (hreading source)
  noText bytes hbytes hnone := by
    subst hbytes
    rw [hrefuses.unique (Book.empty.refuses_of_ne_toBytes input hnone)]
  missing hmissing := by
    subst hmissing
    rw [hrefuses.unique (Book.empty.refuses_missing input)]
  failed failure hfailed hfailure := by
    subst hfailed
    rw [hrefuses.unique (Book.empty.refuses_failure input hfailure)]

theorem answers_text (input : Text) (format : Format) (source : Text) :
    Answers input format (.ok source.toBytes) 0
      ((Book.empty.run source).2.flatMap fun outcome =>
        ended (outcome.shown.map (·.inFormat format) ++ outcome.diagnostics)) where
  status_eq := .inl rfl
  status_one := iff_of_false Nat.zero_ne_one fun hnone => hnone source rfl
  text other hother := by
    rw [Text.toBytes_injective (Except.ok.inj hother)]
  noText bytes hbytes hnone := absurd (Except.ok.inj hbytes) (hnone source)
  missing hmissing := by contradiction
  failed failure hfailed := by contradiction

end Report

namespace Plan

variable {plan : Plan}

theorem results_refused {reading : Reading} {fault : Fault}
    (hrefuses : Book.empty.Refuses plan.input reading fault) :
    plan.results reading = (1, [fault.message]) := by
  simp only [results, hrefuses.1, List.flatMap_nil, List.nil_append]

theorem answers (hplain : plan.colored = false) (reading : Reading) :
    Report.Answers plan.input plan.format reading (plan.results reading).1
      (Report.ended (plan.results reading).2) := by
  by_cases hreading : ∀ source : Text, reading ≠ .ok source.toBytes
  · obtain ⟨fault, hrefuses⟩ := Book.empty.exists_refuses plan.input hreading
    have hanswers := Report.answers_refused plan.format hreading hrefuses
    simpa [results_refused hrefuses, Report.ended] using hanswers
  · simp only [not_forall, not_not] at hreading
    obtain ⟨source, rfl⟩ := hreading
    have hanswers := Report.answers_text plan.input plan.format source
    have hlines : plan.lines = fun outcome =>
        outcome.shown.map (·.inFormat plan.format) ++ outcome.diagnostics := by
      funext outcome
      simp [lines, hplain]
    rw [results_text, Report.ended, List.flatMap_assoc, hlines]
    exact hanswers

end Plan

namespace Surroundings

/-- The input of a run: the named file, or else that of the settings. -/
def input (around : Surroundings) (tree : FileTree) (arguments : Arguments) : Text :=
  arguments.file.getD (around.settings tree).inputFile

/-- The form of output of a run: the named one, or else that of the settings. -/
def format (around : Surroundings) (tree : FileTree) (arguments : Arguments) : Format :=
  arguments.output.getD (around.settings tree).output

theorem plan_of_terminal {around : Surroundings} (hterminal : around.terminal = false)
    (tree : FileTree) (arguments : Arguments) :
    around.plan tree arguments =
      ⟨around.input tree arguments, around.format tree arguments, false⟩ := by
  simp [plan_eq, Plan.choose, hterminal, input, format]

/-- Away from a terminal the answer is told by the input, what is read of it, and the form of
output. -/
theorem answerIn_eq {around : Surroundings} {tree : FileTree} {words : List Text}
    {arguments : Arguments} (hterminal : around.terminal = false)
    (hwords : Request.read words = .run arguments) (hdivided : ¬ around.Divided) :
    ((around.answerIn tree words).status, (around.answerIn tree words).results) =
      (⟨around.input tree arguments, around.format tree arguments, false⟩ : Plan).results
        (tree.read (around.input tree arguments)) := by
  rw [answerIn_run hwords hdivided, plan_of_terminal hterminal]

/-- The status and all that is written are told by the input, what is read of it and the form
of output, and by no colour, verbosity or filter of the journal, unless that filter divides a
character: then nothing is run. -/
theorem run_answers {around : Surroundings} {tree : FileTree} {words : List Text}
    {arguments : Arguments} (hterminal : around.terminal = false)
    (hwords : Request.read words = .run arguments) :
    let report := around.answerIn tree words
    let input := around.input tree arguments
    let format := around.format tree arguments
    (¬ around.Divided →
      Report.Answers input format (tree.read input) report.status (Report.ended report.results)) ∧
    (around.Divided → report.status = 101 ∧ report.results = []) ∧
    (around.Divided → ∃ log, around.journal = some log ∧ ∃ rule ∈ log.pieces ',',
      (∃ c ∈ rule.head?, Text.isBlank c = true) ∧ ∃ c ∈ rule, c.utf8Size ≠ 1) ∧
    ∀ (other : Surroundings) (there : FileTree) (phrases : List Text)
      (color noColor verbose : Bool), other.terminal = false →
      Request.read phrases = .run { arguments with noColor := noColor, verbose := verbose } →
      other.settings there = { around.settings tree with color := color } →
      there.read input = tree.read input → (other.Divided ↔ around.Divided) →
        (other.answerIn there phrases).status = report.status ∧
          (other.answerIn there phrases).results = report.results := by
  intro report input format
  have hunfiltered : around.Divided → report = Report.unfiltered := answerIn_divided hwords
  refine ⟨fun hdivided => ?_, fun hdivided => ?_, Divided.exists_rule, ?_⟩
  · have hanswer := @answerIn_eq around tree words arguments hterminal hwords hdivided
    obtain ⟨hstatus, hresults⟩ := Prod.mk.inj hanswer
    rw [hstatus, hresults]
    exact @Plan.answers ⟨input, format, false⟩ rfl (tree.read input)
  · rw [hunfiltered hdivided]
    exact ⟨rfl, rfl⟩
  · intro other there phrases color noColor verbose hother hphrases hsettings hinput hsame
    by_cases hdivided : around.Divided
    · rw [hunfiltered hdivided, answerIn_divided hphrases (hsame.2 hdivided)]
      exact ⟨rfl, rfl⟩
    · have hanswer := @answerIn_eq around tree words arguments hterminal hwords hdivided
      have htoo := @answerIn_eq other there phrases _ hother hphrases (mt hsame.1 hdivided)
      have hfile : other.input there { arguments with noColor := noColor, verbose := verbose } =
          input := by
        simp only [input, Surroundings.input, hsettings]
      have hformat : other.format there { arguments with noColor := noColor, verbose := verbose } =
          format := by
        simp only [format, Surroundings.format, hsettings]
      rw [hfile, hformat, hinput] at htoo
      exact Prod.mk.inj (htoo.trans hanswer.symm)

/-- A run with a rejected line, also with other settings of what has no part in it, one of a
file that is not there, and one that its filter keeps from beginning. -/
theorem run_answers_filtered :
    let source : Text := "ADD PROVERB;content=a;country=b\nX\nPRINT".toList
    let tree := (FileTree.empty []).put [['f']] (.file source.toBytes)
    let settings : Text := "\x7b\"color\":false\x7d".toList
    let plain := tree.put ["config.json".toList] (.file settings.toBytes)
    let around : Surroundings := ⟨⟨some ['.'], none, none⟩, none, false⟩
    let other : Surroundings := { around with journal := some "trace".toList }
    let divided : Surroundings := { around with journal := some "\xA0a=debug".toList }
    let report := around.answerIn tree [['f']]
    report.status = 0 ∧
      Report.ended report.results =
        "Invalid command in file: X\n[PROVERB] content=\"a\" country=\"b\"\n".toList ∧
      (other.answerIn plain ["-v".toList, ['f'], "--no-color".toList]).results = report.results ∧
      (around.answerIn tree [['g']]).status = 1 ∧
      (divided.answerIn tree [['f']]).status = 101 := by
  intro source tree settings plain around other divided report
  have hwhole : ¬ around.Divided := by
    rintro ⟨log, hlog, -⟩
    contradiction
  have hother : ¬ other.Divided := by
    rintro ⟨log, hlog, hread⟩
    obtain rfl := Option.some.inj hlog
    revert hread
    decide
  have hrun := @run_answers around tree [['f']] _ rfl rfl
  have hanswers := hrun.1 hwhole
  refine ⟨?_, ?_, ?_, ?_, ?_⟩
  · exact hanswers.status_eq.resolve_right fun hone => hanswers.status_one.1 hone source rfl
  · rw [hanswers.text source rfl]
    decide +kernel
  · exact (hrun.2.2.2 other plain _ false true true rfl rfl (by decide +kernel) (by decide +kernel)
      (iff_of_false hother hwhole)).2
  · have habsent : tree.read ['g'] = .error .noEntry := rfl
    refine ((@run_answers around tree [['g']] _ rfl rfl).1 hwhole).status_one.2 fun text htext => ?_
    exact absurd (habsent.symm.trans htext) nofun
  · exact ((@run_answers divided tree [['f']] _ rfl rfl).2.1 ⟨_, rfl, by decide +kernel⟩).1

end Surroundings

end Commonplace
