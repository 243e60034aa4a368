/-
The lines that a run writes.  What they show is told from the source alone, and the form
of output decides how each saying is shown and nothing else.
-/
import Mathlib.Data.List.Forall2
import Commonplace.Proofs.Filters
import Commonplace.Proofs.History
import Commonplace.Proofs.JsonLines
import Commonplace.Proofs.Replay

namespace Commonplace

/-- What one line of output shows. -/
inductive Shown
  | rejected (fault : Fault)
  | listed (saying : Saying)
deriving DecidableEq

/-- The line in a form of output. -/
def Shown.inFormat (format : Format) : Shown → Text
  | .rejected fault => fault.message
  | .listed saying => saying.inFormat format

namespace History

/-- What a line shows that meets some sayings. -/
def shows (sayings : List Saying) : Verdict → List Shown
  | .rejected fault => [.rejected fault]
  | .lists => sayings.map .listed
  | _ => []

/-- What the lines of a source show, one after the other: a rejected line its fault, and a
listing the sayings that remain of the lines before it. -/
def showings (start : List Saying) (lines : List Text) : List Shown :=
  (places lines).flatMap fun place =>
    shows (remaining start place.before) (Verdict.ofLine place.line)

theorem showings_cons (start : List Saying) (line : Text) (rest : List Text) :
    showings start (line :: rest) =
      shows start (Verdict.ofLine line) ++
        showings ((Verdict.ofLine line).leaves start) rest := by
  have hrest : (fun place => shows (remaining start place.before)
        (Verdict.ofLine place.line)) ∘ Place.below line =
      fun place => shows (remaining ((Verdict.ofLine line).leaves start) place.before)
        (Verdict.ofLine place.line) := by
    funext place
    simp only [Function.comp_apply, Place.below, remaining_cons]
  rw [showings, places_cons, List.flatMap_cons, List.flatMap_map, remaining_nil]
  exact congrArg (_ ++ List.flatMap · _) hrest

end History

namespace Plan

variable {plan : Plan}

/-- Without colours a line shows what its verdict does. -/
theorem lines_outcome (hplain : plan.colored = false) (sayings : List Saying) (verdict : Verdict) :
    ([verdict.outcome sayings].filter Outcome.isReportable).flatMap plan.lines =
      (History.shows sayings verdict).map (Shown.inFormat plan.format) := by
  cases verdict with
  | lists =>
    cases sayings with
    | nil => rfl
    | cons saying sayings =>
      have hreport : Outcome.isReportable (.listed (saying :: sayings)) = true := rfl
      simp [Verdict.outcome, hreport, lines_listed, History.shows, Shown.inFormat]
  | rejected fault =>
    have hreport : Outcome.isReportable (.rejected fault) = true := rfl
    simp [Verdict.outcome, hreport, lines, Outcome.shown, Outcome.diagnostics, hplain,
      History.shows, Shown.inFormat]
  | blank => rfl
  | adds saying => rfl
  | removes condition => rfl

/-- The lines of a run show what its source does. -/
theorem lines_processAll (hplain : plan.colored = false) (book : Book) (lines : List Text) :
    (book.processAll lines).2.flatMap plan.lines =
      (History.showings book.sayings lines).map (Shown.inFormat plan.format) := by
  induction lines generalizing book with
  | nil => rfl
  | cons line rest ih =>
    rw [Book.processAll_cons, List.flatMap_append, ih, Book.process_eq, lines_outcome hplain,
      History.showings_cons, List.map_append]

end Plan

namespace Saying

theorem not_mem_render {saying : Saying} (hstorable : saying.Storable) :
    '\n' ∉ saying.render := by
  obtain ⟨⟨-, hcontent⟩, ⟨-, horigin⟩⟩ := storable_iff.1 hstorable
  simp [render, Text.quoted, contentName_lettered.not_mem, saying.kind.tag_lettered.not_mem,
    saying.kind.originName_lettered.not_mem, hcontent, horigin]

theorem not_mem_json (saying : Saying) : '\n' ∉ saying.json :=
  fun hmem => absurd (saying.json_printable '\n' hmem) (by decide)

end Saying

namespace History

/-- Nothing that is shown of lines has a line feed in it. -/
theorem not_mem_inFormat {lines : List Text} (hlines : ∀ line ∈ lines, '\n' ∉ line)
    {start : List Saying} (hstart : ∀ saying ∈ start, saying.Storable) (format : Format) :
    ∀ shown ∈ showings start lines, '\n' ∉ shown.inFormat format := by
  induction lines generalizing start with
  | nil => simp [showings, places]
  | cons line rest ih =>
    have hline := hlines line List.mem_cons_self
    intro shown hshown
    rw [showings_cons] at hshown
    rcases List.mem_append.1 hshown with hfirst | hlater
    · cases hverdict : Verdict.ofLine line with
      | rejected fault =>
        rw [hverdict] at hfirst
        obtain rfl := List.mem_singleton.1 hfirst
        exact (Verdict.rejected_ofLine hverdict).not_mem_message hline
      | lists =>
        rw [hverdict] at hfirst
        obtain ⟨saying, hsaying, rfl⟩ := List.mem_map.1 hfirst
        cases format with
        | text => exact Saying.not_mem_render (hstart saying hsaying)
        | json => exact saying.not_mem_json
      | _ => simp [hverdict, shows] at hfirst
    · have hnext := @Book.process_storable ⟨start⟩ hstart line hline
      rw [Book.process_eq] at hnext
      exact ih (fun other hother => hlines other (List.mem_cons_of_mem _ hother)) hnext shown hlater

end History

namespace Report

/-- Lines without line feeds are the pieces of what is written, and an empty piece
follows. -/
theorem pieces_ended {lines : List Text} (hlines : ∀ line ∈ lines, '\n' ∉ line) :
    Text.pieces '\n' (ended lines) = lines ++ [[]] := by
  induction lines with
  | nil => rfl
  | cons line lines ih =>
    have hsplit : ended (line :: lines) = line ++ '\n' :: ended lines := by simp [ended]
    rw [hsplit, Text.pieces_append_mark, Text.pieces_of_not_mem (hlines line List.mem_cons_self),
      ih fun other hother => hlines other (List.mem_cons_of_mem _ hother)]
    rfl

end Report

theorem Plan.results_text (plan : Plan) (source : Text) :
    plan.results (.ok source.toBytes) =
      (0, (Book.empty.processAll source.lines).2.flatMap plan.lines) := by
  simp only [results, Book.runFile_text, Book.run]

namespace Surroundings

/-- The plan of a run: what the arguments leave open the settings decide. -/
def plan (around : Surroundings) (tree : FileTree) (arguments : Arguments) : Plan :=
  Plan.choose arguments (Id.run (around.settle fun path => pure (tree.read path))).1
    around.terminal

/-- The filter that is given for the journal divides a character. -/
def Divided (around : Surroundings) : Prop :=
  ∃ log, around.journal = some log ∧ Journal.Filter.read log = .error .divided

theorem isSome_filter?_iff {around : Surroundings} {arguments : Arguments} :
    (Report.filter? arguments around.journal).isSome = true ↔ ¬ around.Divided := by
  unfold Report.filter? Divided
  cases around.journal with
  | none => simp
  | some log =>
    cases hread : Journal.Filter.read log with
    | ok filter => simp [hread]
    | error flaw => cases flaw <;> simp [hread]

/-- Without a filter nothing is run. -/
theorem answerIn_divided {around : Surroundings} {tree : FileTree} {words : List Text}
    {arguments : Arguments} (hwords : Request.read words = .run arguments)
    (hdivided : around.Divided) : around.answerIn tree words = Report.unfiltered := by
  have hfilter : Report.filter? arguments around.journal = none := by
    rw [← Option.not_isSome_iff_eq_none, isSome_filter?_iff, not_not]
    exact hdivided
  simp only [answerIn, answer, hwords, hfilter]
  rfl

/-- Such a filter has a rule with a blank before it and a character of more than one byte. -/
theorem Divided.exists_rule {around : Surroundings} (hdivided : around.Divided) :
    ∃ log, around.journal = some log ∧ ∃ rule ∈ log.pieces ',',
      (∃ c ∈ rule.head?, Text.isBlank c = true) ∧ ∃ c ∈ rule, c.utf8Size ≠ 1 := by
  obtain ⟨log, hjournal, hread⟩ := hdivided
  exact ⟨log, hjournal, Journal.Filter.read_eq_divided hread⟩

/-- A command line that asks for a run, with the form of output and the source that it
comes to. -/
def Runs (around : Surroundings) (tree : FileTree) (words : List Text) (format : Format)
    (source : Text) : Prop :=
  ∃ arguments, Request.read words = .run arguments ∧
    (around.plan tree arguments).format = format ∧
    tree.read (around.plan tree arguments).input = .ok source.toBytes

/-- The answer to a command line that asks for a run is that of its plan. -/
theorem answerIn_run {around : Surroundings} {tree : FileTree} {words : List Text}
    {arguments : Arguments} (hwords : Request.read words = .run arguments)
    (hdivided : ¬ around.Divided) :
    ((around.answerIn tree words).status, (around.answerIn tree words).results) =
      (around.plan tree arguments).results (tree.read (around.plan tree arguments).input) := by
  have hsome := (@isSome_filter?_iff around arguments).2 hdivided
  obtain ⟨filter, hfilter⟩ := Option.isSome_iff_exists.1 hsome
  have hanswer : around.answerIn tree words = Report.ofRun filter
      (Id.run (around.settle fun path => pure (tree.read path))).2 (around.plan tree arguments)
      (tree.read (around.plan tree arguments).input) := by
    simp only [answerIn, answer, hwords, hfilter]
    rfl
  rw [hanswer]
  rfl

theorem plan_colored {around : Surroundings} (hterminal : around.terminal = false)
    (tree : FileTree) (arguments : Arguments) :
    (around.plan tree arguments).colored = false := by
  simp [plan, Plan.choose, hterminal]

/-- A run away from a terminal writes what its source shows. -/
theorem results_of_runs {around : Surroundings} {tree : FileTree} {words : List Text}
    {format : Format} {source : Text} (hterminal : around.terminal = false)
    (hruns : around.Runs tree words format source) (hdivided : ¬ around.Divided) :
    (around.answerIn tree words).status = 0 ∧
      (around.answerIn tree words).results =
        (History.showings [] source.lines).map (Shown.inFormat format) := by
  obtain ⟨arguments, hwords, rfl, hsource⟩ := hruns
  have hreport := @answerIn_run around tree words arguments hwords hdivided
  rw [hsource, Plan.results_text, Plan.lines_processAll (plan_colored hterminal tree arguments)]
    at hreport
  exact Prod.mk.inj hreport

theorem answerIn_of_runs_divided {around : Surroundings} {tree : FileTree} {words : List Text}
    {format : Format} {source : Text} (hruns : around.Runs tree words format source)
    (hdivided : around.Divided) : around.answerIn tree words = Report.unfiltered := by
  obtain ⟨arguments, hwords, -⟩ := hruns
  exact answerIn_divided hwords hdivided

theorem not_mem_results {around : Surroundings} {tree : FileTree} {words : List Text}
    {format : Format} {source : Text} (hterminal : around.terminal = false)
    (hruns : around.Runs tree words format source) :
    ∀ line ∈ (around.answerIn tree words).results, '\n' ∉ line := by
  intro line hline
  by_cases hdivided : around.Divided
  · rw [answerIn_of_runs_divided hruns hdivided] at hline
    exact absurd hline List.not_mem_nil
  · rw [(results_of_runs hterminal hruns hdivided).2] at hline
    obtain ⟨shown, hshown, rfl⟩ := List.mem_map.1 hline
    exact History.not_mem_inFormat (fun _ => Text.not_mem_of_mem_lines)
      (fun _ hsaying => absurd hsaying List.not_mem_nil) format shown hshown

/-- What is written away from a terminal has one piece for each saying of a listing and one for
each rejected line, in the same places in every form of output, unless the journal's filter
divides a character: then nothing is written. -/
theorem output_lines {around : Surroundings} {tree : FileTree} {words : List Text}
    {format : Format} {source : Text} (hterminal : around.terminal = false)
    (hruns : around.Runs tree words format source) :
    let report := around.answerIn tree words
    (∀ line ∈ report.results, '\n' ∉ line) ∧
    (¬ around.Divided → report.status = 0 ∧
      Text.pieces '\n' (Report.ended report.results) =
        (History.showings [] source.lines).map (Shown.inFormat format) ++ [[]]) ∧
    (around.Divided → report.status = 101 ∧ report.results = []) ∧
    (around.Divided → ∃ log, around.journal = some log ∧ ∃ rule ∈ log.pieces ',',
      (∃ c ∈ rule.head?, Text.isBlank c = true) ∧ ∃ c ∈ rule, c.utf8Size ≠ 1) ∧
    ∀ (other : Surroundings) (there : FileTree) (phrases : List Text) (form : Format),
      other.terminal = false → (other.Divided ↔ around.Divided) →
      other.Runs there phrases form source →
        List.Forall₂ (fun left right =>
            (∃ fault : Fault, left = fault.message ∧ right = fault.message) ∨
              ∃ saying : Saying, left = saying.inFormat format ∧ right = saying.inFormat form)
          report.results (other.answerIn there phrases).results := by
  intro report
  have hplain := not_mem_results hterminal hruns
  have hunfiltered : around.Divided → report = Report.unfiltered :=
    answerIn_of_runs_divided hruns
  refine ⟨hplain, fun hdivided => ?_, fun hdivided => ?_, Divided.exists_rule, ?_⟩
  · obtain ⟨hstatus, hresults⟩ := results_of_runs hterminal hruns hdivided
    exact ⟨hstatus, by rw [Report.pieces_ended hplain, hresults]⟩
  · rw [hunfiltered hdivided]
    exact ⟨rfl, rfl⟩
  · intro other there phrases form hother hsame htoo
    by_cases hdivided : around.Divided
    · rw [hunfiltered hdivided, answerIn_of_runs_divided htoo (hsame.2 hdivided)]
      exact List.Forall₂.nil
    · have hresults := (results_of_runs hterminal hruns hdivided).2
      have hothers := (results_of_runs hother htoo (mt hsame.1 hdivided)).2
      rw [hresults, hothers, List.forall₂_map_left_iff, List.forall₂_map_right_iff]
      refine List.forall₂_same.2 fun shown _ => ?_
      cases shown with
      | rejected fault => exact Or.inl ⟨fault, rfl, rfl⟩
      | listed saying => exact Or.inr ⟨saying, rfl, rfl⟩

/-- A rejected line between two listings in both forms of output, and the run that a filter keeps
from beginning. -/
theorem output_lines_mixed :
    let source : Text := "ADD PROVERB;content=a;country=b\nPRINT\nSHOUT\nPRINT".toList
    let tree := (FileTree.empty []).put [['f']] (.file source.toBytes)
    let around : Surroundings := ⟨⟨none, none, none⟩, none, false⟩
    let divided : Surroundings := { around with journal := some "\xA0a=debug".toList }
    let listed := "[PROVERB] content=\"a\" country=\"b\"".toList
    Text.pieces '\n' (Report.ended (around.answerIn tree [['f']]).results) =
        [listed, "Invalid command in file: SHOUT".toList, listed, []] ∧
      (around.answerIn tree [['f']]).results.length =
        (around.answerIn tree [['f'], "--output=json".toList]).results.length ∧
      (divided.answerIn tree [['f']]).status = 101 := by
  intro source tree around divided listed
  have hruns : around.Runs tree [['f']] .text source := ⟨_, rfl, rfl, rfl⟩
  have htoo : around.Runs tree [['f'], "--output=json".toList] .json source := ⟨_, rfl, rfl, rfl⟩
  have hfiltered : divided.Runs tree [['f']] .text source := ⟨_, rfl, rfl, rfl⟩
  have hwhole : ¬ around.Divided := by
    rintro ⟨log, hlog, -⟩
    contradiction
  have hdivided : divided.Divided := ⟨_, rfl, by decide +kernel⟩
  obtain ⟨-, hpieces, -, -, hforms⟩ := @output_lines around tree [['f']] .text source rfl hruns
  refine ⟨?_, ?_, ?_⟩
  · rw [(hpieces hwhole).2]
    decide
  · exact (hforms around tree _ .json rfl Iff.rfl htoo).length_eq
  · exact ((@output_lines divided tree [['f']] .text source rfl hfiltered).2.2.1 hdivided).1

end Surroundings

end Commonplace
