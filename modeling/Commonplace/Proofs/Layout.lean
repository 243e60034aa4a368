/-
How a source is laid out.  A line counts for what stripping leaves of it, and a blank line
for nothing.  So a source may be cut in two at any line feed, and blanks before a line feed
or at the end of a source change nothing.
-/
import Commonplace.Proofs.Blanks
import Commonplace.Proofs.Marks
import Commonplace.Proofs.Omission
import Commonplace.Proofs.Verdict

namespace Commonplace

namespace Text

theorem strip_strip (t : Text) : strip (strip t) = strip t :=
  strip_of_tight (strip_tight t)

theorem strip_blank {t : Text} (ht : Blank t) : strip t = [] := by
  have hstrip := strip_surrounded ht blank_nil []
  rwa [List.append_nil, List.append_nil] at hstrip

theorem strip_append_blank {after : Text} (hafter : Blank after) (t : Text) :
    strip (t ++ after) = strip t := by
  have hstrip := strip_surrounded blank_nil hafter t
  simpa using hstrip

/-- The carriage return of a line end is a blank. -/
theorem strip_dropReturn (t : Text) : strip (dropReturn t) = strip t := by
  rw [dropReturn]
  split
  · next hlast =>
    have hsplit : t.dropLast ++ ['\r'] = t := List.dropLast_append_getLast? _ hlast
    have hreturn : Blank ['\r'] := by decide
    rw [← strip_append_blank hreturn, hsplit]
  · rfl

/-- The pieces between line feeds are the lines, and perhaps an empty piece at the end. -/
theorem exists_pieces_strip (t : Text) :
    ∃ rest : List Text, (∀ piece ∈ rest, piece = []) ∧
      (pieces '\n' t).map strip = t.lines.map strip ++ rest := by
  obtain hnil | ⟨first, last, hpieces⟩ := List.eq_nil_or_concat' (pieces '\n' t)
  · exact absurd hnil (pieces_ne_nil '\n' t)
  · have hfirst : (first.map dropReturn).map strip = first.map strip := by
      rw [List.map_map]
      exact List.map_congr_left fun piece _ => strip_dropReturn piece
    rw [lines, hpieces]
    simp only [List.dropLast_concat, List.getLastD_concat, List.map_append, hfirst]
    by_cases hlast : last = []
    · exact ⟨[[]], by simp, by simp [hlast, strip_blank]⟩
    · exact ⟨[], by simp, by simp [hlast]⟩

/-- A text with runs of blanks put in before some of its line feeds and at its end. -/
inductive Loosened : Text → Text → Prop
  | ending {gap : Text} (hgap : Blank gap) : Loosened [] gap
  | letter (c : Char) {t loose : Text} (h : Loosened t loose) : Loosened (c :: t) (c :: loose)
  | feed {gap t loose : Text} (hgap : Blank gap) (h : Loosened t loose) :
    Loosened ('\n' :: t) (gap ++ '\n' :: loose)

theorem Loosened.after {t loose : Text} (h : Loosened t loose) (first : Text) :
    Loosened (first ++ t) (first ++ loose) := by
  induction first with
  | nil => exact h
  | cons c first ih => exact ih.letter c

end Text

theorem Instruction.read_strip (line : Text) : read line.strip = read line := by
  simp only [read, Text.strip_strip]

namespace Book

theorem process_strip (book : Book) (line : Text) :
    book.process line.strip = book.process line := by
  rw [process, process, Instruction.read_strip]

theorem process_of_strip_eq_nil (book : Book) {line : Text} (hline : line.strip = []) :
    book.process line = (book, .silent) := by
  rw [← process_strip, hline]
  rfl

/-- Only what stripping leaves of the lines is run. -/
theorem processAll_map_strip (book : Book) (lines : List Text) :
    book.processAll (lines.map Text.strip) = book.processAll lines := by
  induction lines generalizing book with
  | nil => rfl
  | cons line rest ih => simp only [List.map_cons, processAll_cons, process_strip, ih]

theorem processAll_empty (book : Book) {lines : List Text} (hlines : ∀ line ∈ lines, line = []) :
    book.processAll lines = (book, []) := by
  induction lines with
  | nil => rfl
  | cons line rest ih =>
    obtain rfl := hlines line List.mem_cons_self
    have hrest := ih fun other hother => hlines other (List.mem_cons_of_mem _ hother)
    rw [processAll_cons, process_of_strip_eq_nil book rfl, hrest]
    rfl

/-- Whichever lines are left out, those of a text are run as its pieces are. -/
theorem processAll_without_pieces (book : Book) (gone : Nat → Bool) (t : Text) :
    book.processAll (without gone (Text.pieces '\n' t)) =
      book.processAll (without gone t.lines) := by
  obtain ⟨rest, hrest, hpieces⟩ := Text.exists_pieces_strip t
  have hempty : ∀ line ∈ without (fun n => gone (n + (t.lines.map Text.strip).length)) rest,
      line = [] := fun line hline => hrest line ((without_sublist _ rest).subset hline)
  rw [← processAll_map_strip, ← without_map, hpieces, without_append, processAll_append,
    processAll_empty _ hempty, List.append_nil, without_map, processAll_map_strip]

theorem run_eq_pieces (book : Book) (t : Text) :
    book.run t = book.processAll (Text.pieces '\n' t) := by
  have hlines := book.processAll_without_pieces (fun _ => false) t
  rw [without_false, without_false] at hlines
  exact hlines.symm

/-- A source is run line feed by line feed. -/
theorem run_append_feed (book : Book) (first second : Text) :
    book.run (first ++ '\n' :: second) =
      (((book.run first).1.run second).1,
        (book.run first).2 ++ ((book.run first).1.run second).2) := by
  simp only [run_eq_pieces, Text.pieces_append_mark, processAll_append]

@[simp]
theorem run_nil (book : Book) : book.run [] = (book, []) := rfl

/-- A character that is a blank and no line feed goes into the last line, which does not
count it. -/
theorem run_append_blank_char (book : Book) {c : Char} (hc : Text.isBlank c = true)
    (hfeed : c ≠ '\n') (t : Text) : book.run (t ++ [c]) = book.run t := by
  have hmark : '\n' ∉ [c] := by simpa using hfeed.symm
  have hblank : Text.Blank [c] := by simpa [Text.Blank] using hc
  obtain ⟨first, last, ht, hwhole⟩ := Text.exists_pieces_append hmark t
  rw [run_eq_pieces, run_eq_pieces, ht, hwhole, ← processAll_map_strip,
    ← book.processAll_map_strip (first ++ [last])]
  simp only [List.map_append, List.map_cons, List.map_nil, Text.strip_append_blank hblank]

/-- Blanks at the end of a source are not run. -/
theorem run_append_blank (book : Book) {gap : Text} (hgap : Text.Blank gap) (t : Text) :
    book.run (t ++ gap) = book.run t := by
  induction gap generalizing book t with
  | nil => rw [List.append_nil]
  | cons c gap ih =>
    have hc : Text.isBlank c = true := hgap c List.mem_cons_self
    have hrest : Text.Blank gap := fun d hd => hgap d (List.mem_cons_of_mem _ hd)
    by_cases hfeed : c = '\n'
    · have hend := ih (book.run t).1 hrest []
      rw [List.nil_append, run_nil] at hend
      rw [hfeed, run_append_feed, hend, List.append_nil]
    · rw [List.append_cons, ih book hrest, run_append_blank_char book hc hfeed]

/-- What was read before a place where blanks were put in is kept in front, so that the
induction can take the place for the end of a source. -/
theorem run_append_loosened (book : Book) {source loose : Text}
    (hloose : source.Loosened loose) (front : Text) :
    book.run (front ++ loose) = book.run (front ++ source) := by
  induction hloose generalizing book front with
  | ending hgap => rw [run_append_blank book hgap, List.append_nil]
  | letter c _ ih =>
    rw [List.append_cons, ih, ← List.append_cons]
  | feed hgap _ ih =>
    have hrest := ih (book.run front).1 []
    rw [List.nil_append, List.nil_append] at hrest
    rw [← List.append_assoc, run_append_feed, run_append_blank book hgap, hrest,
      run_append_feed]

/-- A source of one line does what the line does. -/
theorem run_line (book : Book) {line : Text} (hline : '\n' ∉ line) :
    book.run line =
      ((book.process line).1, [(book.process line).2].filter Outcome.isReportable) := by
  rw [run_eq_pieces, Text.pieces_of_not_mem hline, processAll_cons, processAll_nil,
    List.append_nil]

/-- Two sources with a line feed between them are run as one after the other, and a source with
blanks put in before line feeds and at the end as without them. -/
theorem run_layout :
    (∀ (book : Book) (line : Text), '\n' ∉ line →
      book.run line =
        ((book.process line).1, [(book.process line).2].filter Outcome.isReportable)) ∧
    (∀ (book : Book) (first second : Text),
      book.run (first ++ '\n' :: second) =
        let (middle, early) := book.run first
        let (last, late) := middle.run second
        (last, early ++ late)) ∧
    ∀ (book : Book) (source loose : Text), source.Loosened loose →
      book.run loose = book.run source := by
  refine ⟨?_, run_append_feed, ?_⟩
  · exact fun book _ => book.run_line
  · intro book source loose hloose
    exact run_append_loosened book hloose []

/-- One line, and line ends with carriage returns, a blank line between them, and blanks at
the end. -/
theorem run_layout_returns :
    let adding : Text := "ADD PROVERB;content=a;country=b".toList
    let source := adding ++ '\n' :: "PRINT".toList
    let loose := adding ++ ("\u2003\n\r".toList ++ '\n' :: ("PRINT".toList ++ "\r\n\t".toList))
    '\n' ∉ adding ∧ Book.empty.run adding = (⟨[⟨.proverb, ['a'], ['b']⟩]⟩, []) ∧
      source.Loosened loose ∧
      Book.empty.run loose =
        (⟨[⟨.proverb, ['a'], ['b']⟩]⟩, [.listed [⟨.proverb, ['a'], ['b']⟩]]) := by
  intro adding source loose
  have hadding : '\n' ∉ adding := by decide
  have hend : Text.Loosened "PRINT".toList ("PRINT".toList ++ "\r\n\t".toList) :=
    (Text.Loosened.ending (by decide)).after "PRINT".toList
  have hloose : source.Loosened loose := (hend.feed (by decide)).after adding
  refine ⟨hadding, ?_, hloose, ?_⟩
  · rw [run_layout.1 Book.empty adding hadding]
    decide
  · rw [run_layout.2.2 Book.empty source loose hloose]
    decide

end Book

end Commonplace
