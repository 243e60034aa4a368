/-
What named values answer: the value put last under a name.  Read from a text,
they answer for its segments, and blanks at the end of the text do not count.
-/
import Mathlib.Data.List.Basic
import Mathlib.Data.List.Induction
import Commonplace.Instruction
import Commonplace.Proofs.Blanks
import Commonplace.Proofs.Marks

namespace Commonplace

namespace Fields

/-- The value of the last entry with a name. -/
def lastValue? (entries : List (Text × Text)) (name : Text) : Option Text :=
  ((entries.filter fun entry => entry.1 = name).getLast?).map Prod.snd

theorem lastValue?_concat (entries : List (Text × Text)) (entry : Text × Text) (name : Text) :
    lastValue? (entries ++ [entry]) name =
      if name = entry.1 then some entry.2 else lastValue? entries name := by
  by_cases hname : name = entry.1
  · subst hname
    simp [lastValue?, List.filter_append]
  · simp [lastValue?, List.filter_append, hname, Ne.symm hname]

theorem lastValue?_append (first second : List (Text × Text)) (name : Text) :
    lastValue? (first ++ second) name =
      (lastValue? second name).or (lastValue? first name) := by
  simp only [lastValue?, List.filter_append, List.getLast?_append, Option.map_or]

theorem lastValue?_eq_none_iff {entries : List (Text × Text)} {name : Text} :
    lastValue? entries name = none ↔ ∀ entry ∈ entries, entry.1 ≠ name := by
  simp [lastValue?]

theorem lastValue?_eq_some_iff {entries : List (Text × Text)} {name value : Text} :
    lastValue? entries name = some value ↔
      ∃ earlier later, entries = earlier ++ (name, value) :: later ∧
        ∀ entry ∈ later, entry.1 ≠ name := by
  constructor
  · intro hlast
    induction entries using List.reverseRecOn with
    | nil => simp [lastValue?] at hlast
    | append_singleton entries entry ih =>
      rw [lastValue?_concat] at hlast
      split at hlast
      · next hname =>
        obtain rfl := Option.some.inj hlast
        exact ⟨entries, [], by simp [hname], by simp⟩
      · next hname =>
        obtain ⟨earlier, later, rfl, hlater⟩ := ih hlast
        refine ⟨earlier, later ++ [entry], by simp, ?_⟩
        intro other hother
        rcases List.mem_append.1 hother with hother | hother
        · exact hlater other hother
        · rw [List.mem_singleton.1 hother]
          exact Ne.symm hname
  · rintro ⟨earlier, later, rfl, hlater⟩
    have hnone := lastValue?_eq_none_iff.2 hlater
    rw [lastValue?_append, ← List.singleton_append, lastValue?_append, hnone]
    simp [lastValue?]

theorem mem_of_lastValue? {entries : List (Text × Text)} {name value : Text}
    (hlast : lastValue? entries name = some value) : (name, value) ∈ entries := by
  obtain ⟨earlier, later, rfl, -⟩ := lastValue?_eq_some_iff.1 hlast
  exact List.mem_append_right earlier List.mem_cons_self

/-- A name answers with the last entry that is put in under it, or else with what it had. -/
theorem get?_foldl_insert (entries : List (Text × Text)) (fields : Fields) (name : Text) :
    (entries.foldl (fun sofar entry => sofar.insert entry.1 entry.2) fields).get? name =
      (lastValue? entries name).or (fields.get? name) := by
  induction entries using List.reverseRecOn with
  | nil => rfl
  | append_singleton entries entry ih =>
    rw [List.foldl_append, List.foldl_cons, List.foldl_nil, get?_insert, ih,
      lastValue?_concat]
    by_cases hname : name = entry.1 <;> simp [hname]

/-- Of entries put in one after the other the last one with a name answers. -/
theorem get?_ofList (entries : List (Text × Text)) (name : Text) :
    (ofList entries).get? name = lastValue? entries name := by
  rw [ofList, get?_foldl_insert, get?_empty, Option.or_none]

theorem lookup_eq_some_iff {entries : List (Text × Text)}
    (hordered : entries.Pairwise fun first second => first.1 < second.1) {name value : Text} :
    entries.lookup name = some value ↔ (name, value) ∈ entries := by
  induction entries with
  | nil => simp
  | cons head rest ih =>
    obtain ⟨hhead, hrest⟩ := List.pairwise_cons.1 hordered
    rw [lookup_entry, List.mem_cons]
    by_cases hname : name = head.1
    · subst hname
      have hrestName : (head.1, value) ∉ rest := by
        intro hmem
        have hlt := hhead _ hmem
        exact List.lt_irrefl head.1 hlt
      simp [hrestName, Prod.ext_iff, eq_comm]
    · have hne : (name, value) ≠ head := fun heq => hname (heq ▸ rfl)
      simp [hname, hne, ih hrest]

theorem get?_eq_some_iff {fields : Fields} {name value : Text} :
    fields.get? name = some value ↔ (name, value) ∈ fields.entries :=
  lookup_eq_some_iff fields.ordered

/-- In ordered entries no name stands twice, so the last value is the only
one. -/
theorem lastValue?_of_ordered {entries : List (Text × Text)}
    (hordered : entries.Pairwise fun first second => first.1 < second.1) (name : Text) :
    lastValue? entries name = entries.lookup name := by
  apply Option.ext
  intro value
  rw [lookup_eq_some_iff hordered]
  constructor
  · exact mem_of_lastValue?
  · intro hmem
    have hlookup := (lookup_eq_some_iff hordered).2 hmem
    cases hlast : lastValue? entries name with
    | none => exact absurd rfl (lastValue?_eq_none_iff.1 hlast _ hmem)
    | some other =>
      rw [(lookup_eq_some_iff hordered).2 (mem_of_lastValue? hlast)] at hlookup
      exact hlookup

/-- Entries put in again, in their order, give the same fields. -/
@[simp]
theorem ofList_entries (fields : Fields) : ofList fields.entries = fields := by
  ext1 name
  rw [get?_ofList, lastValue?_of_ordered fields.ordered]
  rfl

theorem entry?_eq_none_iff {segment : Text} : entry? segment = none ↔ '=' ∉ segment := by
  constructor
  · intro hnone hmem
    obtain ⟨before, after, -, -, hcut⟩ := Text.cut?_of_mem hmem
    simp [ entry?, hcut] at hnone
  · intro hmem
    rw [ entry?, Text.cut?_of_not_mem hmem]
    rfl

/-- A named value stands around the first equals sign of its segment. -/
theorem entry?_eq_some_iff {segment name value : Text} :
    entry? segment = some (name, value) ↔
      ∃ before after, '=' ∉ before ∧ segment = before ++ '=' :: after ∧
        name = Text.strip before ∧ value = (Text.strip after).unquote := by
  constructor
  · intro hentry
    obtain ⟨⟨before, after⟩, hcut, hpair⟩ := Option.map_eq_some_iff.1 hentry
    obtain ⟨hbefore, hsegment⟩ := Text.of_cut?_eq_some hcut
    obtain ⟨rfl, rfl⟩ := Prod.mk.inj hpair
    exact ⟨before, after, hbefore, hsegment, rfl, rfl⟩
  · rintro ⟨before, after, hbefore, rfl, rfl, rfl⟩
    rw [ entry?, Text.cut?_first hbefore]
    rfl

theorem entry?_append_blank (segment : Text) {after : Text} (hafter : Text.Blank after) :
    entry? (segment ++ after) = entry? segment := by
  cases hentry : entry? segment with
  | none =>
    have hsegment := entry?_eq_none_iff.1 hentry
    have hblank := hafter.not_mem (c := '=') (by decide)
    exact entry?_eq_none_iff.2 (by simp [hsegment, hblank])
  | some entry =>
    obtain ⟨name, value⟩ := entry
    obtain ⟨left, right, hleft, rfl, rfl, rfl⟩ := entry?_eq_some_iff.1 hentry
    have hstrip := Text.strip_surrounded Text.blank_nil hafter right
    refine entry?_eq_some_iff.2 ⟨left, right ++ after, hleft, by simp, rfl, ?_⟩
    rw [← hstrip, List.nil_append]

theorem get?_read (written name : Text) :
    (read written).get? name = lastValue? ((written.pieces ';').filterMap entry?) name := by
  rw [read, get?_ofList]

theorem read_append_blank (written : Text) {after : Text} (hafter : Text.Blank after) :
    read (written ++ after) = read written := by
  have hplain := hafter.not_mem (c := ';') (by decide)
  obtain ⟨first, last, hwritten, hwhole⟩ := Text.exists_pieces_append hplain written
  rw [read, read, hwhole, hwritten]
  simp only [List.filterMap_append, List.filterMap_cons, entry?_append_blank last hafter]

theorem read_rdropWhile (written : Text) :
    read (written.rdropWhile Text.isBlank) = read written := by
  have hend : Text.Blank (written.rtakeWhile Text.isBlank) :=
    fun c hc => List.mem_rtakeWhile_imp hc
  have hread := read_append_blank (written.rdropWhile Text.isBlank) hend
  rw [List.rdropWhile_append_rtakeWhile] at hread
  exact hread.symm

theorem read_join {segments : List Text} (hplain : ∀ segment ∈ segments, ';' ∉ segment) :
    read (Text.join ';' segments) = ofList (segments.filterMap entry?) := by
  by_cases hne : segments = []
  · subst hne
    rfl
  · rw [read, Text.pieces_join hplain hne]

/-- What a text can give: names and values from between its marks. -/
theorem of_get?_read {written name value : Text} (hget : (read written).get? name = some value) :
    Text.Tight name ∧ ';' ∉ name ∧ '=' ∉ name ∧ ';' ∉ value ∧ value ⊆ written := by
  rw [get?_read] at hget
  obtain ⟨segment, hsegment, hentry⟩ := List.mem_filterMap.1 (mem_of_lastValue? hget)
  obtain ⟨before, after, hbefore, rfl, rfl, rfl⟩ := entry?_eq_some_iff.1 hentry
  have hplain := Text.not_mem_of_mem_pieces ';' written _ hsegment
  have hname : Text.strip before ⊆ before := Text.strip_subset before
  have hvalue : (Text.strip after).unquote ⊆ after :=
    List.Subset.trans (Text.unquote_subset _) (Text.strip_subset after)
  refine ⟨Text.strip_tight before, ?_, fun hmem => hbefore (hname hmem), ?_, ?_⟩
  · exact fun hmem => hplain (by simp [hname hmem])
  · exact fun hmem => hplain (by simp [hvalue hmem])
  · intro c hc
    exact Text.subset_of_mem_pieces hsegment (by simp [hvalue hc])

end Fields

end Commonplace
