/-
Named values read from a text as an override: what is read from a later part is put over what
is read from an earlier one, so the last segment with a name decides about that name.
-/
import Mathlib.Data.List.Perm.Basic
import Commonplace.Proofs.NamedValues

namespace Commonplace

namespace Fields

/-- The fields with every entry of others put over them. -/
def override (fields others : Fields) : Fields :=
  others.entries.foldl (fun sofar entry => sofar.insert entry.1 entry.2) fields

theorem get?_override (fields others : Fields) (name : Text) :
    (fields.override others).get? name = (others.get? name).or (fields.get? name) := by
  rw [override, get?_foldl_insert, lastValue?_of_ordered others.ordered]
  rfl

/-- Putting fields over themselves changes nothing. -/
@[simp]
theorem override_self (fields : Fields) : fields.override fields = fields := by
  ext1 name
  rw [get?_override, Option.or_self]

/-- What stands behind a semicolon is put over what stands before it. -/
theorem read_append_mark (left right : Text) :
    read (left ++ ';' :: right) = (read left).override (read right) := by
  ext1 name
  rw [get?_override, get?_read, get?_read, get?_read, Text.pieces_append_mark,
    List.filterMap_append, lastValue?_append]

/-- A segment gives a name a value: the texts before and after its first equals sign, both
stripped, and the value without a pair of marks around it. -/
def Gives (segment name value : Text) : Prop :=
  ∃ before after, '=' ∉ before ∧ segment = before ++ '=' :: after ∧
    name = Text.strip before ∧ value = (Text.strip after).unquote

theorem gives_iff {segment name value : Text} :
    Gives segment name value ↔ entry? segment = some (name, value) :=
  entry?_eq_some_iff.symm

/-- The name in a segment, if it gives one a value. -/
def name? (segment : Text) : Option Text := ( entry? segment).map Prod.fst

theorem name?_eq_some_iff {segment name : Text} :
    name? segment = some name ↔ ∃ value, Gives segment name value := by
  simp [name?, gives_iff]

theorem names_filterMap_iff {segments : List Text} {name : Text} :
    (∀ entry ∈ segments.filterMap entry?, entry.1 ≠ name) ↔
      ∀ segment ∈ segments, ∀ value, ¬ Gives segment name value := by
  constructor
  · intro hnames segment hsegment value hgives
    exact hnames (name, value) (List.mem_filterMap.2 ⟨segment, hsegment, gives_iff.1 hgives⟩) rfl
  · rintro hgives ⟨_, value⟩ hentry rfl
    obtain ⟨segment, hsegment, hsome⟩ := List.mem_filterMap.1 hentry
    exact hgives segment hsegment value (gives_iff.2 hsome)

theorem get?_read_eq_none_iff {written name : Text} :
    (read written).get? name = none ↔
      ∀ segment ∈ written.pieces ';', ∀ value, ¬ Gives segment name value := by
  rw [get?_read, lastValue?_eq_none_iff, names_filterMap_iff]

/-- The last segment that gives a name a value gives it the value that is read. -/
theorem get?_read_eq_some_iff {written name value : Text} :
    (read written).get? name = some value ↔
      ∃ earlier segment later, written.pieces ';' = earlier ++ segment :: later ∧
        Gives segment name value ∧
        ∀ other ∈ later, ∀ another, ¬ Gives other name another := by
  rw [get?_read, lastValue?_eq_some_iff]
  constructor
  · rintro ⟨first, last, hentries, hlast⟩
    obtain ⟨earlier, rest, hpieces, -, hrest⟩ := List.filterMap_eq_append_iff.1 hentries
    obtain ⟨junk, segment, later, rfl, -, hsegment, rfl⟩ := List.filterMap_eq_cons_iff.1 hrest
    refine ⟨earlier ++ junk, segment, later, ?_, gives_iff.2 hsegment,
      names_filterMap_iff.1 hlast⟩
    rw [hpieces, List.append_assoc]
  · rintro ⟨earlier, segment, later, hpieces, hgives, hlater⟩
    refine ⟨earlier.filterMap entry?, later.filterMap entry?, ?_,
      names_filterMap_iff.2 hlater⟩
    rw [hpieces, List.filterMap_append, List.filterMap_cons, gives_iff.1 hgives]

/-- The segments that give a name a value. -/
def naming (name : Text) (segments : List Text) : List Text :=
  segments.filter fun segment => name? segment = some name

theorem filter_filterMap_entry? (name : Text) (segments : List Text) :
    (segments.filterMap entry?).filter (fun entry => entry.1 = name) =
      (naming name segments).filterMap entry? := by
  induction segments with
  | nil => rfl
  | cons segment rest ih =>
    cases hentry : entry? segment with
    | none => simpa [naming, name?, hentry] using ih
    | some entry =>
      by_cases hname : entry.1 = name
      · simpa [naming, name?, hentry, hname] using ih
      · simpa [naming, name?, hentry, hname] using ih

/-- Nothing counts but, for each name, which segments give it a value, and in which order. -/
theorem read_eq_of_naming {written other : Text}
    (hnaming : ∀ name, naming name (other.pieces ';') = naming name (written.pieces ';')) :
    read other = read written := by
  ext1 name
  rw [get?_read, get?_read, lastValue?, lastValue?, filter_filterMap_entry?,
    filter_filterMap_entry?, hnaming]

/-- No name is given a value by both segments. -/
def Distinct (first second : Text) : Prop :=
  ∀ name value other, Gives first name value → ¬ Gives second name other

theorem distinct_iff {first second : Text} :
    Distinct first second ↔ ∀ name ∈ name? first, name? second ≠ some name := by
  simp only [Option.mem_def, ne_eq, name?_eq_some_iff]
  constructor
  · rintro hdistinct name ⟨value, hfirst⟩ ⟨other, hsecond⟩
    exact hdistinct name value other hfirst hsecond
  · intro hnames name value other hfirst hsecond
    exact hnames name ⟨value, hfirst⟩ ⟨other, hsecond⟩

instance (first second : Text) : Decidable (Distinct first second) :=
  decidable_of_iff (∀ name ∈ name? first, name? second ≠ some name) distinct_iff.symm

/-- Among segments with distinct names at most one gives a name a value, so it does not matter
in which order they stand. -/
theorem naming_perm {segments reordered : List Text} (hperm : segments.Perm reordered)
    (hdistinct : segments.Pairwise Distinct) (name : Text) :
    naming name reordered = naming name segments := by
  have hsame : (naming name segments).Perm (naming name reordered) := hperm.filter _
  have hapart : (naming name segments).Pairwise Distinct := hdistinct.filter _
  have hnames : ∀ segment ∈ naming name segments, ∃ value, Gives segment name value :=
    fun segment hsegment => name?_eq_some_iff.1 (by simpa using (List.mem_filter.1 hsegment).2)
  match hnaming : naming name segments with
  | [] =>
    rw [hnaming] at hsame
    exact hsame.nil_eq.symm
  | [segment] =>
    rw [hnaming] at hsame
    exact List.perm_singleton.1 hsame.symm
  | first :: second :: rest =>
    rw [hnaming] at hapart hnames
    obtain ⟨value, hfirst⟩ := hnames first List.mem_cons_self
    obtain ⟨other, hsecond⟩ := hnames second (List.mem_cons_of_mem _ List.mem_cons_self)
    have hne := (List.pairwise_cons.1 hapart).1 second List.mem_cons_self
    exact absurd hsecond (hne name value other hfirst)

/-- Segments without an equals sign give nothing a value. -/
theorem naming_marked (name : Text) (segments : List Text) :
    naming name (segments.filter fun segment => '=' ∈ segment) = naming name segments := by
  rw [naming, naming, List.filter_filter]
  refine List.filter_congr fun segment _ => ?_
  by_cases hmark : '=' ∈ segment
  · simp [hmark]
  · simp [name?, entry?_eq_none_iff.2 hmark]

/-- A text written several times is read as it is read once. -/
theorem read_replicate (written : Text) (n : Nat) :
    read (Text.join ';' (List.replicate (n + 1) written)) = read written := by
  induction n with
  | zero => rw [Text.join, List.replicate_one, List.intercalate_singleton]
  | succ n ih =>
    have hjoin : Text.join ';' (List.replicate (n + 1 + 1) written) =
        written ++ ';' :: Text.join ';' (List.replicate (n + 1) written) := by
      simp [Text.join, List.replicate_succ, List.intercalate_cons_cons]
    rw [hjoin, read_append_mark, ih, override_self]

/-- Reading puts later named values over earlier ones, so a name answers with what the last
segment that gives it a value gives it, and not at all if there is no such segment. -/
theorem read_as_override :
    (∀ left right : Text, read (left ++ ';' :: right) = (read left).override (read right) ∧
      ∀ name, (read (left ++ ';' :: right)).get? name =
        ((read right).get? name).or ((read left).get? name)) ∧
    (∀ written name value : Text, (read written).get? name = some value ↔
      ∃ earlier segment later, written.pieces ';' = earlier ++ segment :: later ∧
        Gives segment name value ∧ ∀ other ∈ later, ∀ another, ¬ Gives other name another) ∧
    (∀ written name : Text, (read written).get? name = none ↔
      ∀ segment ∈ written.pieces ';', ∀ value, ¬ Gives segment name value) ∧
    (∀ (written other : Text) (first segments reordered last : List Text),
      written.pieces ';' = first ++ segments ++ last →
      other.pieces ';' = first ++ reordered ++ last →
      segments.Perm reordered → segments.Pairwise Distinct → read other = read written) ∧
    (∀ (written : Text) (n : Nat),
      read (Text.join ';' (List.replicate (n + 1) written)) = read written) ∧
    ∀ written other : Text,
      (other.pieces ';').filter (fun segment => '=' ∈ segment) =
        (written.pieces ';').filter (fun segment => '=' ∈ segment) → read other = read written := by
  refine ⟨?_, fun _ _ _ => get?_read_eq_some_iff, fun _ _ => get?_read_eq_none_iff, ?_,
    read_replicate, ?_⟩
  · intro left right
    have hread := read_append_mark left right
    exact ⟨hread, fun name => by rw [hread, get?_override]⟩
  · intro written other first segments reordered last hwritten hother hperm hdistinct
    refine read_eq_of_naming fun name => ?_
    have hmiddle := naming_perm hperm hdistinct name
    rw [hwritten, hother]
    simp only [naming, List.filter_append] at hmiddle ⊢
    rw [hmiddle]
  · intro written other hmarked
    refine read_eq_of_naming fun name => ?_
    rw [← naming_marked, hmarked, naming_marked]

/-- Two segments change places before one that names the first of them again, and junk comes in
between and at the end. -/
theorem read_as_override_reordered :
    let written : Text := "a=\"x=y\";b=1; a =2".toList
    let reordered : Text := "b=1;a=\"x=y\"; a =2".toList
    let longer : Text := "a=\"x=y\";junk;b=1; a =2;".toList
    read reordered = read written ∧ read longer = read written ∧
      (read written).get? "a".toList = some "2".toList := by
  intro written reordered longer
  obtain ⟨-, hlast, -, hreordered, -, hjunk⟩ := read_as_override
  refine ⟨?_, hjunk written longer (by decide), ?_⟩
  · exact hreordered written reordered [] ["a=\"x=y\"".toList, "b=1".toList]
      ["b=1".toList, "a=\"x=y\"".toList] [" a =2".toList] (by decide) (by decide)
      (List.Perm.swap _ _ []) (by decide)
  · refine (hlast written _ _).2 ⟨["a=\"x=y\"".toList, "b=1".toList], " a =2".toList, [],
      by decide, ?_, by simp⟩
    exact ⟨" a ".toList, "2".toList, by decide, by decide, by decide, by decide⟩

end Fields

end Commonplace
