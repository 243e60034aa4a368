/-
Conditions that pick out whatever others do.  A part that stands in another one is found
wherever the other is, so of two conditions on one field the shorter leaves the longer
nothing to remove.
-/
import Mathlib.Data.List.Infix
import Commonplace.Proofs.Batches
import Commonplace.Proofs.Making

namespace Commonplace

namespace Condition

/-- One condition picks out every saying that another one picks out. -/
def Covers (wide narrow : Condition) : Prop :=
  ∀ saying, narrow.holds saying = true → wide.holds saying = true

theorem shorter_covers {short long : Text} (hparts : short <:+: long) (field : Text) :
    Covers ⟨field, short⟩ ⟨field, long⟩ := by
  intro saying hlong
  obtain ⟨value, hvalue, hinfix⟩ := Saying.mentions_iff.1 hlong
  exact Saying.mentions_iff.2 ⟨value, hvalue, hparts.trans hinfix⟩

theorem Covers.spares {wide narrow : Condition} (h : wide.Covers narrow) {saying : Saying}
    (hwide : wide.holds saying = false) : narrow.holds saying = false := by
  rw [Bool.eq_false_iff] at hwide ⊢
  exact fun hnarrow => hwide (h saying hnarrow)

/-- Every value contains the empty part. -/
theorem holds_nil_iff {field : Text} {saying : Saying} :
    holds ⟨field, []⟩ saying = false ↔ saying.field? field = none := by
  rw [Bool.eq_false_iff, holds, ne_eq, Saying.mentions_iff, Option.eq_none_iff_forall_not_mem]
  simp

/-- Under a name that a saying does not carry no part is found. -/
theorem spares_without_field {field : Text} {saying : Saying}
    (hfield : saying.field? field = none) (part : Text) :
    holds ⟨field, part⟩ saying = false :=
  (shorter_covers List.nil_infix field).spares (holds_nil_iff.2 hfield)

end Condition

namespace Book

variable {wide narrow : Condition}

theorem remove_of_spared {book : Book} {condition : Condition}
    (hspared : ∀ saying ∈ book.sayings, condition.holds saying = false) :
    book.remove condition = (book, []) := by
  have hkept : (book.sayings.filter fun saying => !condition.holds saying) = book.sayings :=
    List.filter_eq_self.2 fun saying hsaying => by rw [hspared saying hsaying]; rfl
  have hremoved : book.sayings.filter condition.holds = [] :=
    List.filter_eq_nil_iff.2 fun saying hsaying => by rw [hspared saying hsaying]; decide
  rw [remove_eq, hkept, hremoved]

theorem spared_of_mem_remove {book : Book} {condition : Condition} {saying : Saying}
    (hsaying : saying ∈ (book.remove condition).1.sayings) :
    condition.holds saying = false := by
  rw [remove_eq] at hsaying
  simpa using (List.mem_filter.1 hsaying).2

theorem remove_sublist_of_covers (h : wide.Covers narrow) (book : Book) :
    (book.remove narrow).2.Sublist (book.remove wide).2 := by
  rw [remove_eq, remove_eq]
  exact List.monotone_filter_right book.sayings h

/-- After a removal nothing is left for a condition that it covers. -/
theorem remove_covered (h : wide.Covers narrow) (book : Book) :
    (book.remove wide).1.remove narrow = ((book.remove wide).1, []) :=
  remove_of_spared fun _ hsaying => h.spares (spared_of_mem_remove hsaying)

/-- Before a removal it makes no difference to remove what it covers. -/
theorem remove_covering (h : wide.Covers narrow) (book : Book) :
    ((book.remove narrow).1.remove wide).1 = (book.remove wide).1 := by
  simp only [remove_eq, List.filter_filter]
  refine congrArg Book.mk (List.filter_congr fun saying _ => ?_)
  cases hwide : wide.holds saying with
  | true => rfl
  | false => rw [h.spares hwide]; rfl

/-- Conditions one after the other remove nothing where each of them spares everything. -/
theorem removeEach_of_spared {book : Book} {conditions : List Condition}
    (hspared : ∀ condition ∈ conditions, ∀ saying ∈ book.sayings,
      condition.holds saying = false) :
    book.removeEach conditions =
      (book, conditions.map fun _ => .outcome (.removed [])) := by
  induction conditions with
  | nil => rfl
  | cons condition rest ih =>
    obtain ⟨hfirst, hrest⟩ := List.forall_mem_cons.1 hspared
    have hstep : book.step (.remove condition) = (book, .outcome (.removed [])) := by
      rw [step, execute, remove_of_spared hfirst]
      rfl
    rw [removeEach_cons, hstep, ih hrest, List.map_cons]

/-- The empty part leaves exactly the sayings that do not carry the field. -/
theorem remove_nil_sayings (book : Book) (field : Text) :
    (book.remove ⟨field, []⟩).1.sayings =
      book.sayings.filter fun saying => saying.field? field = none := by
  rw [remove_eq]
  refine List.filter_congr fun saying _ => Bool.eq_iff_iff.2 ?_
  rw [Bool.not_eq_true', Condition.holds_nil_iff, decide_eq_true_iff]

/-- A saying that does not carry the field is spared by whatever part is looked for in it. -/
theorem remove_keeps_without_field (book : Book) (field part : Text) :
    (book.remove ⟨field, part⟩).1.sayings.filter (fun saying => saying.field? field = none) =
      book.sayings.filter fun saying => saying.field? field = none := by
  simp only [remove_eq, List.filter_filter]
  refine List.filter_congr fun saying _ => ?_
  cases hfield : saying.field? field with
  | none => simp [Condition.spares_without_field hfield]
  | some value => simp

/-- The longer of two parts removes nothing that the shorter one does not, so after the shorter it
removes nothing, and before it, it makes no difference.  The empty part leaves exactly the
sayings without the name. -/
theorem remove_shorter_subsumes :
    (∀ (book : Book) (field short long : Text), short <:+: long →
      (book.remove ⟨field, long⟩).2.Sublist (book.remove ⟨field, short⟩).2 ∧
        (book.remove ⟨field, short⟩).1.remove ⟨field, long⟩ =
          ((book.remove ⟨field, short⟩).1, []) ∧
        ((book.remove ⟨field, long⟩).1.remove ⟨field, short⟩).1 =
          (book.remove ⟨field, short⟩).1) ∧
    (∀ (book : Book) (field : Text),
      (book.remove ⟨field, []⟩).1.sayings =
          (book.sayings.filter fun saying => saying.field? field = none) ∧
        ∀ parts : List Text,
          (book.remove ⟨field, []⟩).1.removeEach (parts.map (Condition.mk field)) =
            ((book.remove ⟨field, []⟩).1, parts.map fun _ => .outcome (.removed []))) ∧
    ∀ (later : Book) (field part : Text),
      (later.remove ⟨field, part⟩).1.sayings.filter (fun saying => saying.field? field = none) =
          (later.sayings.filter fun saying => saying.field? field = none) ∧
        ∀ saying ∈ (later.remove ⟨field, part⟩).2, saying.field? field ≠ none := by
  refine ⟨?_, ?_, ?_⟩
  · intro book field short long hparts
    have hcovers := Condition.shorter_covers hparts field
    exact ⟨remove_sublist_of_covers hcovers book, remove_covered hcovers book,
      remove_covering hcovers book⟩
  · intro book field
    refine ⟨book.remove_nil_sayings field, fun parts => ?_⟩
    have hspared : ∀ condition ∈ parts.map (Condition.mk field),
        ∀ saying ∈ (book.remove ⟨field, []⟩).1.sayings, condition.holds saying = false := by
      intro condition hcondition saying hsaying
      obtain ⟨part, -, rfl⟩ := List.mem_map.1 hcondition
      exact Condition.spares_without_field
        (Condition.holds_nil_iff.1 (spared_of_mem_remove hsaying)) part
    rw [removeEach_of_spared hspared, List.map_map]
    rfl
  · intro later field part
    refine ⟨later.remove_keeps_without_field field part, fun saying hsaying hnone => ?_⟩
    rw [remove_eq] at hsaying
    have hholds := (List.mem_filter.1 hsaying).2
    simp [Condition.spares_without_field hnone] at hholds

/-- A part in the middle of another one, in a field that every saying carries, and a field
that half of them do. -/
theorem remove_shorter_subsumes_sample :
    let short : Condition := ⟨"content".toList, "is".toList⟩
    let long : Condition := ⟨"content".toList, "e is p".toList⟩
    (sample.remove short).1.remove long = ((sample.remove short).1, []) ∧
      ((sample.remove long).1.remove short).1 = (sample.remove short).1 ∧
      (sample.remove long).2.Sublist (sample.remove short).2 ∧
      ∀ saying ∈ (sample.remove ⟨"author".toList, "a".toList⟩).2,
        saying.field? "author".toList ≠ none := by
  intro short long
  have hparts : "is".toList <:+: "e is p".toList := ⟨"e ".toList, " p".toList, rfl⟩
  obtain ⟨hsublist, hcovered, hcovering⟩ :=
    remove_shorter_subsumes.1 sample "content".toList _ _ hparts
  exact ⟨hcovered, hcovering, hsublist, (remove_shorter_subsumes.2.2 sample _ _).2⟩

end Book

end Commonplace
