/-
Removals one after the other.  Which sayings are left and which are reported to leave is up to
the conditions alone, and not to their order or to how often each of them comes.
-/
import Commonplace.Proofs.Session

namespace Commonplace

/-- None of the conditions picks out the saying. -/
def Saying.Spared (conditions : List Condition) (saying : Saying) : Prop :=
  ∀ condition ∈ conditions, condition.holds saying = false

instance (conditions : List Condition) (saying : Saying) :
    Decidable (saying.Spared conditions) :=
  inferInstanceAs (Decidable (∀ condition ∈ conditions, condition.holds saying = false))

theorem Saying.spared_cons {condition : Condition} {rest : List Condition} {saying : Saying} :
    saying.Spared (condition :: rest) ↔
      condition.holds saying = false ∧ saying.Spared rest :=
  List.forall_mem_cons

namespace Book

/-- Removes by one condition after the other. -/
def removeEach (book : Book) (conditions : List Condition) : Book × List Notice :=
  book.session (conditions.map .remove)

theorem step_remove (book : Book) (condition : Condition) :
    book.step (.remove condition) =
      (⟨book.sayings.filter fun saying => !condition.holds saying⟩,
        .outcome (.removed (book.sayings.filter condition.holds))) := by
  rw [step, execute, remove_eq]
  rfl

theorem removeEach_cons (book : Book) (condition : Condition) (rest : List Condition) :
    book.removeEach (condition :: rest) =
      (((book.step (.remove condition)).1.removeEach rest).1,
        (book.step (.remove condition)).2 ::
          ((book.step (.remove condition)).1.removeEach rest).2) := rfl

/-- Nothing is left but what every condition spares. -/
theorem removeEach_sayings (book : Book) (conditions : List Condition) :
    (book.removeEach conditions).1.sayings =
      book.sayings.filter fun saying => saying.Spared conditions := by
  induction conditions generalizing book with
  | nil => simp [removeEach, session, Saying.Spared]
  | cons condition rest ih =>
    rw [removeEach_cons, ih, step_remove, List.filter_filter]
    refine List.filter_congr fun saying _ => ?_
    simp [Saying.spared_cons, Bool.and_comm]

/-- A removal reports exactly what it finds, and that is what the conditions before it have
spared. -/
theorem removeEach_notice (book : Book) (earlier later : List Condition)
    (condition : Condition) :
    (book.removeEach (earlier ++ condition :: later)).2[earlier.length]? =
      some (.outcome (.removed (book.sayings.filter fun saying =>
        condition.holds saying ∧ saying.Spared earlier))) := by
  induction earlier generalizing book with
  | nil =>
    rw [List.nil_append, removeEach_cons, step_remove]
    simp [Saying.Spared]
  | cons first earlier ih =>
    rw [List.cons_append, removeEach_cons, List.length_cons, List.getElem?_cons_succ, ih,
      step_remove, List.filter_filter]
    refine congrArg (fun sayings => some (Notice.outcome (.removed sayings))) ?_
    refine List.filter_congr fun saying _ => ?_
    simp [Saying.spared_cons, Bool.and_comm, Bool.and_left_comm]

theorem removeEach_incoming (book : Book) (conditions : List Condition) :
    (book.removeEach conditions).2.flatMap Notice.incoming = [] := by
  induction conditions generalizing book with
  | nil => rfl
  | cons condition rest ih =>
    rw [removeEach_cons, List.flatMap_cons, ih, step_remove]
    rfl

/-- What is left and what is reported to leave is all that was there. -/
theorem removeEach_perm (book : Book) (conditions : List Condition) :
    ((book.removeEach conditions).1.sayings ++
      (book.removeEach conditions).2.flatMap Notice.outgoing).Perm book.sayings := by
  have hperm := book.session_perm (conditions.map .remove)
  rwa [← removeEach, removeEach_incoming, List.append_nil] at hperm

/-- Two batches with the same conditions leave the same, and report the same but for its order.
Each condition reports what those before it have spared, so one that came before reports
nothing. -/
theorem removeEach_same :
    (∀ (book : Book) (conditions others : List Condition),
      (∀ condition, condition ∈ conditions ↔ condition ∈ others) →
        (book.removeEach conditions).1 =
            ⟨book.sayings.filter fun saying => saying.Spared conditions⟩ ∧
          (book.removeEach others).1 = (book.removeEach conditions).1 ∧
          ((book.removeEach others).2.flatMap Notice.outgoing).Perm
            ((book.removeEach conditions).2.flatMap Notice.outgoing)) ∧
    ∀ (book : Book) (earlier later : List Condition) (condition : Condition),
      ∃ sayings, (book.removeEach (earlier ++ condition :: later)).2[earlier.length]? =
          some (.outcome (.removed sayings)) ∧
        sayings = book.sayings.filter (fun saying =>
          condition.holds saying ∧ saying.Spared earlier) ∧
        (condition ∈ earlier → sayings = []) := by
  constructor
  · intro book conditions others hsame
    have hspared : ∀ saying : Saying, saying.Spared others ↔ saying.Spared conditions :=
      fun saying => by simp only [Saying.Spared, hsame]
    have hleft : (book.removeEach others).1.sayings = (book.removeEach conditions).1.sayings := by
      simp only [removeEach_sayings, hspared]
    refine ⟨congrArg Book.mk (book.removeEach_sayings conditions), congrArg Book.mk hleft, ?_⟩
    have hothers := book.removeEach_perm others
    rw [hleft] at hothers
    exact (List.perm_append_left_iff _).1 (hothers.trans (book.removeEach_perm conditions).symm)
  · intro book earlier later condition
    refine ⟨_, book.removeEach_notice earlier later condition, rfl, fun hearlier => ?_⟩
    refine List.filter_eq_nil_iff.2 fun saying _ => ?_
    intro hpicked
    obtain ⟨hholds, hspared⟩ := of_decide_eq_true hpicked
    simp [hspared condition hearlier] at hholds

/-- Two conditions that pick out one saying together, in both orders and one of them twice. -/
theorem removeEach_same_overlapping :
    let first : Condition := ⟨"content".toList, "is".toList⟩
    let second : Condition := ⟨"author".toList, []⟩
    (sample.removeEach [second, first]).1 = (sample.removeEach [first, second, first]).1 ∧
      ((sample.removeEach [second, first]).2.flatMap Notice.outgoing).Perm
        ((sample.removeEach [first, second, first]).2.flatMap Notice.outgoing) ∧
      (sample.removeEach [first, second, first]).2[2]? = some (.outcome (.removed [])) := by
  intro first second
  have hsame := removeEach_same.1 sample [first, second, first] [second, first]
    (fun condition => by simp only [List.mem_cons, List.not_mem_nil, or_false]; tauto)
  obtain ⟨sayings, hnotice, -, hnothing⟩ := removeEach_same.2 sample [first, second] [] first
  refine ⟨hsame.2.1, hsame.2.2, ?_⟩
  rw [← hnothing List.mem_cons_self]
  exact hnotice

end Book

end Commonplace
