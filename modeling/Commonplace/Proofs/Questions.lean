/-
Taking sayings out by a test that carries something along.  The test is asked about each
saying once, in order, and its answers alone decide which places are taken out.
-/
import Commonplace.Book
import Commonplace.Proofs.Omission

namespace Commonplace

/-- A question that is put to a test: what the answers before it have left behind, and the
saying that it is about. -/
structure Question (σ : Type) where
  left : σ
  saying : Saying

section Questions

variable {σ τ : Type} (ask : σ → Saying → Bool × σ)

def Question.answer (question : Question σ) : Bool × σ := ask question.left question.saying

/-- Questions one after the other, each with what the answer to the one before it has left
behind. -/
inductive Threaded : σ → List (Question σ) → σ → Prop
  | nil (left : σ) : Threaded left [] left
  | cons {question : Question σ} {rest : List (Question σ)} {last : σ}
    (hrest : Threaded (question.answer ask).2 rest last) :
    Threaded question.left (question :: rest) last

/-- The sayings of the questions with an answer, each for its own question, whatever the
answers about equal sayings are. -/
def answered (answer : Bool) (questions : List (Question σ)) : List Saying :=
  (questions.filter fun question => (question.answer ask).1 == answer).map Question.saying

/-- The test together with a record of the questions that were put to it. -/
def recorded (left : σ × List (Question σ)) (saying : Saying) :
    Bool × σ × List (Question σ) :=
  let question : Question σ := ⟨left.1, saying⟩
  ((question.answer ask).1, (question.answer ask).2, left.2 ++ [question])

theorem answered_cons_self {answer : Bool} {question : Question σ}
    (hanswer : (question.answer ask).1 = answer) (rest : List (Question σ)) :
    answered ask answer (question :: rest) = question.saying :: answered ask answer rest := by
  simp [answered, hanswer]

theorem answered_cons_other {answer : Bool} {question : Question σ}
    (hanswer : (question.answer ask).1 ≠ answer) (rest : List (Question σ)) :
    answered ask answer (question :: rest) = answered ask answer rest := by
  simp [answered, hanswer]

namespace Book

theorem separate_cons (left : σ) (saying : Saying) (rest : List Saying) :
    separate ask left (saying :: rest) =
      let (removed, kept, last) := separate ask (ask left saying).2 rest
      if (ask left saying).1 then (saying :: removed, kept, last)
      else (removed, saying :: kept, last) := rfl

/-- A test whose answers can be told from what another one carries along separates alike. -/
theorem separate_of_view (other : τ → Saying → Bool × τ) (view : τ → σ)
    (hview : ∀ left saying, ask (view left) saying =
      ((other left saying).1, view (other left saying).2))
    (start : τ) (sayings : List Saying) :
    separate ask (view start) sayings =
      let (removed, kept, last) := separate other start sayings
      (removed, kept, view last) := by
  induction sayings generalizing start with
  | nil => rfl
  | cons saying rest ih =>
    rw [separate_cons, separate_cons, hview, ih]
    cases (other start saying).1 <;> rfl

/-- What is asked and what comes of it.  The record before is arbitrary, so that the questions
about the rest can be put behind the first one. -/
theorem exists_questions (start : σ) (sayings : List Saying) :
    ∃ (questions : List (Question σ)) (last : σ), Threaded ask start questions last ∧
      questions.map Question.saying = sayings ∧
      ∀ before, separate (recorded ask) (start, before) sayings =
        (answered ask true questions, answered ask false questions, last,
          before ++ questions) := by
  induction sayings generalizing start with
  | nil =>
    refine ⟨[], start, .nil start, rfl, fun before => ?_⟩
    rw [List.append_nil]
    rfl
  | cons saying rest ih =>
    let question : Question σ := ⟨start, saying⟩
    obtain ⟨questions, last, hthreaded, hsayings, hseparate⟩ := ih (question.answer ask).2
    refine ⟨question :: questions, last, .cons hthreaded, by simp [question, hsayings], ?_⟩
    intro before
    have hstep : recorded ask (start, before) saying =
        ((question.answer ask).1, (question.answer ask).2, before ++ [question]) := rfl
    rw [separate_cons, hstep, hseparate, List.append_assoc, List.singleton_append]
    cases hanswer : (question.answer ask).1 with
    | true =>
      rw [answered_cons_self ask hanswer, answered_cons_other ask (by simp [hanswer])]
      rfl
    | false =>
      rw [answered_cons_self ask hanswer, answered_cons_other ask (by simp [hanswer])]
      rfl

/-- A test that only counts takes out the places that it was made for. -/
theorem separate_counted (picked : Nat → Bool) (n : Nat) (sayings : List Saying) :
    separate (fun count _ => (picked count, count + 1)) n sayings =
      (without (fun k => !picked (n + k)) sayings, without (fun k => picked (n + k)) sayings,
        n + sayings.length) := by
  induction sayings generalizing n with
  | nil => rfl
  | cons saying rest ih =>
    have hshift : ∀ k, n + 1 + k = n + (k + 1) := fun k => by omega
    rw [separate_cons, ih]
    simp only [hshift, List.length_cons]
    cases hpicked : picked n <;> simp [without, hpicked]

/-- Taking out by a test asks about every saying once, in order, each time with what the answer
before has left behind.  The sayings whose own question was answered with yes are returned and
the others are left. -/
theorem removeWhere_by_answers :
    (∀ {σ : Type} (ask : σ → Saying → Bool × σ) (start : σ) (book : Book),
      ∃ (questions : List (Question σ)) (last : σ),
        questions.map Question.saying = book.sayings ∧ Threaded ask start questions last ∧
          book.removeWhere (recorded ask) (start, []) =
            (⟨answered ask false questions⟩, answered ask true questions, last, questions) ∧
          book.removeWhere ask start =
            (⟨answered ask false questions⟩, answered ask true questions, last)) ∧
      (∀ (picked : Nat → Bool) (book : Book),
        book.removeWhere (fun count _ => (picked count, count + 1)) 0 =
          (⟨without picked book.sayings⟩, without (fun k => !picked k) book.sayings,
            book.sayings.length)) ∧
      ∀ saying : Saying,
        Book.removeWhere ⟨[saying, saying]⟩ (fun count _ => (count == 1, count + 1)) 0 =
          (⟨[saying]⟩, [saying], 2) := by
  have hcounted : ∀ (picked : Nat → Bool) (book : Book),
      book.removeWhere (fun count _ => (picked count, count + 1)) 0 =
        (⟨without picked book.sayings⟩, without (fun k => !picked k) book.sayings,
          book.sayings.length) := by
    intro picked book
    rw [removeWhere, separate_counted]
    simp only [Nat.zero_add]
  refine ⟨?_, hcounted, fun saying => hcounted _ _⟩
  intro σ ask start book
  obtain ⟨questions, last, hthreaded, hsayings, hseparate⟩ :=
    exists_questions ask start book.sayings
  refine ⟨questions, last, hsayings, hthreaded, ?_, ?_⟩
  · rw [removeWhere, hseparate]
    rfl
  · have hview := separate_of_view ask (recorded ask) Prod.fst (fun _ _ => rfl)
      (start, []) book.sayings
    rw [removeWhere, hview, hseparate]

end Book

end Questions

end Commonplace
