/-
The book: sayings in the order in which they came, repeated ones as often as
they came.
-/
import Commonplace.Instruction

namespace Commonplace

structure Book where
  sayings : List Saying
deriving DecidableEq

namespace Book

def empty : Book := ⟨[]⟩

def append (book : Book) (saying : Saying) : Book := ⟨book.sayings ++ [saying]⟩

/-- Asks about each saying once, in order, handing on what the answers leave
behind, and separates the sayings to be removed from those to be kept. -/
def separate {σ : Type} (ask : σ → Saying → Bool × σ) :
    σ → List Saying → List Saying × List Saying × σ
  | left, [] => ([], [], left)
  | left, saying :: rest =>
    let (removes, left) := ask left saying
    let (removed, kept, left) := separate ask left rest
    if removes then (saying :: removed, kept, left) else (removed, saying :: kept, left)

/-- The book without the sayings that a test picks out, those sayings, and what
the test leaves behind. -/
def removeWhere {σ : Type} (book : Book) (ask : σ → Saying → Bool × σ) (start : σ) :
    Book × List Saying × σ :=
  let (removed, kept, left) := separate ask start book.sayings
  (⟨kept⟩, removed, left)

/-- The book without the sayings for which a condition holds, and those
sayings. -/
def remove (book : Book) (condition : Condition) : Book × List Saying :=
  let (kept, removed, _) :=
    book.removeWhere (fun (_ : Unit) saying => (condition.holds saying, ())) ()
  (kept, removed)

/-- A test that leaves nothing behind picks out what a filter would. -/
theorem separate_stateless (test : Saying → Bool) (sayings : List Saying) :
    separate (fun (_ : Unit) saying => (test saying, ())) () sayings =
      (sayings.filter test, sayings.filter (fun saying => !test saying), ()) := by
  induction sayings with
  | nil => rfl
  | cons saying rest ih =>
    simp only [separate, ih]
    by_cases htest : test saying <;> simp [htest]

/-- Removing is filtering. -/
theorem remove_eq (book : Book) (condition : Condition) :
    book.remove condition =
      (⟨book.sayings.filter fun saying => !condition.holds saying⟩,
        book.sayings.filter condition.holds) := by
  rw [remove, removeWhere, separate_stateless]

/-- Two aphorisms and two proverbs. -/
def sample : Book :=
  ⟨[⟨.aphorism, "Knowledge is power".toList, "Francis Bacon".toList⟩,
    ⟨.aphorism, "I think, therefore I am".toList, "Rene Descartes".toList⟩,
    ⟨.proverb, "No pain, no gain".toList, "USA".toList⟩,
    ⟨.proverb, "East or West, home is best".toList, "Russia".toList⟩]⟩

end Book

end Commonplace
