/-
Cutting a text in two at the first mark of a kind, into pieces at every such
mark, into lines, and at numbers of bytes.
-/
import Commonplace.Text

namespace Commonplace

namespace Text

/-- The part before the first character that is a mark and the part after it,
or nothing when no character is a mark. -/
def cut? (isMark : Char → Bool) (t : Text) : Option (Text × Text) :=
  match t.dropWhile (fun c => !isMark c) with
  | [] => none
  | _ :: after => some (t.takeWhile (fun c => !isMark c), after)

/-- The pieces between the marks, one more than there are marks. -/
def pieces (mark : Char) (t : Text) : List Text :=
  t.foldr (fun c found =>
    if c = mark then [] :: found else (c :: found.headD []) :: found.tail) [[]]

@[simp]
theorem pieces_nil (mark : Char) : pieces mark [] = [[]] := rfl

theorem pieces_cons (mark c : Char) (t : Text) :
    pieces mark (c :: t) =
      if c = mark then [] :: pieces mark t
      else (c :: (pieces mark t).headD []) :: (pieces mark t).tail := rfl

theorem pieces_ne_nil (mark : Char) (t : Text) : pieces mark t ≠ [] := by
  cases t with
  | nil => simp
  | cons c t => rw [pieces_cons]; split <;> simp

/-- Cutting at a mark separates the pieces on its left from those on its
right. -/
theorem pieces_append_mark (mark : Char) (left right : Text) :
    pieces mark (left ++ mark :: right) = pieces mark left ++ pieces mark right := by
  induction left with
  | nil => simp [pieces_cons]
  | cons c left ih =>
    rw [List.cons_append, pieces_cons, pieces_cons, ih]
    have hleft := pieces_ne_nil mark left
    cases hpieces : pieces mark left with
    | nil => exact absurd hpieces hleft
    | cons first others => split <;> simp

/-- No piece holds a mark. -/
theorem not_mem_of_mem_pieces (mark : Char) (t : Text) :
    ∀ piece ∈ pieces mark t, mark ∉ piece := by
  induction t with
  | nil => simp
  | cons c t ih =>
    rw [pieces_cons]
    cases hpieces : pieces mark t with
    | nil => exact absurd hpieces (pieces_ne_nil mark t)
    | cons first others =>
      rw [hpieces] at ih
      split
      · intro piece hpiece
        rcases List.mem_cons.1 hpiece with rfl | hpiece
        · simp
        · exact ih piece hpiece
      · next hc =>
        intro piece hpiece
        simp only [List.headD_cons, List.tail_cons, List.mem_cons] at hpiece
        rcases hpiece with rfl | hpiece
        · have hfirst := ih first List.mem_cons_self
          simp [hfirst, Ne.symm hc]
        · exact ih piece (List.mem_cons_of_mem _ hpiece)

/-- The text without the carriage return at its end, if it has one there. -/
def dropReturn (t : Text) : Text :=
  if t.getLast? = some '\r' then t.dropLast else t

/-- Lines end at a line feed, together with one carriage return right before
it. What follows the last line feed is a line too unless it is empty, and
keeps its carriage returns. -/
def lines (t : Text) : List Text :=
  let found := pieces '\n' t
  let last := found.getLastD []
  found.dropLast.map dropReturn ++ if last.isEmpty then [] else [last]

/-- What follows a number of bytes of the UTF-8 form, unless they end inside a
character or there are fewer. -/
def dropBytes? : Nat → Text → Option Text
  | 0, t => some t
  | _ + 1, [] => none
  | n + 1, c :: rest =>
    if c.utf8Size ≤ n + 1 then dropBytes? (n + 1 - c.utf8Size) rest else none

/-- A number of bytes of the UTF-8 form from the start, unless they end inside a
character or there are fewer. -/
def takeBytes? : Nat → Text → Option Text
  | 0, _ => some []
  | _ + 1, [] => none
  | n + 1, c :: rest =>
    if c.utf8Size ≤ n + 1 then (takeBytes? (n + 1 - c.utf8Size) rest).map (c :: ·) else none

/-- The bytes of the UTF-8 form between two numbers of them. -/
def between? (start stop : Nat) (t : Text) : Option Text :=
  (t.dropBytes? start).bind fun rest => rest.takeBytes? (stop - start)

end Text

end Commonplace
