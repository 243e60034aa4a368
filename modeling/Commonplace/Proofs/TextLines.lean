/-
Sayings as lines of text.  Nothing is escaped in them, but a content without quotation marks
ends at the first one behind it, so such a line tells the saying, and a listing loses the lines
of removed sayings and no others.
-/
import Commonplace.Proofs.JsonLines
import Commonplace.Proofs.Making
import Commonplace.Proofs.Marks

namespace Commonplace

namespace Saying

/-- What stands behind the mark at the end of the content: the origin with its name. -/
def originPart (saying : Saying) : Text :=
  [' '] ++ saying.kind.originName ++ ['='] ++ saying.origin.quoted

/-- A line with the two marks at which it is divided: the one behind the tag and the one at the
end of the content. -/
theorem render_eq (saying : Saying) :
    saying.render =
      ('[' :: saying.kind.tag) ++ ']' ::
        (" content=\"".toList ++ (saying.content ++ '"' :: saying.originPart)) := by
  simp only [render, Text.quoted, originPart, List.append_assoc, List.cons_append,
    List.nil_append]
  rfl

theorem kind_eq_of_render {left right : Saying} (heq : left.render = right.render) :
    left.kind = right.kind := by
  have htag : ∀ kind : Kind, ']' ∉ '[' :: kind.tag := by
    intro kind
    simp [kind.tag_lettered.not_mem]
  rw [render_eq, render_eq] at heq
  obtain ⟨hbefore, -⟩ := Text.append_mark_inj (htag left.kind) (htag right.kind) heq
  exact tag_injective (List.cons.inj hbefore).2

/-- Lines of contents without quotation marks tell the sayings.  The origins may hold any. -/
theorem eq_of_render {left right : Saying} (hleft : '"' ∉ left.content)
    (hright : '"' ∉ right.content) (heq : left.render = right.render) : left = right := by
  have hkind := kind_eq_of_render heq
  rw [render_eq, render_eq, hkind] at heq
  have hvalues := List.append_cancel_left (List.cons.inj (List.append_cancel_left heq)).2
  obtain ⟨hcontent, hpart⟩ := Text.append_mark_inj hleft hright hvalues
  rw [originPart, originPart, hkind] at hpart
  have horigin : left.origin = right.origin := by
    simpa [Text.quoted] using List.append_cancel_left hpart
  obtain ⟨kind, content, origin⟩ := left
  obtain rfl : kind = right.kind := hkind
  obtain rfl : content = right.content := hcontent
  obtain rfl : origin = right.origin := horigin
  rfl

end Saying

namespace Book

/-- Where sayings with the same line are the same, a removal takes the lines of the sayings that
it reports out of a listing, wherever they stand, and leaves the others in their order. -/
theorem listing_after_removal (book : Book) (condition : Condition) {line : Saying → Text}
    (hline : ∀ left ∈ book.sayings, ∀ right ∈ book.sayings, line left = line right →
      left = right) :
    ∃ (after : Book) (removed : List Saying) (before later : Outcome),
      book.execute .list = (book, .ok before) ∧
      book.execute (.remove condition) = (after, .ok (.removed removed)) ∧
      after.execute .list = (after, .ok later) ∧
      later.shown.map line =
        (before.shown.map line).filter fun written => written ∉ removed.map line := by
  refine ⟨_, _, _, _, rfl, by rw [execute, remove_eq], rfl, ?_⟩
  exact lines_of_kept book.sayings hline condition.holds

end Book

namespace Saying

/-- Sayings without quotation marks in their contents are told by their lines, whatever stands in
their origins, so a listing after a removal lacks the lines of removed sayings and no others. -/
theorem render_lossless :
    (∀ left right : Saying, '"' ∉ left.content → '"' ∉ right.content →
      left.render = right.render → left = right) ∧
    ∀ (book : Book) (condition : Condition), (∀ saying ∈ book.sayings, '"' ∉ saying.content) →
      ∃ (after : Book) (removed : List Saying) (before later : Outcome),
        book.execute .list = (book, .ok before) ∧
        book.execute (.remove condition) = (after, .ok (.removed removed)) ∧
        after.execute .list = (after, .ok later) ∧
        later.shown.map render =
          (before.shown.map render).filter fun line => line ∉ removed.map render := by
  refine ⟨fun left right hleft hright heq => eq_of_render hleft hright heq, ?_⟩
  intro book condition hplain
  refine book.listing_after_removal condition fun left hleft right hright heq => ?_
  exact eq_of_render (hplain left hleft) (hplain right hright) heq

/-- A saying that is there twice, with an origin that goes on as if another one stood behind
it, and the saying for which it could be taken. -/
theorem render_lossless_twice :
    let forged : Saying := ⟨.aphorism, "a".toList, "b\" author=\"c".toList⟩
    let other : Saying := ⟨.aphorism, "a".toList, "c".toList⟩
    let book : Book := ⟨[forged, other, forged]⟩
    forged.render ≠ other.render ∧
      ∃ (after : Book) (later : Outcome),
        book.execute (.remove ⟨"author".toList, "b".toList⟩) =
          (after, .ok (.removed [forged, forged])) ∧
        after.execute .list = (after, .ok later) ∧
        later.shown.map render =
          (book.sayings.map render).filter fun line => line ∉ [forged, forged].map render := by
  intro forged other book
  have hdistinct : forged.render ≠ other.render := fun heq =>
    absurd (render_lossless.1 forged other (by decide) (by decide) heq) (by decide)
  have hplain : ∀ saying ∈ book.sayings, '"' ∉ saying.content := by decide
  obtain ⟨after, removed, before, later, hbefore, hremove, hlater, hlines⟩ :=
    render_lossless.2 book ⟨"author".toList, "b".toList⟩ hplain
  obtain rfl : Outcome.listed book.sayings = before := Except.ok.inj (Prod.mk.inj hbefore).2
  have hforged : book.execute (.remove ⟨"author".toList, "b".toList⟩) =
      (⟨[other]⟩, .ok (.removed [forged, forged])) := rfl
  obtain ⟨-, hremoved⟩ := Prod.mk.inj (hremove.symm.trans hforged)
  obtain rfl := Outcome.removed.inj (Except.ok.inj hremoved)
  exact ⟨hdistinct, after, later, hremove, hlater, hlines⟩

/-- A mark in a content can make its line that of another saying. -/
example :
    let left : Saying := ⟨.aphorism, "a".toList, "b\" author=\"c".toList⟩
    let right : Saying := ⟨.aphorism, "a\" author=\"b".toList, "c".toList⟩
    left.render = right.render ∧ left ≠ right := by decide

end Saying

end Commonplace
