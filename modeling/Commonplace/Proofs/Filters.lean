/-
Filters of the journal that divide characters.  The places to cut a rule at are found in its
text without the blanks around it, and the text with the blanks is cut.  Without blanks before
the rule the places agree, and in a text of one byte for each character every place is good; so
no other rule divides a character than one with a blank before it and a wide character in it.
-/
import Commonplace.Journal.Filter
import Commonplace.Proofs.Rejection
import Commonplace.Proofs.WholeFile

namespace Commonplace

namespace Text

@[simp]
theorem byteSize_append (left right : Text) :
    (left ++ right).byteSize = left.byteSize + right.byteSize := by
  induction left with
  | nil => simp [byteSize]
  | cons c left ih => simp [byteSize, ih, Nat.add_assoc]

theorem dropBytes?_cons (n : Nat) (c : Char) (rest : Text) :
    dropBytes? (c.utf8Size + n) (c :: rest) = dropBytes? n rest := by
  have hpos := c.utf8Size_pos
  obtain ⟨m, hm⟩ : ∃ m, c.utf8Size + n = m + 1 := ⟨c.utf8Size + n - 1, by omega⟩
  rw [hm, dropBytes?, if_pos (by omega), ← hm, Nat.add_sub_cancel_left]

theorem takeBytes?_cons (n : Nat) (c : Char) (rest : Text) :
    takeBytes? (c.utf8Size + n) (c :: rest) = (takeBytes? n rest).map (c :: ·) := by
  have hpos := c.utf8Size_pos
  obtain ⟨m, hm⟩ : ∃ m, c.utf8Size + n = m + 1 := ⟨c.utf8Size + n - 1, by omega⟩
  rw [hm, takeBytes?, if_pos (by omega), ← hm, Nat.add_sub_cancel_left]

theorem dropBytes?_append (front rest : Text) :
    dropBytes? (byteSize front) (front ++ rest) = some rest := by
  induction front with
  | nil => cases rest <;> rfl
  | cons c front ih => rw [byteSize, List.cons_append, dropBytes?_cons, ih]

theorem takeBytes?_append (front rest : Text) :
    takeBytes? (byteSize front) (front ++ rest) = some front := by
  induction front with
  | nil => cases rest <;> rfl
  | cons c front ih =>
    rw [byteSize, List.cons_append, takeBytes?_cons, ih]
    rfl

/-- A number of bytes after which no character of the text is divided. -/
def Boundary (t : Text) (n : Nat) : Prop := ∃ front rest, t = front ++ rest ∧ front.byteSize = n

theorem boundary_of_suffix {start t : Text} (hstart : start <:+ t) :
    t.Boundary (t.byteSize - start.byteSize) := by
  obtain ⟨front, rfl⟩ := hstart
  exact ⟨front, start, rfl, by simp⟩

theorem exists_dropBytes? {t : Text} {n : Nat} (hn : t.Boundary n) :
    ∃ rest, t.dropBytes? n = some rest := by
  obtain ⟨front, rest, rfl, rfl⟩ := hn
  exact ⟨rest, dropBytes?_append front rest⟩

theorem exists_between? {t : Text} {start stop : Nat} (hstart : t.Boundary start)
    (hstop : t.Boundary stop) (hle : start ≤ stop) : ∃ part, t.between? start stop = some part := by
  obtain ⟨front, rest, rfl, rfl⟩ := hstart
  obtain ⟨longer, last, hsplit, rfl⟩ := hstop
  rcases List.append_eq_append_iff.1 hsplit with ⟨middle, rfl, rfl⟩ | ⟨middle, rfl, rfl⟩
  · refine ⟨middle, ?_⟩
    rw [between?, dropBytes?_append, Option.bind_some, byteSize_append, Nat.add_sub_cancel_left,
      takeBytes?_append]
  · refine ⟨[], ?_⟩
    have hzero : longer.byteSize - (longer ++ middle).byteSize = 0 := by simp
    rw [between?, dropBytes?_append, Option.bind_some, hzero]
    exact takeBytes?_append [] _

/-- Wherever the second text can be cut, so can the first, after as many bytes. -/
def Aligned (t s : Text) : Prop := ∀ n, s.Boundary n → t.Boundary n

theorem aligned_append (s after : Text) : Aligned (s ++ after) s := by
  rintro n ⟨front, rest, rfl, hsize⟩
  exact ⟨front, rest ++ after, List.append_assoc .., hsize⟩

/-- A text without a blank before it begins as it does when it is stripped. -/
theorem aligned_strip_of_head {t : Text} (hhead : ∀ c ∈ t.head?, isBlank c = false) :
    Aligned t t.strip := by
  obtain ⟨before, after, hbefore, -, ht⟩ := exists_padding t
  cases before with
  | nil =>
    rw [List.nil_append] at ht
    generalize t.strip = core at ht
    subst ht
    exact aligned_append core after
  | cons c before =>
    have hc : isBlank c = false := hhead c (by rw [ht]; rfl)
    simp [hbefore c List.mem_cons_self] at hc

/-- Characters of one byte each. -/
def Narrow (t : Text) : Prop := ∀ c ∈ t, c.utf8Size = 1

theorem Narrow.byteSize_eq {t : Text} (ht : t.Narrow) : t.byteSize = t.length := by
  induction t with
  | nil => rfl
  | cons c t ih =>
    rw [byteSize, ht c List.mem_cons_self, ih fun d hd => ht d (List.mem_cons_of_mem c hd),
      List.length_cons, Nat.add_comm]

theorem Narrow.aligned {t s : Text} (ht : t.Narrow) (hs : s.Sublist t) : Aligned t s := by
  rintro n ⟨front, rest, rfl, rfl⟩
  have hfront : front.Sublist t := (List.sublist_append_left front rest).trans hs
  have hsize := Narrow.byteSize_eq fun c hc => ht c (hfront.subset hc)
  refine ⟨t.take front.length, t.drop front.length, (List.take_append_drop ..).symm, ?_⟩
  rw [Narrow.byteSize_eq fun c hc => ht c (List.mem_of_mem_take hc), List.length_take, hsize,
    Nat.min_eq_left hfront.length_le]

end Text

namespace Journal

namespace Rule

variable {t s start stop after : Text}

/-- A reading that divides no character: what it gives is as told, and if it gives nothing the
text has not the form. -/
def Undivided {α : Type} (told : α → Prop) : Except Flaw α → Prop
  | .ok found => told found
  | .error flaw => flaw = .malformed

theorem Undivided.bind {α β : Type} {told : α → Prop} {later : β → Prop}
    {first : Except Flaw α} {next : α → Except Flaw β} (hfirst : Undivided told first)
    (hnext : ∀ found, told found → Undivided later (next found)) :
    Undivided later (first >>= next) := by
  cases first with
  | error flaw => exact hfirst
  | ok found => exact hnext found hfirst

/-- What goes on only under a condition. -/
theorem Undivided.guard {α : Type} {told : α → Prop} {next : Unit → Except Flaw α} (p : Prop)
    [Decidable p] (hnext : Undivided told (next ())) :
    Undivided told (if p then throw .malformed >>= next else next ()) := by
  split
  · rfl
  · exact hnext

theorem Undivided.ne_divided {α : Type} {told : α → Prop} {result : Except Flaw α}
    (hresult : Undivided told result) : result ≠ .error .divided := by
  rintro rfl
  contradiction

theorem undivided_part (haligned : Text.Aligned t s) (hstart : start <:+ s)
    (hstop : stop <:+ start) : Undivided (fun _ => True) (part t s start stop) := by
  have hle : s.byteSize - start.byteSize ≤ s.byteSize - stop.byteSize := by
    obtain ⟨front, rfl⟩ := hstop
    rw [Text.byteSize_append]
    omega
  obtain ⟨found, hfound⟩ := Text.exists_between?
    (haligned _ (Text.boundary_of_suffix hstart))
    (haligned _ (Text.boundary_of_suffix (hstop.trans hstart))) hle
  simp [part, hfound, Undivided]

theorem undivided_tail (haligned : Text.Aligned t s) (hstart : start <:+ s) :
    Undivided (fun _ => True) (tail t s start) := by
  obtain ⟨found, hfound⟩ := Text.exists_dropBytes? (haligned _ (Text.boundary_of_suffix hstart))
  simp [tail, hfound, Undivided]

/-- Each mark is sought behind the one before it, so what follows it ends the stripped text. -/
theorem Scope.undivided_read (haligned : Text.Aligned t s) (hafter : after <:+ s) :
    Undivided (fun found => found.2 <:+ after) (Scope.read t s after) := by
  unfold Scope.read
  extract_lets mark brace
  have hmark : mark <:+ after := List.dropWhile_suffix _
  have hinner : mark.tail <:+ after := (List.tail_suffix mark).trans hmark
  have hbrace : brace <:+ mark.tail := List.dropWhile_suffix _
  refine Undivided.guard _ ?_
  refine (undivided_part haligned hafter hmark).bind fun name _ => ?_
  split
  · exact hinner
  refine Undivided.guard _ ?_
  refine (undivided_part haligned (hinner.trans hafter) hbrace).bind fun field _ => ?_
  split
  · next rest _ hrest =>
    have hbehind : ']' :: rest <:+ mark.tail := hrest ▸ (List.tail_suffix brace).trans hbrace
    exact ((List.suffix_cons ']' rest).trans hbehind).trans hinner
  · rfl

theorem Written.undivided_read (haligned : Text.Aligned t t.strip) :
    Undivided (fun _ => True) (Written.read t) := by
  unfold Written.read
  extract_lets s mark rest
  have hmark : mark <:+ s := List.dropWhile_suffix _
  have hinner : mark.tail <:+ s := (List.tail_suffix mark).trans hmark
  split
  · dsimp only [rest]
    split
    · trivial
    refine (undivided_part haligned (List.suffix_refl s) hmark).bind fun target _ => ?_
    split
    · exact (undivided_tail haligned hinner).bind fun _ _ => trivial
    refine (Scope.undivided_read haligned hinner).bind fun found hfound => ?_
    obtain ⟨scope, rest⟩ := found
    split
    · trivial
    · next level hrest =>
      have hbehind : '=' :: level <:+ mark.tail := hrest ▸ hfound
      have hlevel : level <:+ s := ((List.suffix_cons '=' level).trans hbehind).trans hinner
      exact (undivided_tail haligned hlevel).bind fun _ _ => trivial
    · rfl
  · rfl

theorem undivided_read (haligned : Text.Aligned t t.strip) :
    Undivided (fun _ => True) (read t) := by
  refine (Written.undivided_read haligned).bind fun written _ => ?_
  split
  · trivial
  · rfl

end Rule

theorem except_mapM_eq_error {ε α β : Type} {f : α → Except ε β} {fault : ε} {values : List α}
    (hfault : values.mapM f = .error fault) : ∃ value ∈ values, f value = .error fault := by
  induction values with
  | nil => contradiction
  | cons value values ih =>
    rw [List.mapM_cons, except_bind_eq_error] at hfault
    rcases hfault with hvalue | ⟨found, -, hrest⟩
    · exact ⟨value, List.mem_cons_self, hvalue⟩
    · rcases except_bind_eq_error.1 hrest with hrest | ⟨others, -, hpure⟩
      · obtain ⟨other, hother, hf⟩ := ih hrest
        exact ⟨other, List.mem_cons_of_mem value hother, hf⟩
      · contradiction

/-- A filter divides a character only in a rule that has a blank before it and a character of
more than one byte in it. -/
theorem Filter.read_eq_divided {t : Text} (hread : Filter.read t = .error .divided) :
    ∃ piece ∈ t.pieces ',', (∃ c ∈ piece.head?, Text.isBlank c = true) ∧
      ∃ c ∈ piece, c.utf8Size ≠ 1 := by
  unfold Filter.read at hread
  extract_lets written at hread
  split at hread
  · contradiction
  obtain ⟨piece, hpiece, hdivided⟩ := except_mapM_eq_error (except_map_eq_error hread)
  refine ⟨piece, List.mem_of_mem_filter hpiece, ?_, ?_⟩
  · by_contra hnone
    have hhead : ∀ c ∈ piece.head?, Text.isBlank c = false := by
      intro c hc
      by_contra hblank
      exact hnone ⟨c, hc, Bool.of_not_eq_false hblank⟩
    exact (Rule.undivided_read (Text.aligned_strip_of_head hhead)).ne_divided hdivided
  · by_contra hnone
    have hnarrow : piece.Narrow := fun c hc => by_contra fun hsize => hnone ⟨c, hc, hsize⟩
    exact (Rule.undivided_read (hnarrow.aligned piece.strip_sublist)).ne_divided hdivided

/-- The target is one byte, and the no-break space that stands before it is two. -/
example : Filter.read "\xA0a=debug".toList = .error .divided := by decide +kernel

end Journal

end Commonplace
