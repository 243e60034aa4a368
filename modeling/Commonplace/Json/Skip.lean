/-
Passing over JSON values of any depth.  The lists and objects that are open are kept
in a list, innermost first, so the depth of a value costs no nesting of calls.
-/
import Commonplace.Json.Quoted
import Commonplace.Json.Numeral

namespace Commonplace

namespace Json

/-- What encloses the value being passed over. -/
inductive Frame
  | list
  | object
deriving DecidableEq

def Frame.closing : Frame → Char
  | .list => ']'
  | .object => '}'

def Frame.ended : Frame → Cause
  | .list => .endInList
  | .object => .endInObject

def Frame.expected : Frame → Cause
  | .list => .expectedCommaOrBracket
  | .object => .expectedCommaOrBrace

/-- The rest of a word whose first letter has been read. -/
def readWord (word s : Text) : Except Fault Text :=
  match word, s with
  | [], s => .ok s
  | _ :: _, [] => .error (.atEnd .endInValue)
  | c :: word, d :: rest =>
    if c = d then readWord word rest else .error (.looking .expectedWord (d :: rest))

theorem readWord_length {word s rest : Text} (hread : readWord word s = .ok rest) :
    rest.length ≤ s.length := by
  fun_induction readWord word s with
  | case1 s => simp_all
  | case2 => simp at hread
  | case3 word c rest' ih => exact Nat.le_succ_of_le (ih hread)
  | case4 => simp at hread

/-- The colon after a key. -/
def readColon (s : Text) : Except Fault Text :=
  match skipSpace s with
  | [] => .error (.atEnd .endInObject)
  | ':' :: rest => .ok rest
  | other => .error (.looking .expectedColon other)

/-- What follows a key and its colon. -/
def skipKey (s : Text) : Except Fault Text :=
  match skipSpace s with
  | [] => .error (.atEnd .endInObject)
  | '"' :: rest =>
    match skipString rest with
    | .error fault => .error fault
    | .ok rest => readColon rest
  | other => .error (.looking .keyNotString other)

/-- What stands before a value in a frame: in an object, its key. -/
def Frame.enter (frame : Frame) (s : Text) : Except Fault Text :=
  match frame with
  | .list => .ok s
  | .object => skipKey s

/-- The start of a value: a whole one and what follows it, or the frame that it
opens and what follows that. -/
def skipStart (s : Text) : Except Fault (Option Frame × Text) :=
  match skipSpace s with
  | [] => .error (.atEnd .endInValue)
  | c :: rest =>
    if c = 'n' then (readWord ['u', 'l', 'l'] rest).map (none, ·)
    else if c = 't' then (readWord ['r', 'u', 'e'] rest).map (none, ·)
    else if c = 'f' then (readWord ['a', 'l', 's', 'e'] rest).map (none, ·)
    else if c = '"' then (skipString rest).map (none, ·)
    else if c = '[' then .ok (some .list, rest)
    else if c = '{' then .ok (some .object, rest)
    else if c = '-' ∨ c.isDigit then
      (readNumeral .invalidNumber (c :: rest)).map fun (_, rest) => (none, rest)
    else .error (.looking .expectedValue (c :: rest))

theorem readColon_length {s rest : Text} (hread : readColon s = .ok rest) :
    rest.length < s.length := by
  have hspace := skipSpace_length_le s
  unfold readColon at hread
  split at hread
  · simp at hread
  · next heq =>
    obtain rfl := Except.ok.inj hread
    rw [heq, List.length_cons] at hspace
    omega
  · simp at hread

theorem skipKey_length {s rest : Text} (hskip : skipKey s = .ok rest) :
    rest.length < s.length := by
  have hspace := skipSpace_length_le s
  unfold skipKey at hskip
  split at hskip
  · simp at hskip
  · next heq =>
    rw [heq, List.length_cons] at hspace
    split at hskip
    · simp at hskip
    · next hstring =>
      have hafter := skipString_length hstring
      have hcolon := readColon_length hskip
      omega
  · simp at hskip

theorem Frame.enter_length {frame : Frame} {s rest : Text}
    (henter : frame.enter s = .ok rest) : rest.length ≤ s.length := by
  cases frame with
  | list => simp_all [Frame.enter]
  | object => exact Nat.le_of_lt (skipKey_length henter)

theorem skipStart_length {s rest : Text} {opened : Option Frame}
    (hskip : skipStart s = .ok (opened, rest)) : rest.length < s.length := by
  have hspace := skipSpace_length_le s
  unfold skipStart at hskip
  split at hskip
  · simp at hskip
  · next c tail heq =>
    rw [heq, List.length_cons] at hspace
    have hword : ∀ word, (readWord word tail).map (none, ·) = .ok (opened, rest) →
        rest.length ≤ tail.length := by
      intro word hmap
      cases hread : readWord word tail with
      | error fault => simp [hread, Except.map] at hmap
      | ok after =>
        simp only [hread, Except.map, Except.ok.injEq, Prod.mk.injEq] at hmap
        exact hmap.2 ▸ readWord_length hread
    split at hskip
    · have := hword _ hskip
      omega
    split at hskip
    · have := hword _ hskip
      omega
    split at hskip
    · have := hword _ hskip
      omega
    split at hskip
    · cases hstring : skipString tail with
      | error fault => simp [hstring, Except.map] at hskip
      | ok after =>
        have hafter := skipString_length hstring
        simp only [hstring, Except.map, Except.ok.injEq, Prod.mk.injEq] at hskip
        obtain ⟨-, rfl⟩ := hskip
        omega
    split at hskip
    · simp only [Except.ok.injEq, Prod.mk.injEq] at hskip
      obtain ⟨-, rfl⟩ := hskip
      omega
    split at hskip
    · simp only [Except.ok.injEq, Prod.mk.injEq] at hskip
      obtain ⟨-, rfl⟩ := hskip
      omega
    split at hskip
    · cases hnumeral : readNumeral .invalidNumber (c :: tail) with
      | error fault => simp [hnumeral, Except.map] at hskip
      | ok found =>
        obtain ⟨numeral, after⟩ := found
        have hafter := readNumeral_length hnumeral
        simp only [hnumeral, Except.map, Except.ok.injEq, Prod.mk.injEq] at hskip
        obtain ⟨-, rfl⟩ := hskip
        rw [List.length_cons] at hafter
        omega
    · simp at hskip

mutual

/-- What follows a value and everything that encloses it. -/
def skipValue (frames : List Frame) (s : Text) : Except Fault Text :=
  match _hstart : skipStart s with
  | .error fault => .error fault
  | .ok (none, rest) => skipAfter frames rest
  | .ok (some frame, rest) =>
    match _hspace : skipSpace rest with
    | [] => .error (.atEnd frame.ended)
    | c :: more =>
      if c = frame.closing then skipAfter frames more
      else
        match _henter : frame.enter (c :: more) with
        | .error fault => .error fault
        | .ok next => skipValue (frame :: frames) next
termination_by s.length
decreasing_by
  all_goals have hstart := skipStart_length _hstart
  · omega
  · have hspace := skipSpace_length_le rest
    rw [_hspace, List.length_cons] at hspace
    omega
  · have hspace := skipSpace_length_le rest
    have henter := Frame.enter_length _henter
    rw [_hspace] at hspace
    omega

/-- What follows everything that encloses a value, once the value is passed. -/
def skipAfter (frames : List Frame) (s : Text) : Except Fault Text :=
  match frames with
  | [] => .ok s
  | frame :: outer =>
    match _hspace : skipSpace s with
    | [] => .error (.atEnd frame.ended)
    | c :: more =>
      if c = frame.closing then skipAfter outer more
      else if c = ',' then
        match _henter : frame.enter more with
        | .error fault => .error fault
        | .ok next => skipValue (frame :: outer) next
      else .error (.looking frame.expected (c :: more))
termination_by s.length
decreasing_by
  all_goals
    have hspace := skipSpace_length_le s
    rw [_hspace, List.length_cons] at hspace
  · omega
  · have henter := Frame.enter_length _henter
    omega

end

/-- Passing over a value never goes back, nor does passing over the end of what
encloses one. -/
theorem skip_length :
    (∀ frames s, ∀ rest, skipValue frames s = .ok rest → rest.length ≤ s.length) ∧
      ∀ frames s, ∀ rest, skipAfter frames s = .ok rest → rest.length ≤ s.length := by
  apply skipValue.mutual_induct
    (fun frames s => ∀ rest, skipValue frames s = .ok rest → rest.length ≤ s.length)
    (fun frames s => ∀ rest, skipAfter frames s = .ok rest → rest.length ≤ s.length)
  all_goals intros; rename_i hskip
  all_goals first | rw [skipValue] at hskip | rw [skipAfter] at hskip
  all_goals grind [→ skipStart_length, → Frame.enter_length, skipSpace_length_le]

theorem skipValue_length {frames : List Frame} {s rest : Text}
    (hskip : skipValue frames s = .ok rest) : rest.length ≤ s.length :=
  skip_length.1 frames s rest hskip

end Json

end Commonplace
