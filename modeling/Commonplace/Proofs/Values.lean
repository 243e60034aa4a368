/-
The grammar of JSON values, nested to any depth, with any spaces between their
tokens.  Passing over a value stops right behind it, so no value is the start of
another one where both could end.
-/
import Mathlib.Data.List.TakeWhile
import Commonplace.Json.Skip
import Commonplace.Proofs.Spelling

namespace Commonplace

namespace Json

/-- A run of spaces, perhaps of none. -/
structure Spacing where
  text : Text
  space : ∀ c ∈ text, isSpace c = true

def Spacing.of (text : Text) (hspace : text.all isSpace = true) : Spacing :=
  ⟨text, List.all_eq_true.1 hspace⟩

def Spacing.empty : Spacing := .of [] rfl

@[simp]
theorem Spacing.empty_text : Spacing.empty.text = [] := rfl

/-- One digit or more. -/
structure Digits (t : Text) : Prop where
  ne_nil : t ≠ []
  digit : ∀ c ∈ t, c.isDigit = true

/-- The digits before the point.  A leading zero stands alone. -/
inductive Whole : Text → Prop
  | zero : Whole ['0']
  | digits {c : Char} {t : Text} (hc : c ≠ '0') (hdigits : Digits (c :: t)) : Whole (c :: t)

inductive Fraction : Text → Prop
  | absent : Fraction []
  | present {t : Text} (hdigits : Digits t) : Fraction ('.' :: t)

inductive Exponent : Text → Prop
  | absent : Exponent []
  | present {c : Char} {sign t : Text} (hc : c = 'e' ∨ c = 'E')
    (hsign : sign = [] ∨ sign = ['+'] ∨ sign = ['-']) (hdigits : Digits t) :
    Exponent (c :: (sign ++ t))

inductive IsNumber : Text → Prop
  | parts {sign whole fraction exponent : Text} (hsign : sign = [] ∨ sign = ['-'])
    (hwhole : Whole whole) (hfraction : Fraction fraction) (hexponent : Exponent exponent) :
    IsNumber (sign ++ (whole ++ (fraction ++ exponent)))

def Frame.opening : Frame → Char
  | .list => '['
  | .object => '{'

/-- What stands before a value in a frame: nothing in a list, a name and a colon in
an object. -/
inductive Key : Frame → Text → Prop
  | list : Key .list []
  | object {name : Text} (hname : Letters name) (before after : Spacing) :
    Key .object (Text.quoted name ++ (before.text ++ ':' :: after.text))

def words : List Text := ["null".toList, "true".toList, "false".toList]

/-- What the grammar derives: a value, or all that stands in a frame. -/
inductive Phrase
  | value
  | parts (frame : Frame)

inductive Derives : Phrase → Text → Prop
  | word {word : Text} (hword : word ∈ words) : Derives .value word
  | number {number : Text} (hnumber : IsNumber number) : Derives .value number
  | string {written : Text} (hletters : Letters written) : Derives .value (Text.quoted written)
  | empty (frame : Frame) (gap : Spacing) :
    Derives .value (frame.opening :: (gap.text ++ [frame.closing]))
  | full {frame : Frame} {parts : Text} (gap : Spacing) (hparts : Derives (.parts frame) parts) :
    Derives .value (frame.opening :: (gap.text ++ (parts ++ [frame.closing])))
  | last {frame : Frame} {key value : Text} (hkey : Key frame key)
    (hvalue : Derives .value value) (gap : Spacing) :
    Derives (.parts frame) (key ++ (value ++ gap.text))
  | more {frame : Frame} {key value parts : Text} (hkey : Key frame key)
    (hvalue : Derives .value value) (before after : Spacing)
    (hparts : Derives (.parts frame) parts) :
    Derives (.parts frame) (key ++ (value ++ (before.text ++ ',' :: (after.text ++ parts))))

/-- The texts of JSON values. -/
def IsValue (t : Text) : Prop := Derives .value t

/-- What can follow a value without belonging to it. -/
def Apart (rest : Text) : Prop :=
  ∀ c ∈ rest.head?, c.isDigit = false ∧ c ≠ '.' ∧ c ≠ 'e' ∧ c ≠ 'E'

theorem apart_cons {c : Char} {rest : Text} :
    Apart (c :: rest) ↔ c.isDigit = false ∧ c ≠ '.' ∧ c ≠ 'e' ∧ c ≠ 'E' := by
  simp [Apart]

/-- Spaces before a token do not count. -/
@[simp]
theorem skipSpace_append (gap : Spacing) (s : Text) : skipSpace (gap.text ++ s) = skipSpace s :=
  List.dropWhile_append_of_pos gap.space

theorem skipSpace_spacing (gap : Spacing) : skipSpace gap.text = [] :=
  List.dropWhile_eq_nil_iff.2 gap.space

theorem skipSpace_token {c : Char} (hc : isSpace c = false) (rest : Text) :
    skipSpace (c :: rest) = c :: rest :=
  List.dropWhile_cons_of_neg (by simp [hc])

theorem mem_head?_append {a b : Text} {c : Char} (hc : c ∈ (a ++ b).head?) :
    c ∈ a.head? ∨ c ∈ b.head? := by
  cases a with
  | nil => exact Or.inr hc
  | cons d a => exact Or.inl (by simpa using hc)

theorem digits_append {t rest : Text} (ht : ∀ c ∈ t, c.isDigit = true)
    (hrest : ∀ c ∈ rest.head?, c.isDigit = false) : digits (t ++ rest) = (t, rest) := by
  have hstop : rest.takeWhile Char.isDigit = [] ∧ rest.dropWhile Char.isDigit = rest := by
    cases rest with
    | nil => simp
    | cons c rest => simp [hrest c rfl]
  rw [digits, List.takeWhile_append_of_pos ht, List.dropWhile_append_of_pos ht, hstop.1, hstop.2,
    List.append_nil]

theorem someDigits_append {t rest : Text} (ht : Digits t)
    (hrest : ∀ c ∈ rest.head?, c.isDigit = false) (ended : Cause) :
    someDigits ended (t ++ rest) = .ok (t, rest) := by
  have hdigits := digits_append ht.digit hrest
  cases t with
  | nil => exact absurd rfl ht.ne_nil
  | cons c t =>
    have hc := ht.digit c List.mem_cons_self
    rw [List.cons_append] at hdigits ⊢
    rw [someDigits, if_pos hc, hdigits]

theorem readWhole_append {whole rest : Text} (hwhole : Whole whole)
    (hrest : ∀ c ∈ rest.head?, c.isDigit = false) (ended : Cause) :
    readWhole ended (whole ++ rest) = .ok (whole, rest) := by
  cases hwhole with
  | zero =>
    cases rest with
    | nil => rfl
    | cons c rest => simp [readWhole, hrest c rfl]
  | digits hc hdigits =>
    have hread := someDigits_append hdigits hrest ended
    rw [List.cons_append] at hread ⊢
    rw [readWhole]
    · exact hread
    · intro d tail heq
      exact hc (List.cons.inj heq).1

theorem readFraction_append {fraction rest : Text} (hfraction : Fraction fraction)
    (hrest : ∀ c ∈ rest.head?, c.isDigit = false ∧ c ≠ '.') (ended : Cause) :
    ∃ found, readFraction ended (fraction ++ rest) = .ok (found, rest) := by
  cases hfraction with
  | absent =>
    refine ⟨[], ?_⟩
    rw [List.nil_append, readFraction]
    rintro tail rfl
    exact (hrest '.' rfl).2 rfl
  | @present t hdigits =>
    exact ⟨t, someDigits_append hdigits (fun c hc => (hrest c hc).1) ended⟩

theorem exponentSign_append {sign t : Text} (hsign : sign = [] ∨ sign = ['+'] ∨ sign = ['-'])
    (ht : Digits t) (rest : Text) : (exponentSign (sign ++ (t ++ rest))).2 = t ++ rest := by
  rcases hsign with rfl | rfl | rfl
  · cases t with
    | nil => exact absurd rfl ht.ne_nil
    | cons c t =>
      have hc := ht.digit c List.mem_cons_self
      rw [List.nil_append, List.cons_append, exponentSign]
      · rintro tail heq
        obtain ⟨rfl, -⟩ := List.cons.inj heq
        contradiction
      · rintro tail heq
        obtain ⟨rfl, -⟩ := List.cons.inj heq
        contradiction
  · rfl
  · rfl

theorem readExponent_append {exponent rest : Text} (hexponent : Exponent exponent)
    (hrest : Apart rest) (ended : Cause) :
    ∃ found, readExponent ended (exponent ++ rest) = .ok (found, rest) := by
  cases hexponent with
  | absent =>
    refine ⟨none, ?_⟩
    cases rest with
    | nil => rfl
    | cons c rest =>
      obtain ⟨-, -, he, hE⟩ := apart_cons.1 hrest
      simp [readExponent, he, hE]
  | @present c sign t hc hsign hdigits =>
    have hread := someDigits_append hdigits (fun d hd => (hrest d hd).1) ended
    rw [← exponentSign_append hsign hdigits rest] at hread
    refine ⟨some ((exponentSign (sign ++ (t ++ rest))).1, t), ?_⟩
    rw [List.cons_append, List.append_assoc, readExponent, if_pos hc, hread]

theorem minusSign_append {sign whole : Text} (hsign : sign = [] ∨ sign = ['-'])
    (hwhole : Whole whole) (rest : Text) :
    (minusSign (sign ++ (whole ++ rest))).2 = whole ++ rest := by
  rcases hsign with rfl | rfl
  · rw [List.nil_append, minusSign]
    rintro tail heq
    cases hwhole with
    | zero => simp at heq
    | digits hc hdigits =>
      obtain ⟨rfl, -⟩ := List.cons.inj heq
      have hminus := hdigits.digit '-' List.mem_cons_self
      contradiction
  · rfl

/-- A number is read up to its end. -/
theorem readNumeral_append {number rest : Text} (hnumber : IsNumber number)
    (hrest : Apart rest) (ended : Cause) :
    ∃ numeral, readNumeral ended (number ++ rest) = .ok (numeral, rest) := by
  obtain @⟨sign, whole, fraction, exponent, hsign, hwhole, hfraction, hexponent⟩ := hnumber
  have hafterFraction : ∀ c ∈ (exponent ++ rest).head?, c.isDigit = false ∧ c ≠ '.' := by
    intro c hc
    rcases mem_head?_append hc with hc | hc
    · cases hexponent with
      | absent => simp at hc
      | present he =>
        have hc := Option.some.inj hc
        rcases he with rfl | rfl <;> subst hc <;> decide
    · exact ⟨(hrest c hc).1, (hrest c hc).2.1⟩
  have hafterWhole : ∀ c ∈ (fraction ++ (exponent ++ rest)).head?, c.isDigit = false := by
    intro c hc
    rcases mem_head?_append hc with hc | hc
    · cases hfraction with
      | absent => simp at hc
      | present =>
        have hc := Option.some.inj hc
        subst hc
        decide
    · exact (hafterFraction c hc).1
  have hsplit : sign ++ (whole ++ (fraction ++ exponent)) ++ rest =
      sign ++ (whole ++ (fraction ++ (exponent ++ rest))) := by simp
  obtain ⟨foundFraction, hreadFraction⟩ := readFraction_append hfraction hafterFraction ended
  obtain ⟨foundExponent, hreadExponent⟩ := readExponent_append hexponent hrest ended
  refine ⟨⟨(minusSign (sign ++ (whole ++ (fraction ++ (exponent ++ rest))))).1, whole,
    foundFraction, foundExponent⟩, ?_⟩
  rw [hsplit, readNumeral, minusSign_append hsign hwhole, readWhole_append hwhole hafterWhole]
  simp only [hreadFraction, hreadExponent]

theorem readWord_append (word rest : Text) : readWord word (word ++ rest) = .ok rest := by
  induction word with
  | nil => rw [List.nil_append, readWord]
  | cons c word ih => rw [List.cons_append, readWord, if_pos rfl, ih]

/-- What a value can start with. -/
def opens (c : Char) : Bool :=
  c = 'n' || c = 't' || c = 'f' || c = '"' || c = '[' || c = '{' || c = '-' || c.isDigit

theorem IsNumber.head {number : Text} (hnumber : IsNumber number) :
    ∃ c rest, number = c :: rest ∧ (c = '-' ∨ c.isDigit = true) := by
  obtain @⟨sign, whole, fraction, exponent, hsign, hwhole, -, -⟩ := hnumber
  rcases hsign with rfl | rfl
  · cases hwhole with
    | zero => exact ⟨'0', _, rfl, Or.inr (by decide)⟩
    | @digits c t hc hdigits =>
      exact ⟨c, _, rfl, Or.inr (hdigits.digit c List.mem_cons_self)⟩
  · exact ⟨'-', _, rfl, Or.inl rfl⟩

theorem IsValue.head {value : Text} (hvalue : IsValue value) :
    ∃ c rest, value = c :: rest ∧ opens c = true := by
  cases hvalue with
  | word hword =>
    simp only [words, List.mem_cons, List.not_mem_nil, or_false] at hword
    rcases hword with rfl | rfl | rfl <;> exact ⟨_, _, rfl, by decide⟩
  | number hnumber =>
    obtain ⟨c, rest, rfl, hc⟩ := hnumber.head
    exact ⟨c, rest, rfl, by rcases hc with rfl | hc <;> simp_all [opens]⟩
  | string => exact ⟨_, _, rfl, by decide⟩
  | empty frame => exact ⟨_, _, rfl, by cases frame <;> decide⟩
  | @full frame => exact ⟨_, _, rfl, by cases frame <;> decide⟩

theorem ne_of_isDigit {c d : Char} (hc : c.isDigit = true) (hd : d.isDigit = false) : c ≠ d := by
  rintro rfl
  simp [hc] at hd

/-- No value starts with a space or with what ends a frame. -/
theorem opens_token {c : Char} (hc : opens c = true) :
    isSpace c = false ∧ ∀ frame : Frame, c ≠ frame.closing := by
  simp only [opens, Bool.or_eq_true, decide_eq_true_eq] at hc
  rcases hc with ((((((rfl | rfl) | rfl) | rfl) | rfl) | rfl) | rfl) | hc
  case inr =>
    have hne := fun (d : Char) (hd : d.isDigit = false) => ne_of_isDigit hc hd
    refine ⟨?_, ?_⟩
    · simp [isSpace, hne ' ' (by decide), hne '\n' (by decide), hne '\t' (by decide),
        hne '\r' (by decide)]
    · rintro (_ | _) <;> exact hne _ (by decide)
  all_goals exact ⟨by decide, by rintro (_ | _) <;> decide⟩

/-- A value starts with a token. -/
theorem IsValue.skipSpace {value : Text} (hvalue : IsValue value) (rest : Text) :
    skipSpace (value ++ rest) = value ++ rest := by
  obtain ⟨c, t, rfl, hc⟩ := hvalue.head
  exact skipSpace_token (opens_token hc).1 _

theorem skipStart_word {word : Text} (hword : word ∈ words) (rest : Text) :
    skipStart (word ++ rest) = .ok (none, rest) := by
  simp only [words, List.mem_cons, List.not_mem_nil, or_false] at hword
  rcases hword with rfl | rfl | rfl <;> rfl

theorem skipStart_number {number rest : Text} (hnumber : IsNumber number)
    (hrest : Apart rest) : skipStart (number ++ rest) = .ok (none, rest) := by
  obtain ⟨c, t, rfl, hc⟩ := hnumber.head
  obtain ⟨numeral, hread⟩ := readNumeral_append hnumber hrest .invalidNumber
  have hopens : opens c = true := by rcases hc with rfl | hc <;> simp_all [opens]
  have hne : ∀ d : Char, d.isDigit = false → d ≠ '-' → c ≠ d := by
    rintro d hdigit hminus rfl
    rcases hc with hc | hc
    · exact hminus hc
    · exact ne_of_isDigit hc hdigit rfl
  rw [List.cons_append] at hread ⊢
  rw [skipStart, skipSpace_token (opens_token hopens).1]
  simp only [hne 'n' (by decide) (by decide), hne 't' (by decide) (by decide),
    hne 'f' (by decide) (by decide), hne '"' (by decide) (by decide),
    hne '[' (by decide) (by decide), hne '{' (by decide) (by decide), hc, if_false, if_true, hread]
  rfl

theorem skipStart_string {written : Text} (hletters : Letters written) (rest : Text) :
    skipStart (Text.quoted written ++ rest) = .ok (none, rest) := by
  have hskip := skipString_letters hletters rest
  rw [quoted_append, skipStart, skipSpace_token (by decide)]
  simp only [Char.reduceEq, if_false, if_true, hskip]
  rfl

theorem skipStart_frame (frame : Frame) (rest : Text) :
    skipStart (frame.opening :: rest) = .ok (some frame, rest) := by
  cases frame <;> rfl

@[simp]
theorem skipStart_append (gap : Spacing) (s : Text) :
    skipStart (gap.text ++ s) = skipStart s := by
  rw [skipStart, skipStart, skipSpace_append]

@[simp]
theorem skipValue_append (frames : List Frame) (gap : Spacing) (s : Text) :
    skipValue frames (gap.text ++ s) = skipValue frames s := by
  rw [skipValue, skipValue, skipStart_append]

theorem skipValue_of_whole {s rest : Text} (hstart : skipStart s = .ok (none, rest))
    (frames : List Frame) : skipValue frames s = skipAfter frames rest := by
  rw [skipValue, hstart]

theorem skipValue_of_empty {s rest more : Text} {frame : Frame}
    (hstart : skipStart s = .ok (some frame, rest))
    (hspace : skipSpace rest = frame.closing :: more) (frames : List Frame) :
    skipValue frames s = skipAfter frames more := by
  rw [skipValue, hstart]
  dsimp only
  rw [hspace]
  exact if_pos rfl

theorem skipValue_of_opened {s rest more next : Text} {frame : Frame} {c : Char}
    (hstart : skipStart s = .ok (some frame, rest)) (hspace : skipSpace rest = c :: more)
    (hc : c ≠ frame.closing) (henter : frame.enter (c :: more) = .ok next)
    (frames : List Frame) : skipValue frames s = skipValue (frame :: frames) next := by
  rw [skipValue, hstart]
  dsimp only
  rw [hspace]
  dsimp only
  rw [if_neg hc, henter]

theorem skipAfter_of_closing {s more : Text} {frame : Frame}
    (hspace : skipSpace s = frame.closing :: more) (outer : List Frame) :
    skipAfter (frame :: outer) s = skipAfter outer more := by
  rw [skipAfter, hspace]
  exact if_pos rfl

theorem skipAfter_of_comma {s more next : Text} {frame : Frame}
    (hspace : skipSpace s = ',' :: more) (henter : frame.enter more = .ok next)
    (outer : List Frame) : skipAfter (frame :: outer) s = skipValue (frame :: outer) next := by
  have hcomma : ',' ≠ frame.closing := by cases frame <;> decide
  rw [skipAfter, hspace]
  dsimp only
  rw [if_neg hcomma, if_pos rfl, henter]

theorem readColon_append (gap : Spacing) (rest : Text) :
    readColon (gap.text ++ ':' :: rest) = .ok rest := by
  rw [readColon, skipSpace_append]
  rfl

theorem enter_key {frame : Frame} {key : Text} (hkey : Key frame key) (gap : Spacing)
    (s : Text) :
    ∃ inner : Spacing, frame.enter (gap.text ++ (key ++ s)) = .ok (inner.text ++ s) := by
  cases hkey with
  | list => exact ⟨gap, rfl⟩
  | @object name hname before after =>
    refine ⟨after, ?_⟩
    have hskip := skipString_letters hname (before.text ++ ':' :: (after.text ++ s))
    rw [List.append_assoc, quoted_append, List.append_assoc, List.cons_append, Frame.enter, skipKey,
      skipSpace_append, skipSpace_token (by decide)]
    simp only [hskip, readColon_append]

theorem apart_append {gap : Spacing} {rest : Text} (hrest : Apart rest) :
    Apart (gap.text ++ rest) := by
  intro c hc
  rcases mem_head?_append hc with hc | hc
  · have hspace := gap.space c (List.mem_of_mem_head? hc)
    simp only [isSpace, Bool.or_eq_true, decide_eq_true_eq] at hspace
    rcases hspace with ((rfl | rfl) | rfl) | rfl <;> decide
  · exact hrest c hc

/-- What can follow a value in a frame. -/
theorem apart_frame (frame : Frame) {c : Char} (hc : c = ',' ∨ c = frame.closing) (rest : Text) :
    Apart (c :: rest) := by
  rw [apart_cons]
  rcases hc with rfl | rfl
  · decide
  · cases frame <;> decide

theorem Key.head {frame : Frame} {key value : Text} (hkey : Key frame key)
    (hvalue : IsValue value) (rest : Text) :
    ∃ c t, key ++ (value ++ rest) = c :: t ∧ opens c = true := by
  cases hkey with
  | list =>
    obtain ⟨c, t, rfl, hc⟩ := hvalue.head
    exact ⟨c, t ++ rest, rfl, hc⟩
  | object => exact ⟨'"', _, rfl, by decide⟩

theorem head_of_parts {frame : Frame} {parts : Text} (hparts : Derives (.parts frame) parts) :
    ∃ c t, parts = c :: t ∧ opens c = true := by
  cases hparts with
  | last hkey hvalue gap => exact hkey.head hvalue gap.text
  | more hkey hvalue before after hparts => exact hkey.head hvalue _

/-- What passing over a phrase comes to, in whatever frames it stands. -/
def Passed : Phrase → Text → Prop
  | .value, value => ∀ (frames : List Frame) (rest : Text), (IsNumber value → Apart rest) →
    skipValue frames (value ++ rest) = skipAfter frames rest
  | .parts frame, parts => ∀ (outer : List Frame) (gap : Spacing) (rest : Text),
    ∃ next, frame.enter (gap.text ++ (parts ++ frame.closing :: rest)) = .ok next ∧
      skipValue (frame :: outer) next = skipAfter outer rest

theorem Derives.passed {phrase : Phrase} {t : Text} (hderives : Derives phrase t) :
    Passed phrase t := by
  induction hderives with
  | word hword => exact fun frames rest _ => skipValue_of_whole (skipStart_word hword rest) frames
  | number hnumber =>
    intro frames rest hrest
    exact skipValue_of_whole (skipStart_number hnumber (hrest hnumber)) frames
  | string hletters =>
    exact fun frames rest _ => skipValue_of_whole (skipStart_string hletters rest) frames
  | empty frame gap =>
    intro frames rest _
    have hclosing : isSpace frame.closing = false := by cases frame <;> decide
    have hspace : skipSpace (gap.text ++ [frame.closing] ++ rest) = frame.closing :: rest := by
      rw [List.append_assoc, skipSpace_append]
      exact skipSpace_token hclosing rest
    exact skipValue_of_empty (skipStart_frame frame _) hspace frames
  | @full frame parts gap hparts ih =>
    intro frames rest _
    obtain ⟨c, t, rfl, hc⟩ := head_of_parts hparts
    obtain ⟨htoken, hclosing⟩ := opens_token hc
    obtain ⟨next, henter, hnext⟩ := ih frames .empty rest
    have hspace : skipSpace (gap.text ++ (c :: t ++ [frame.closing]) ++ rest) =
        c :: (t ++ frame.closing :: rest) := by
      simpa using skipSpace_token htoken _
    rw [← hnext]
    exact skipValue_of_opened (skipStart_frame frame _) hspace (hclosing frame) henter frames
  | @last frame key value hkey hvalue gap ih =>
    intro outer start rest
    obtain ⟨inner, henter⟩ := enter_key hkey start (value ++ (gap.text ++ frame.closing :: rest))
    have hclosing : isSpace frame.closing = false := by cases frame <;> decide
    refine ⟨_, by simpa using henter, ?_⟩
    rw [skipValue_append, ih _ _ fun _ => apart_append (apart_frame frame (Or.inr rfl) rest)]
    apply skipAfter_of_closing
    rw [skipSpace_append, skipSpace_token hclosing]
  | @more frame key value parts hkey hvalue before after hparts ihValue ihParts =>
    intro outer start rest
    obtain ⟨inner, henter⟩ := enter_key hkey start
      (value ++ (before.text ++ ',' :: (after.text ++ (parts ++ frame.closing :: rest))))
    obtain ⟨next, hparts, hnext⟩ := ihParts outer after rest
    refine ⟨_, by simpa using henter, ?_⟩
    rw [skipValue_append,
      ihValue _ _ fun _ => apart_append (apart_frame frame (Or.inl rfl) _), ← hnext]
    apply skipAfter_of_comma _ hparts
    rw [skipSpace_append, skipSpace_token (by decide)]

/-- Passing over a value stops right behind it.  Only a number could go on with what
follows. -/
theorem skipValue_value {value rest : Text} (hvalue : IsValue value)
    (hrest : IsNumber value → Apart rest) (frames : List Frame) :
    skipValue frames (value ++ rest) = skipAfter frames rest :=
  hvalue.passed frames rest hrest

/-- A value ends at one place only. -/
theorem IsValue.cancel {left right before after : Text} (hleft : IsValue left)
    (hright : IsValue right) (hbefore : IsNumber left → Apart before)
    (hafter : IsNumber right → Apart after) (heq : left ++ before = right ++ after) :
    left = right ∧ before = after := by
  have hskip := skipValue_value hleft hbefore []
  rw [heq, skipValue_value hright hafter, skipAfter, skipAfter] at hskip
  obtain rfl := Except.ok.inj hskip
  exact ⟨List.append_cancel_right heq, rfl⟩

end Json

end Commonplace
