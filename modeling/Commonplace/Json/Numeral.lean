/-
Numbers as JSON writes them, and the value they have when a complaint has to name
one.  A value is an integer when sixty-four bits hold it; otherwise it is computed
in binary floating point from at most the digits that fit into sixty-four bits and a
power of ten.
-/
import Commonplace.Json.Fault
import Commonplace.Decimal.Shortest

namespace Commonplace

namespace Json

/-- The parts of a number: its sign, the digits before and after the point, and
the sign and digits of the exponent. -/
structure Numeral where
  negative : Bool
  whole : Text
  fraction : Text
  exponent : Option (Bool × Text)
deriving DecidableEq

/-- The digits at the start of a text and what follows them. -/
def digits (s : Text) : Text × Text := (s.takeWhile Char.isDigit, s.dropWhile Char.isDigit)

theorem digits_length (s : Text) : (digits s).2.length ≤ s.length :=
  Text.length_dropWhile_le Char.isDigit s

/-- One digit or more. Where the text ends instead, the cause is up to the
caller. -/
def someDigits (ended : Cause) (s : Text) : Except Fault (Text × Text) :=
  match s with
  | [] => .error (.atEnd ended)
  | c :: _ => if c.isDigit then .ok (digits s) else .error (.looking .invalidNumber s)

/-- The digits before the point, where a leading zero stands alone. -/
def readWhole (ended : Cause) (s : Text) : Except Fault (Text × Text) :=
  match s with
  | '0' :: c :: rest =>
    if c.isDigit then .error (.looking .invalidNumber (c :: rest)) else .ok (['0'], c :: rest)
  | _ => someDigits ended s

def readFraction (ended : Cause) (s : Text) : Except Fault (Text × Text) :=
  match s with
  | '.' :: rest => someDigits ended rest
  | _ => .ok ([], s)

/-- Whether an exponent is negative, and what follows its sign. -/
def exponentSign (s : Text) : Bool × Text :=
  match s with
  | '+' :: rest => (false, rest)
  | '-' :: rest => (true, rest)
  | _ => (false, s)

def readExponent (ended : Cause) (s : Text) : Except Fault (Option (Bool × Text) × Text) :=
  match s with
  | [] => .ok (none, [])
  | c :: rest =>
    if c = 'e' ∨ c = 'E' then
      match someDigits ended (exponentSign rest).2 with
      | .error fault => .error fault
      | .ok (found, after) => .ok (some ((exponentSign rest).1, found), after)
    else .ok (none, s)

/-- Whether a number is negative, and what follows its sign. -/
def minusSign (s : Text) : Bool × Text :=
  match s with
  | '-' :: rest => (true, rest)
  | _ => (false, s)

/-- A number and what follows it. -/
def readNumeral (ended : Cause) (s : Text) : Except Fault (Numeral × Text) :=
  match readWhole ended (minusSign s).2 with
  | .error fault => .error fault
  | .ok (whole, afterWhole) =>
    match readFraction ended afterWhole with
    | .error fault => .error fault
    | .ok (fraction, afterFraction) =>
      match readExponent ended afterFraction with
      | .error fault => .error fault
      | .ok (exponent, rest) => .ok (⟨(minusSign s).1, whole, fraction, exponent⟩, rest)

theorem someDigits_length {ended : Cause} {s found rest : Text}
    (hread : someDigits ended s = .ok (found, rest)) : rest.length < s.length := by
  unfold someDigits at hread
  split at hread
  · simp at hread
  · next c tail =>
    split at hread
    · next hc =>
      have htail := digits_length tail
      simp only [Except.ok.injEq, digits, Prod.mk.injEq, List.dropWhile_cons, hc,
        if_true] at hread
      obtain ⟨-, rfl⟩ := hread
      simp only [digits] at htail
      simp only [List.length_cons]
      omega
    · simp at hread

theorem readWhole_length {ended : Cause} {s found rest : Text}
    (hread : readWhole ended s = .ok (found, rest)) : rest.length < s.length := by
  unfold readWhole at hread
  split at hread
  · split at hread
    · simp at hread
    · simp only [Except.ok.injEq, Prod.mk.injEq] at hread
      obtain ⟨-, rfl⟩ := hread
      simp
  · exact someDigits_length hread

theorem readFraction_length {ended : Cause} {s found rest : Text}
    (hread : readFraction ended s = .ok (found, rest)) : rest.length ≤ s.length := by
  unfold readFraction at hread
  split at hread
  · have hrest := someDigits_length hread
    simp only [List.length_cons]
    omega
  · simp only [Except.ok.injEq, Prod.mk.injEq] at hread
    simp [hread.2]

theorem exponentSign_length (s : Text) : (exponentSign s).2.length ≤ s.length := by
  unfold exponentSign
  split <;> simp

theorem minusSign_length (s : Text) : (minusSign s).2.length ≤ s.length := by
  unfold minusSign
  split <;> simp

theorem readExponent_length {ended : Cause} {s rest : Text} {found : Option (Bool × Text)}
    (hread : readExponent ended s = .ok (found, rest)) : rest.length ≤ s.length := by
  unfold readExponent at hread
  split at hread
  · simp only [Except.ok.injEq, Prod.mk.injEq] at hread
    simp [← hread.2]
  · split at hread
    · split at hread
      · simp at hread
      · next tail _ _ _ _ hdigits =>
        have hrest := someDigits_length hdigits
        have hsign := exponentSign_length tail
        simp only [Except.ok.injEq, Prod.mk.injEq] at hread
        obtain ⟨-, rfl⟩ := hread
        simp only [List.length_cons]
        omega
    · simp only [Except.ok.injEq, Prod.mk.injEq] at hread
      simp [← hread.2]

theorem readNumeral_length {ended : Cause} {s rest : Text} {numeral : Numeral}
    (hread : readNumeral ended s = .ok (numeral, rest)) : rest.length < s.length := by
  unfold readNumeral at hread
  split at hread
  · simp at hread
  · next hwhole =>
    have hfirst := readWhole_length hwhole
    split at hread
    · simp at hread
    · next hfraction =>
      have hsecond := readFraction_length hfraction
      split at hread
      · simp at hread
      · next hexponent =>
        have hthird := readExponent_length hexponent
        simp only [Except.ok.injEq, Prod.mk.injEq] at hread
        obtain ⟨-, rfl⟩ := hread
        have hsign := minusSign_length s
        omega

/-- A number's value. -/
inductive Number
  | integer (negative : Bool) (magnitude : Nat)
  | floating (value : Float)

/-- Digits appended to a number as long as it stays within a bound, and the
digits that are left. -/
def gather (bound : Nat) (n : Nat) : Text → Nat × Text
  | [] => (n, [])
  | c :: rest =>
    let next := n * 10 + (c.toNat - '0'.toNat)
    if next ≤ bound then gather bound next rest else (n, c :: rest)

/-- A number times a power of ten, each step rounded, or nothing when it is too
large.  The powers that are themselves rounded once reach to 308; below them the
number is divided again and again. -/
def scaled? (value : Float) (power : Int) : Option Float :=
  let ten := fun n => Float.ofScientific 1 false n
  if power.natAbs ≤ 308 then
    if 0 ≤ power then
      let result := value * ten power.natAbs
      if result.isInf then none else some result
    else some (value / ten power.natAbs)
  else if value == 0 then some value
  else if 0 ≤ power then none
  else scaled? (value / ten 308) (power + 308)
termination_by power.natAbs
decreasing_by omega

/-- The value of a number, or the part of its exponent that was not read because
the value is too large. -/
def Numeral.value (numeral : Numeral) : Except Text Number :=
  let (start, dropped) := gather (Nat.pow 2 64 - 1) 0 numeral.whole
  let signed := fun (value : Float) =>
    Number.floating (if numeral.negative then -value else value)
  if dropped.isEmpty ∧ numeral.fraction.isEmpty ∧ numeral.exponent.isNone ∧
      (!numeral.negative ∨ (0 < start ∧ start ≤ Nat.pow 2 63)) then
    .ok (.integer numeral.negative start)
  else
    let (significand, unused) := gather (Nat.pow 2 64 - 1) start numeral.fraction
    let shift : Int := dropped.length + unused.length - numeral.fraction.length
    let value := significand.toUInt64.toFloat
    let finish := fun power =>
      match scaled? value power with
      | some result => .ok (signed result)
      | none => .error []
    match numeral.exponent with
    | none => finish shift
    | some (negative, written) =>
      match gather (Nat.pow 2 31 - 1) 0 written with
      | (power, []) => finish (if negative then shift - power else shift + power)
      | (_, _ :: unread) =>
        if significand ≠ 0 ∧ !negative then .error unread else .ok (signed 0)

/-- Plain notation from 0.00001 up to sixteen digits before the point, else an
exponent. -/
def numberLayout : Decimal.Layout := ⟨-5, 15⟩

def Number.found : Number → Found
  | .integer negative magnitude => .integer negative magnitude
  | .floating value => .floating (Decimal.write numberLayout value.toBits.toNat)

/-- A number named by its value, and what follows it. -/
def readNumber (s : Text) : Except Fault (Found × Text) :=
  match readNumeral .endInValue s with
  | .error fault => .error fault
  | .ok (numeral, rest) =>
    match numeral.value with
    | .ok number => .ok (number.found, rest)
    | .error unread => .error (.behind .numberOutOfRange (unread ++ rest))

end Json

end Commonplace
