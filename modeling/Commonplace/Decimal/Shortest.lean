/-
The shortest decimal numbers for binary floating-point ones.  The search tries
one digit, then two, and so on: of the two neighbours of the value on each grid of
decimals it takes the nearer one that reads back as the same binary number, and
an even one of two equally near.
-/
import Commonplace.Text.Shown

namespace Commonplace

namespace Decimal

/-- A value and the ends of the interval of numbers that are rounded to it, all
three as multiples of one over `scale`. -/
structure Interval where
  low : Nat
  value : Nat
  high : Nat
  scale : Nat
  closed : Bool
deriving DecidableEq

/-- The interval of a positive number from its sixty-four bits.  The gap below a
power of two is half the gap above it, except at the smallest exponent. -/
def Interval.ofBits (bits : Nat) : Interval :=
  let stored := bits / Nat.pow 2 52 % Nat.pow 2 11
  let fraction := bits % Nat.pow 2 52
  let significand := if stored = 0 then fraction else fraction + Nat.pow 2 52
  let exponent := max stored 1
  let below := if fraction = 0 ∧ 1 < stored then 1 else 2
  let up := Nat.pow 2 (exponent - 1077)
  ⟨(4 * significand - below) * up, 4 * significand * up, (4 * significand + 2) * up,
    Nat.pow 2 (1077 - exponent), significand % 2 = 0⟩

/-- Whether a number of the interval's scale lies in it. -/
def Interval.holds (interval : Interval) (n : Nat) : Bool :=
  if interval.closed then interval.low ≤ n && n ≤ interval.high
  else interval.low < n && n < interval.high

/-- The interval for the grid of the multiples of ten to the power `place`, and
the distance of two neighbours on it. -/
def Interval.onGrid (interval : Interval) (place : Int) : Interval × Nat :=
  let finer := Nat.pow 10 (-place).toNat
  (⟨interval.low * finer, interval.value * finer, interval.high * finer, interval.scale,
    interval.closed⟩, interval.scale * Nat.pow 10 place.toNat)

/-- The number of steps to the neighbour of the value on a grid that is taken,
if one lies in the interval. -/
def Interval.neighbour? (interval : Interval) (place : Int) : Option Nat :=
  let (interval, unit) := interval.onGrid place
  let below := interval.value / unit
  let above := below + 1
  match interval.holds (below * unit), interval.holds (above * unit) with
  | false, false => none
  | true, false => some below
  | false, true => some above
  | true, true =>
    let left := interval.value - below * unit
    let right := above * unit - interval.value
    if left < right then some below
    else if right < left then some above
    else if below % 2 = 0 then some below
    else some above

/-- The power of ten of the value's first digit.  Ten to the power 400 makes
every positive value an integer of that many digits more. -/
def Interval.leading (interval : Interval) : Int :=
  (Text.ofNat (interval.value * Nat.pow 10 400 / interval.scale)).length - 401

/-- The fewest digits and the power of ten of the last of them. -/
def Interval.shortest (interval : Interval) : Nat × Int :=
  let found := (List.range 17).findSome? fun (more : Nat) =>
    let place := interval.leading - more
    (interval.neighbour? place).map fun steps => (steps, place)
  found.getD (0, 0)

/-- How digits and a power of ten are laid out: the least and the greatest power
of the first digit that is written without an exponent. -/
structure Layout where
  least : Int
  greatest : Int
deriving DecidableEq

/-- Digits with the power of ten of the first of them. -/
def Layout.write (layout : Layout) (digits : Text) (power : Int) : Text :=
  let zeros := fun n => List.replicate n '0'
  if layout.least ≤ power ∧ power < 0 then
    ['0', '.'] ++ zeros ((-power).toNat - 1) ++ digits
  else if 0 ≤ power ∧ power ≤ layout.greatest then
    let whole := power.toNat + 1
    if digits.length ≤ whole then digits ++ zeros (whole - digits.length) ++ ['.', '0']
    else digits.take whole ++ ['.'] ++ digits.drop whole
  else
    digits.take 1 ++ (if digits.length = 1 then [] else ['.'] ++ digits.drop 1) ++
      ['e', if power < 0 then '-' else '+'] ++ Text.ofNat power.natAbs

/-- A finite number from its sixty-four bits. -/
def write (layout : Layout) (bits : Nat) : Text :=
  let sign : Text := if bits < Nat.pow 2 63 then [] else ['-']
  let magnitude := bits % Nat.pow 2 63
  if magnitude = 0 then sign ++ ['0', '.', '0']
  else
    let (steps, place) := (Interval.ofBits magnitude).shortest
    let digits := Text.ofNat steps
    let significant := (digits.reverse.dropWhile (· = '0')).reverse
    sign ++ layout.write significant (place + digits.length - 1)

end Decimal

end Commonplace
