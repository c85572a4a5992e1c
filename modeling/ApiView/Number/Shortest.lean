import ApiView.Number.Binary64

/-!
# The shortest decimal of a double

A double is written with the fewest digits that read back to it, and of those with the ones nearest
to its value.

* `Binary64.rounds`: whether a fraction reads back to the double;
* `Binary64.shortest`: digits and power of ten of the shortest decimal;
* `Binary64.text`: the written form, positional between `10^-4` and `10^16`.
-/

namespace ApiView
namespace Binary64

/-! ## The interval of a double -/

/-- A positive finite double and the two midpoints to its neighbours, in units of `1 / den`. -/
structure Interval where
  low : Nat
  value : Nat
  high : Nat
  den : Nat
  closed : Bool

/-- The fractions that round to a positive finite double. Below a power of two the neighbour is
half as far away; the ends belong to the interval when the significand is even. -/
def interval (x : Binary64) : Interval :=
  let m := x.significand
  let below := if m == Nat.pow 2 52 && 1 < x.exponentBits then 1 else 2
  let scale := if 0 ≤ x.exponent then Nat.pow 2 x.exponent.toNat else 1
  { low := (4 * m - below) * scale
    value := 4 * m * scale
    high := (4 * m + 2) * scale
    den := if 0 ≤ x.exponent then 4 else 4 * Nat.pow 2 (-x.exponent).toNat
    closed := m % 2 == 0 }

/-- Whether `num / den` reads back to the double of an interval. -/
def Interval.rounds (i : Interval) (num den : Nat) : Bool :=
  let low := i.low * den
  let high := i.high * den
  let n := num * i.den
  if i.closed then low ≤ n && n ≤ high else low < n && n < high

/-! ## Digits -/

def decimalDigits (n : Nat) : List Char :=
  Nat.toDigits 10 n

/-- The least `j ≤ fuel` with `den ≤ num * 10 ^ j`. -/
def leadingZeros (num den : Nat) : Nat → Nat
  | 0 => 0
  | fuel + 1 => if den ≤ num then 0 else leadingZeros (num * 10) den fuel + 1

/-- The power of ten of the first digit of `num / den`. -/
def firstPower (num den : Nat) : Int :=
  if den ≤ num then ((decimalDigits (num / den)).length : Int) - 1
  else -(leadingZeros num den 330 : Int)

def decimalRatio (d : Nat) (k : Int) : Nat × Nat :=
  if 0 ≤ k then (d * Nat.pow 10 k.toNat, 1) else (d, Nat.pow 10 (-k).toNat)

/-- The better of the two neighbours of the value on the grid of multiples of `10 ^ k`, if one of
them reads back. -/
def gridPoint? (i : Interval) (k : Int) : Option Nat :=
  let (gn, gd) := decimalRatio 1 k
  let below := i.value * gd / (i.den * gn)
  let remainder := i.value * gd % (i.den * gn)
  let reads (d : Nat) : Bool :=
    let (n, m) := decimalRatio d k
    d != 0 && i.rounds n m
  let lowReads := reads below
  let highReads := reads (below + 1)
  if lowReads && highReads then
    let half := i.den * gn
    if 2 * remainder < half then some below
    else if half < 2 * remainder then some (below + 1)
    else some (below + below % 2)
  else if lowReads then some below
  else if highReads then some (below + 1)
  else none

/-- The first grid that has a point which reads back, from `n` digits on. -/
def shortestFrom (i : Interval) (p : Int) (n : Nat) : Nat → Nat × Int
  | 0 => (0, 0)
  | fuel + 1 =>
    let k := p - n + 1
    match gridPoint? i k with
    | some d => (d, k)
    | none => shortestFrom i p (n + 1) fuel

def stripZeros (d : Nat) (k : Int) : Nat → Nat × Int
  | 0 => (d, k)
  | fuel + 1 => if d % 10 == 0 && d != 0 then stripZeros (d / 10) (k + 1) fuel else (d, k)

/-- Digits and power of ten of the shortest decimal of a positive finite double. -/
def shortest (x : Binary64) : Nat × Int :=
  let i := x.interval
  let (d, k) := shortestFrom i (firstPower i.value i.den) 1 20
  stripZeros d k 20

/-! ## Text -/

/-- Digits with a point after the first `n` of them; a missing side is filled with a zero. -/
def positional (digits : List Char) (n : Int) : List Char :=
  if n ≤ 0 then '0' :: '.' :: (List.replicate (-n).toNat '0' ++ digits)
  else if digits.length ≤ n.toNat then
    digits ++ List.replicate (n.toNat - digits.length) '0' ++ ['.', '0']
  else digits.take n.toNat ++ '.' :: digits.drop n.toNat

def scientific (digits : List Char) (exp : Int) : List Char :=
  let fraction := if digits.length ≤ 1 then [] else '.' :: digits.drop 1
  let size := decimalDigits exp.natAbs
  let padded := if size.length < 2 then '0' :: size else size
  digits.take 1 ++ fraction ++ 'e' :: (if exp < 0 then '-' else '+') :: padded

/-- The written form of a double. -/
def text (x : Binary64) : String :=
  let sign := if x.negative then "-" else ""
  if x.isNaN then "nan"
  else if x.isInfinite then sign ++ "inf"
  else if x.isZero then sign ++ "0.0"
  else
    let (d, k) := x.shortest
    let digits := decimalDigits d
    let exp := k + digits.length - 1
    let body := if -4 ≤ exp && exp < 16 then positional digits (exp + 1) else scientific digits exp
    sign ++ String.ofList body

end Binary64
end ApiView
