/-!
# Binary floating point

Numbers with a fraction are IEEE 754 doubles, kept as their 64 bits so that equality of values is
equality of bits and every operation is exact arithmetic on integers.

* `Binary64`: the bits, with sign, significand and exponent read off them;
* `Binary64.ofRatio`: the double nearest to a fraction, a half going to the even neighbour;
* `Binary64.ofDecimal`: the double nearest to a decimal;
* `Binary64.magnitude`: the exact size of a finite double;
* `Binary64.toInt?`: the integer that a double equals, if there is one;
* `Binary64.add`, `Binary64.scale?`: sums, and products with integers;
* `Binary64.sameNumber`: equality as numbers.
-/

namespace ApiView

/-- A double, as its bits. -/
structure Binary64 where
  bits : UInt64
deriving DecidableEq, Repr

namespace Binary64

/-! ## Reading the bits -/

def negative (x : Binary64) : Bool :=
  Nat.pow 2 63 ≤ x.bits.toNat

def exponentBits (x : Binary64) : Nat :=
  x.bits.toNat / Nat.pow 2 52 % Nat.pow 2 11

def fractionBits (x : Binary64) : Nat :=
  x.bits.toNat % Nat.pow 2 52

def isNaN (x : Binary64) : Bool :=
  x.exponentBits == 2047 && x.fractionBits != 0

def isInfinite (x : Binary64) : Bool :=
  x.exponentBits == 2047 && x.fractionBits == 0

def isFinite (x : Binary64) : Bool :=
  x.exponentBits != 2047

/-- The integer whose multiple by a power of two is the magnitude of a finite double. -/
def significand (x : Binary64) : Nat :=
  if x.exponentBits == 0 then x.fractionBits else x.fractionBits + Nat.pow 2 52

/-- The power of two that goes with `significand`. -/
def exponent (x : Binary64) : Int :=
  if x.exponentBits == 0 then -1074 else (x.exponentBits : Int) - 1075

def isZero (x : Binary64) : Bool :=
  x.exponentBits == 0 && x.fractionBits == 0

/-! ## Building -/

def ofFields (negative : Bool) (magnitude : Nat) : Binary64 :=
  ⟨UInt64.ofNat (if negative then magnitude + Nat.pow 2 63 else magnitude)⟩

def infinityBits : Nat := 2047 * Nat.pow 2 52

def infinity (negative : Bool) : Binary64 :=
  ofFields negative infinityBits

def nan : Binary64 :=
  ofFields false (infinityBits + Nat.pow 2 51)

/-- A NaN that is told apart from the others by a number. -/
def nanOf (n : Nat) : Binary64 :=
  ofFields false (infinityBits + Nat.pow 2 51 + 1 + n % Nat.pow 2 50)

def neg (x : Binary64) : Binary64 :=
  ofFields (!x.negative) (x.bits.toNat % Nat.pow 2 63)

/-- The nearest integer to `num / den`, a half going to the even one. -/
def roundHalfEven (num den : Nat) : Nat :=
  let q := num / den
  let r := num % den
  if 2 * r < den then q else if den < 2 * r then q + 1 else q + q % 2

/-- `num / den` in units of `2 ^ e`, rounded. -/
def scaledRound (num den : Nat) (e : Int) : Nat :=
  if 0 ≤ e then roundHalfEven num (den * Nat.pow 2 e.toNat)
  else roundHalfEven (num * Nat.pow 2 (-e).toNat) den

/-- The exponent of the last place that a double near `num / den` has. -/
def unitExponent (num den : Nat) : Int :=
  let guess := (num.log2 : Int) - den.log2 - 52
  let tooLarge := if 0 ≤ guess then num < den * Nat.pow 2 (guess.toNat + 52)
    else num * Nat.pow 2 (-guess).toNat < den * Nat.pow 2 52
  max (-1074) (if tooLarge then guess - 1 else guess)

/-- The bits of the magnitude nearest to `num / den`. -/
def magnitudeBits (num den : Nat) : Nat :=
  if num == 0 then 0
  else
    let e := unitExponent num den
    let q := scaledRound num den e
    -- The leading bit of the significand carries into the exponent, also when rounding overflows it.
    let bits := if e == -1074 then q else (e + 1074).toNat * Nat.pow 2 52 + q
    min bits infinityBits

/-- The double nearest to a fraction, an overflow giving infinity. -/
def ofRatio (negative : Bool) (num den : Nat) : Binary64 :=
  ofFields negative (magnitudeBits num den)

/-- The double nearest to `digits * 10 ^ exp`. Exponents far outside the range of doubles are
answered without computing the power. -/
def ofDecimal (negative : Bool) (digits : Nat) (exp : Int) : Binary64 :=
  if digits == 0 then ofFields negative 0
  else if 400 < exp then infinity negative
  else if 0 ≤ exp then ofRatio negative (digits * Nat.pow 10 exp.toNat) 1
  else if exp < -400 - (digits.log2 : Int) then ofFields negative 0
  else ofRatio negative digits (Nat.pow 10 (-exp).toNat)

/-! ## Values -/

def magnitude (x : Binary64) : Nat × Nat :=
  if 0 ≤ x.exponent then (x.significand * Nat.pow 2 x.exponent.toNat, 1)
  else (x.significand, Nat.pow 2 (-x.exponent).toNat)

def toInt? (x : Binary64) : Option Int :=
  if x.isFinite then
    let (num, den) := x.magnitude
    if num % den == 0 then
      some (if x.negative then -((num / den : Nat) : Int) else (num / den : Nat))
    else none
  else none

/-! ## Arithmetic -/

def numerator (x : Binary64) : Int :=
  if x.negative then -(x.magnitude.1 : Int) else x.magnitude.1

/-- The sum of two doubles, rounded. Opposite numbers add up to the positive zero. -/
def add (x y : Binary64) : Binary64 :=
  if x.isNaN || y.isNaN then nan
  else if x.isInfinite then if y.isInfinite && x.negative != y.negative then nan else x
  else if y.isInfinite then y
  else
    let sum := x.numerator * y.magnitude.2 + y.numerator * x.magnitude.2
    if sum == 0 then ofFields (x.negative && y.negative) 0
    else ofRatio (decide (sum < 0)) sum.natAbs (x.magnitude.2 * y.magnitude.2)

/-- The product of a double and a positive integer, which is rounded to a double first; none if that
integer is too large for one. -/
def scale? (x : Binary64) (n : Nat) : Option Binary64 :=
  let factor := ofRatio false n 1
  if factor.isInfinite then none
  else if !x.isFinite then some x
  else
    some (ofRatio x.negative (x.magnitude.1 * factor.magnitude.1)
      (x.magnitude.2 * factor.magnitude.2))

/-! ## Equality -/

/-- Equality as numbers: zeros are equal whatever their sign, and what is no number equals itself
alone. -/
def sameNumber (x y : Binary64) : Bool :=
  (x.isZero && y.isZero) || x == y

end Binary64
end ApiView
