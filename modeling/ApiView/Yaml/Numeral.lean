import ApiView.Text.Decimal
import ApiView.Yaml.Cursor
import ApiView.Yaml.Form

/-!
# Numbers of YAML

The numbers that a tag asks for may be written in more ways than the forms that name a type: with
blanks around them, with the digits of any script, and with a sign in every part of a number in base
60.

* `integerIn`: an integer in a base;
* `readInt`: an integer;
* `decimal`: a number with a point;
* `readFloat`: a number with a point, in base 60, or in words.
-/

namespace ApiView
namespace Yaml

def badNumber {α : Type} : Except Fault α :=
  .error (.defect .badNumber)

/-! ## Integers -/

def digitsIn (base : Nat) (cs : List Char) : Option Nat :=
  if cs.isEmpty then none
  else
    cs.foldl (fun acc c => do
      let n ← acc
      let d ← Text.hexValue? c
      if d < base then some (n * base + d) else none) (some 0)

def baseMarks : Nat → List Char
  | 2 => ['b', 'B']
  | 8 => ['o', 'O']
  | 16 => ['x', 'X']
  | _ => []

def dropMark (base : Nat) : List Char → List Char
  | '0' :: mark :: rest => if (baseMarks base).contains mark then rest else '0' :: mark :: rest
  | cs => cs

/-- A number in a base, with blanks around it, a sign and the mark of the base allowed. -/
def integerIn (base : Nat) (cs : List Char) : Except Fault Int :=
  let body := Text.numeral cs
  let digits := dropMark base (dropSign body)
  if base == 10 && Json.maxDigits < digits.length then badNumber
  else
    match digitsIn base digits with
    | some n => .ok (if body.head? == some '-' then -(n : Int) else n)
    | none => badNumber

/-- The parts of a number in base 60, put together. -/
def fromBase60 (parts : List Int) : Int :=
  parts.foldl (fun n part => n * 60 + part) 0

/-- The magnitude of an integer; a zero in front or after a sign tells the base. -/
def readMagnitude : List Char → Except Fault Int
  | [] => .error (.defect .outOfBounds)
  | '0' :: 'b' :: rest => integerIn 2 rest
  | '0' :: 'x' :: rest => integerIn 16 rest
  | '0' :: rest => integerIn 8 ('0' :: rest)
  | cs =>
    if cs.contains ':' then do
      return fromBase60 (← (Text.fieldsAt ':' cs).mapM (integerIn 10))
    else integerIn 10 cs

def readInt (text : List Char) : Except Fault Int := do
  match text.filter (· != '_') with
  | '-' :: rest => return -(← readMagnitude rest)
  | '+' :: rest => readMagnitude rest
  | cs => readMagnitude cs

/-! ## Numbers with a point -/

def exponentOf : List Char → Option Int
  | [] => some 0
  | e :: rest =>
    if e == 'e' then
      let digits := dropSign rest
      if digits.isEmpty || !digits.all isDigit then none
      else some (if rest.head? == some '-' then -(number digits : Int) else number digits)
    else none

/-- A decimal, with blanks around it, a sign, and words allowed. -/
def decimal (cs : List Char) : Except Fault Binary64 :=
  let body := Text.numeral cs
  let negative := body.head? == some '-'
  let magnitude := dropSign body
  let word := String.ofList magnitude
  if word == "inf" || word == "infinity" then .ok (Binary64.infinity negative)
  else if word == "nan" then .ok Binary64.nan
  else
    let (whole, rest) := magnitude.span isDigit
    let (fraction, rest) := match rest with
      | '.' :: rest => rest.span isDigit
      | rest => ([], rest)
    match exponentOf rest with
    | some e =>
      if whole.isEmpty && fraction.isEmpty then badNumber
      else .ok (Binary64.ofDecimal negative (number (whole ++ fraction)) (e - fraction.length))
    | none => badNumber

/-- The parts of a number in base 60, the last one first, weighted and added up. -/
def addBase60 (total : Binary64) (weight : Nat) : List Binary64 → Except Fault Binary64
  | [] => .ok total
  | part :: parts =>
    match part.scale? weight with
    | some term => addBase60 (total.add term) (weight * 60) parts
    | none => .error (.defect .numberTooLarge)

def readFloatMagnitude (cs : List Char) : Except Fault Binary64 := do
  if cs.contains ':' then
    addBase60 (Binary64.ofFields false 0) 1 (← (Text.fieldsAt ':' cs).mapM decimal).reverse
  else decimal cs

/-- A number after its sign, which is turned if it is a minus. The word for what is no number always
means the same; any other result that is no number is one of its own, told apart by its place. -/
def readFloatAfter (negative : Bool) (place : Nat) (cs : List Char) : Except Fault Binary64 := do
  let word := String.ofList cs
  if word == ".inf" then return Binary64.infinity negative
  else if word == ".nan" then return Binary64.nan
  else
    let x ← readFloatMagnitude cs
    return if x.isNaN then Binary64.nanOf place else if negative then x.neg else x

def readFloat (place : Nat) (text : List Char) : Except Fault Binary64 :=
  match (text.filter (· != '_')).map Char.toLower with
  | [] => .error (.defect .outOfBounds)
  | '-' :: rest => readFloatAfter true place rest
  | '+' :: rest => readFloatAfter false place rest
  | cs => readFloatAfter false place cs

end Yaml
end ApiView
