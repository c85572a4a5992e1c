import ApiView.Json.Reader
import ApiView.Text.Runs
import ApiView.Value.Basic

/-!
# The forms of YAML scalars

A scalar without a tag names its own type by its form.

* `ScalarType`: the types of scalars;
* `isInt`, `isFloat`, `readTime`: the forms of numbers, dates and times;
* `resolve`: the type that a form names.
-/

namespace ApiView
namespace Yaml

/-- The types that a scalar may have. -/
inductive ScalarType
  | str
  | null
  | bool
  | int
  | float
  | timestamp
  | binary
  | merge
  | default
  | reserved
deriving DecidableEq, Repr

/-! ## Forms -/

def isDigit (c : Char) : Bool :=
  '0' ≤ c && c ≤ '9'

def isDigitOrLine (c : Char) : Bool :=
  isDigit c || c == '_'

def dropSign : List Char → List Char
  | '+' :: rest => rest
  | '-' :: rest => rest
  | cs => cs

def nullWords : List String :=
  ["", "~", "null", "Null", "NULL"]

def trueWords : List String :=
  ["yes", "Yes", "YES", "true", "True", "TRUE", "on", "On", "ON"]

def falseWords : List String :=
  ["no", "No", "NO", "false", "False", "FALSE", "off", "Off", "OFF"]

/-- Whether a field is the second or a later part of a number in base 60. -/
def isSexagesimal : List Char → Bool
  | [a] => isDigit a
  | [a, b] => '0' ≤ a && a ≤ '5' && isDigit b
  | _ => false

/-- Whether a text is an integer. -/
def isInt (cs : List Char) : Bool :=
  match dropSign cs with
  | '0' :: 'b' :: rest => !rest.isEmpty && rest.all fun c => c == '0' || c == '1' || c == '_'
  | '0' :: 'x' :: rest =>
    !rest.isEmpty && rest.all fun c => c == '_' || (Text.hexValue? c).isSome
  | '0' :: rest => rest.all fun c => ('0' ≤ c && c ≤ '7') || c == '_'
  | c :: rest =>
    match Text.fieldsAt ':' (c :: rest) with
    | whole :: parts => isDigit c && whole.all isDigitOrLine && parts.all isSexagesimal
    | [] => false
  | [] => false

def isExponent : List Char → Bool
  | [] => true
  | e :: sign :: digits =>
    (e == 'e' || e == 'E') && (sign == '+' || sign == '-') && !digits.isEmpty && digits.all isDigit
  | _ => false

/-- Whether a text is digits, a point, more digits and perhaps an exponent. -/
def isDecimal (cs : List Char) : Bool :=
  match cs with
  | c :: _ =>
    match cs.dropWhile isDigitOrLine with
    | '.' :: rest => isDigit c && isExponent (rest.dropWhile isDigitOrLine)
    | _ => false
  | [] => false

def isFraction : List Char → Bool
  | '.' :: c :: rest => isDigit c && isExponent (rest.dropWhile isDigitOrLine)
  | _ => false

def isSexagesimalDecimal (cs : List Char) : Bool :=
  match Text.fieldsAt '.' cs with
  | [whole, fraction] =>
    match Text.fieldsAt ':' whole with
    | (c :: rest) :: part :: parts =>
      isDigit c && rest.all isDigitOrLine && (part :: parts).all isSexagesimal &&
        fraction.all isDigitOrLine
    | _ => false
  | _ => false

def isFloatWord (cs : List Char) : Bool :=
  [".inf", ".Inf", ".INF"].contains (String.ofList (dropSign cs)) ||
    [".nan", ".NaN", ".NAN"].contains (String.ofList cs)

def isFloat (cs : List Char) : Bool :=
  isDecimal (dropSign cs) || isFraction cs || isSexagesimalDecimal (dropSign cs) || isFloatWord cs

/-! ## Dates and times -/

def oneOrTwoDigits : List Char → Option (List Char × List Char)
  | a :: b :: rest =>
    if isDigit a && isDigit b then some ([a, b], rest)
    else if isDigit a then some ([a], b :: rest)
    else none
  | [a] => if isDigit a then some ([a], []) else none
  | [] => none

def twoDigits : List Char → Option (List Char × List Char)
  | a :: b :: rest => if isDigit a && isDigit b then some ([a, b], rest) else none
  | _ => none

def after (c : Char) : List Char → Option (List Char)
  | x :: rest => if x == c then some rest else none
  | [] => none

def number (digits : List Char) : Nat :=
  digits.foldl (fun n c => n * 10 + (c.toNat - 48)) 0

/-- A fraction of a second in microseconds; further digits are dropped. -/
def microseconds (digits : List Char) : Nat :=
  number ((digits ++ List.replicate 6 '0').take 6)

def readSecondFraction : List Char → Nat × List Char
  | '.' :: rest =>
    let (digits, rest) := rest.span isDigit
    (if digits.isEmpty then 0 else microseconds digits, rest)
  | cs => (0, cs)

/-- A distance from UTC in minutes, up to the end of the text, or none. -/
def readOffset (cs : List Char) : Option (Option Int) :=
  match cs.dropWhile fun c => c == ' ' || c == '\t' with
  | [] => if cs.isEmpty then some none else none
  | ['Z'] => some (some 0)
  | sign :: rest =>
    if sign == '+' || sign == '-' then do
      let (hours, rest) ← oneOrTwoDigits rest
      let minutes ← match rest with
        | [] => some []
        | rest => do
          let (minutes, rest) ← twoDigits (← after ':' rest)
          if rest.isEmpty then some minutes else none
      let total : Int := (number hours * 60 + number minutes : Nat)
      return some (if sign == '-' then -total else total)
    else none

def skipToTime : List Char → Option (List Char)
  | c :: rest =>
    if c == 'T' || c == 't' then some rest
    else if c == ' ' || c == '\t' then some (rest.dropWhile fun c => c == ' ' || c == '\t')
    else none
  | [] => none

def readClock (date : Date) (cs : List Char) : Option DateTime := do
  let (hour, rest) ← oneOrTwoDigits (← skipToTime cs)
  let (minute, rest) ← twoDigits (← after ':' rest)
  let (second, rest) ← twoDigits (← after ':' rest)
  let (micros, rest) := readSecondFraction rest
  let offset ← readOffset rest
  return ⟨date, number hour, number minute, number second, micros, offset⟩

/-- A date, or a date with a time, and whether month and day have two digits. -/
def readTime (cs : List Char) : Option (Scalar × Bool) := do
  let year := cs.take 4
  if year.length < 4 || !year.all isDigit then none
  else
    let (month, rest) ← oneOrTwoDigits (← after '-' (cs.drop 4))
    let (day, rest) ← oneOrTwoDigits (← after '-' rest)
    let date : Date := ⟨number year, number month, number day⟩
    if rest.isEmpty then return (.date date, month.length == 2 && day.length == 2)
    else return (.dateTime (← readClock date rest), true)

/-- Words that are no scalars although they have the form of one. -/
def reservedWords : List String :=
  ["!", "&", "*"]

/-- The type that a form names. -/
def typeOfForm (text : List Char) : ScalarType :=
  let word := String.ofList text
  if nullWords.contains word then .null
  else if trueWords.contains word || falseWords.contains word then .bool
  else if isFloat text then .float
  else if isInt text then .int
  else if word == "<<" then .merge
  else if word == "=" then .default
  else if reservedWords.contains word then .reserved
  else
    match readTime text with
    | some (_, true) => .timestamp
    | _ => .str

/-- A text without the line break at its end, if there is something before it. -/
def dropFinalBreak : List Char → List Char
  | [] => []
  | [c] => [c]
  | [c, '\n'] => [c]
  | c :: rest => c :: dropFinalBreak rest

/-- The type that the form of a scalar names. A line break at its end does not count. -/
def resolve (text : List Char) : ScalarType :=
  typeOfForm (dropFinalBreak text)

end Yaml
end ApiView
