import ApiView.Value.Basic
import ApiView.Text.Halves
import ApiView.Text.Hex

/-!
# Reading JSON

A reader over the characters of a text. Each step returns what is left of the text, and a fault
carries what was left when it was found, so that its place is the length read so far.

* `Fault`, `Fault.message`: what is wrong and where;
* `readString`, `readNumber`, `readValue`: the parts of the grammar;
* `read`: a whole text.

Besides the standard's numbers the words `NaN`, `Infinity` and `-Infinity` are read. A number with a
fraction or an exponent is a double, any other an integer. Of equal member names the first keeps its
place and the last gives the value.
-/

namespace ApiView
namespace Json

/-! ## Faults -/

/-- What is wrong with a text. -/
inductive Reason
  | byteOrderMark
  | expectingValue
  | expectingName
  | expectingColon
  | expectingComma
  | extraData
  | unterminatedString
  | controlCharacter
  | badEscape
  | badUnicodeEscape
  | tooManyDigits
deriving DecidableEq, Repr

/-- A reason, and the text that was left where it was found. -/
structure Fault where
  reason : Reason
  rest : List Char
deriving DecidableEq, Repr

/-- The wording of a reason. -/
def Reason.text : Reason → String
  | .byteOrderMark => "Unexpected UTF-8 BOM (decode using utf-8-sig)"
  | .expectingValue => "Expecting value"
  | .expectingName => "Expecting property name enclosed in double quotes"
  | .expectingColon => "Expecting ':' delimiter"
  | .expectingComma => "Expecting ',' delimiter"
  | .extraData => "Extra data"
  | .unterminatedString => "Unterminated string starting at"
  | .controlCharacter => "Invalid control character at"
  | .badEscape => "Invalid \\escape"
  | .badUnicodeEscape => "Invalid \\uXXXX escape"
  | .tooManyDigits => "Too many digits in an integer"

/-- The number of lines begun and the column reached after some text, both counted from 1. -/
def lineAndColumn (before : List Char) : Nat × Nat :=
  (before.count '\n' + 1, Text.size (before.reverse.takeWhile (· != '\n')).reverse + 1)

def Fault.message (f : Fault) (whole : List Char) : String :=
  let before := whole.take (whole.length - f.rest.length)
  let (line, column) := lineAndColumn before
  f.reason.text ++ ": line " ++ toString line ++ " column " ++ toString column ++ " (char " ++
    toString (Text.size before) ++ ")"

/-! ## Characters -/

def isBlank (c : Char) : Bool :=
  c == ' ' || c == '\t' || c == '\n' || c == '\r'

def skipBlanks (cs : List Char) : List Char :=
  cs.dropWhile isBlank

def isDigit (c : Char) : Bool :=
  '0' ≤ c && c ≤ '9'

def digitsValue (cs : List Char) : Nat :=
  cs.foldl (fun n c => n * 10 + (c.toNat - 48)) 0

/-! ## Strings -/

def escaped? (c : Char) : Option Char :=
  if c == '"' || c == '\\' || c == '/' then some c
  else if c == 'n' then some '\n'
  else if c == 'r' then some '\r'
  else if c == 't' then some '\t'
  else if c == 'b' then some '\x08'
  else if c == 'f' then some '\x0c'
  else none

/-- The code points and 16-bit units of a string up to its closing quote. `start` is the text at the
opening quote. -/
def readUnits (start : List Char) : List Char → Except Fault (List Nat × List Char)
  | [] => .error ⟨.unterminatedString, start⟩
  | '"' :: rest => .ok ([], rest)
  | '\\' :: rest =>
    match rest with
    | [] => .error ⟨.unterminatedString, start⟩
    -- An escape needs something behind it, if only the closing quote.
    | 'u' :: a :: b :: c :: d :: e :: rest' =>
      match Text.hexNumber? [a, b, c, d] with
      | some n => do
        let (units, left) ← readUnits start (e :: rest')
        return (n :: units, left)
      | none => .error ⟨.badUnicodeEscape, rest⟩
    | 'u' :: _ => .error ⟨.badUnicodeEscape, rest⟩
    | c :: rest' =>
      match escaped? c with
      | some x => do
        let (units, left) ← readUnits start rest'
        return (x.toNat :: units, left)
      | none => .error ⟨.badEscape, '\\' :: rest⟩
  | c :: rest =>
    if c < ' ' then .error ⟨.controlCharacter, c :: rest⟩
    else do
      let (units, left) ← readUnits start rest
      return (c.toNat :: units, left)

/-- The characters of a row of units: a high and a low half in a row are one character, and any other
half stands for itself. -/
def joinHalves : List Nat → List Char
  | [] => []
  | [n] => [Text.ofUnit n]
  | n :: m :: rest =>
    if 0xD800 ≤ n && n ≤ 0xDBFF && 0xDC00 ≤ m && m ≤ 0xDFFF then
      Text.ofCode (0x10000 + (n - 0xD800) * 0x400 + (m - 0xDC00)) ++ joinHalves rest
    else Text.ofUnit n :: joinHalves (m :: rest)

def readString (rest : List Char) : Except Fault (String × List Char) := do
  let (units, left) ← readUnits ('"' :: rest) rest
  return (String.ofList (joinHalves units), left)

/-! ## Numbers -/

def maxDigits : Nat := 4300

def readFraction : List Char → List Char × List Char
  | '.' :: rest =>
    match rest.span isDigit with
    -- A point without digits is no part of the number.
    | ([], _) => ([], '.' :: rest)
    | (digits, left) => (digits, left)
  | cs => ([], cs)

/-- The exponent, if there is a whole one. -/
def readExponent (cs : List Char) : Option Int × List Char :=
  match cs with
  | e :: rest =>
    if e == 'e' || e == 'E' then
      let (negative, body) := match rest with
        | '-' :: body => (true, body)
        | '+' :: body => (false, body)
        | body => (false, body)
      match body.span isDigit with
      -- The number ends in front of a letter that no digits follow.
      | ([], _) => (none, cs)
      | (digits, left) =>
        let n : Int := digitsValue digits
        (some (if negative then -n else n), left)
    else (none, cs)
  | [] => (none, cs)

/-- The whole part of a number: a zero, or digits that do not begin with one. -/
def readWhole : List Char → Option (List Char × List Char)
  | '0' :: rest => some (['0'], rest)
  | c :: rest => if isDigit c then some ((c :: rest).span isDigit) else none
  | [] => none

/-- A number, from its sign on. -/
def readNumber (cs : List Char) : Option (Except Fault (Value × List Char)) :=
  let (negative, body) := match cs with
    | '-' :: body => (true, body)
    | _ => (false, cs)
  match readWhole body with
  | none => none
  | some (whole, afterWhole) =>
    let (fraction, afterFraction) := readFraction afterWhole
    let (exponent?, rest) := readExponent afterFraction
    if fraction.isEmpty && exponent?.isNone then
      if maxDigits < whole.length then some (.error ⟨.tooManyDigits, cs⟩)
      else
        let n : Int := digitsValue whole
        some (.ok (.int (if negative then -n else n), rest))
    else
      let x := Binary64.ofDecimal negative (digitsValue (whole ++ fraction))
        (exponent?.getD 0 - fraction.length)
      some (.ok (.scalar (.float x), rest))

/-! ## Values -/

def dropWord? : List Char → List Char → Option (List Char)
  | [], cs => some cs
  | w :: word, c :: cs => if w == c then dropWord? word cs else none
  | _ :: _, [] => none

def words : List (List Char × Scalar) :=
  [("null".toList, .null), ("true".toList, .bool true), ("false".toList, .bool false),
   ("NaN".toList, .float Binary64.nan), ("Infinity".toList, .float (Binary64.infinity false)),
   ("-Infinity".toList, .float (Binary64.infinity true))]

def readPlain (cs : List Char) : Except Fault (Value × List Char) :=
  match words.findSome? fun (word, s) => (dropWord? word cs).map fun rest => (s, rest) with
  | some (s, rest) => .ok (.scalar s, rest)
  | none => (readNumber cs).getD (.error ⟨.expectingValue, cs⟩)

mutual

/-- A value at the start of a text. The first argument bounds the depth of the recursion. -/
def readValue : Nat → List Char → Except Fault (Value × List Char)
  | 0, cs => .error ⟨.expectingValue, cs⟩
  | _ + 1, '"' :: rest => do
    let (s, left) ← readString rest
    return (.str s, left)
  | fuel + 1, '[' :: rest =>
    match skipBlanks rest with
    | ']' :: left => .ok (.list [], left)
    | cs => do
      let (items, left) ← readItems fuel cs
      return (.list items, left)
  | fuel + 1, '\x7b' :: rest =>
    match skipBlanks rest with
    | '\x7d' :: left => .ok (.map [], left)
    | cs => do
      let (members, left) ← readMembers fuel cs
      return (.map (Entries.ofPairs members), left)
  | _ + 1, cs => readPlain cs

/-- The items of a list from the first one on, and its closing bracket. -/
def readItems : Nat → List Char → Except Fault (List Value × List Char)
  | 0, cs => .error ⟨.expectingValue, cs⟩
  | fuel + 1, cs => do
    let (v, left) ← readValue fuel cs
    match skipBlanks left with
    | ']' :: rest => return ([v], rest)
    | ',' :: rest => do
      let (items, left) ← readItems fuel (skipBlanks rest)
      return (v :: items, left)
    | rest => throw ⟨.expectingComma, rest⟩

/-- The members of a mapping from the first one on, and its closing brace. -/
def readMembers : Nat → List Char → Except Fault (List (Scalar × Value) × List Char)
  | 0, cs => .error ⟨.expectingName, cs⟩
  | fuel + 1, '"' :: cs => do
    let (name, left) ← readString cs
    match skipBlanks left with
    | ':' :: rest => do
      let (v, left) ← readValue fuel (skipBlanks rest)
      match skipBlanks left with
      | '\x7d' :: rest => return ([(.str name, v)], rest)
      | ',' :: rest => do
        let (members, left) ← readMembers fuel (skipBlanks rest)
        return ((.str name, v) :: members, left)
      | rest => throw ⟨.expectingComma, rest⟩
    | rest => throw ⟨.expectingColon, rest⟩
  | _ + 1, cs => .error ⟨.expectingName, cs⟩

end

def read (cs : List Char) : Except Fault Value := do
  if cs.head? == some '\ufeff' then throw ⟨.byteOrderMark, cs⟩
  -- A value inside another one takes two levels and at least one character.
  let (v, left) ← readValue (2 * cs.length + 2) (skipBlanks cs)
  match skipBlanks left with
  | [] => return v
  | rest => throw ⟨.extraData, rest⟩

end Json
end ApiView
