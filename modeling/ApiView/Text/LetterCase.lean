import ApiView.Text.Alphabet

/-!
# Upper and lower case

Full case mapping over Unicode: one character may become several (`ß` is `SS` in capitals), and a
capital sigma at the end of a word has a small form of its own.

* `upperChar`, `upper`: the capital form of a character and of a text;
* `lowerChar`: the small form of a character, taken by itself;
* `lower`: the small form of a text, which looks around each sigma.
-/

namespace ApiView
namespace Text

def Shift.holds (r : Shift) (n : Nat) : Bool :=
  r.first ≤ n && n ≤ r.last && (n - r.first) % r.step == 0

/-- The other case of a character beyond ASCII, from a table of sequences and one of shifts. -/
def mapCase (expansions : List (Nat × List Nat)) (shifts : List Shift) (c : Char) : List Char :=
  match expansions.lookup c.toNat with
  | some codes => codes.map Char.ofNat
  | none =>
    match shifts.find? (·.holds c.toNat) with
    | some r => [Char.ofNat (c.toNat + r.offset).toNat]
    | none => [c]

def upperChar (c : Char) : List Char :=
  if c.toNat < 128 then
    [if 'a' ≤ c && c ≤ 'z' then Char.ofNat (c.toNat - 32) else c]
  else
    mapCase upperExpansions upperShifts c

/-- The small form of a character that stands alone. -/
def lowerChar (c : Char) : List Char :=
  if c.toNat < 128 then
    [if 'A' ≤ c && c ≤ 'Z' then Char.ofNat (c.toNat + 32) else c]
  else
    mapCase lowerExpansions lowerShifts c

def upper (cs : List Char) : List Char :=
  cs.flatMap upperChar

/-! ## Small letters -/

def isCaseIgnorable (c : Char) : Bool :=
  inRanges ignorableRanges c.toNat

def isCased (c : Char) : Bool :=
  inRanges casedRanges c.toNat

/-- Whether a word goes on: the next character that counts is cased. -/
def wordContinues (cs : List Char) : Bool :=
  match cs.dropWhile isCaseIgnorable with
  | [] => false
  | c :: _ => isCased c

/-- `lower` after some text whose last character that counts is cased, or is not. -/
def lowerFrom (afterCased : Bool) : List Char → List Char
  | [] => []
  | c :: cs =>
    let mapped :=
      if c == 'Σ' then [if afterCased && !wordContinues cs then 'ς' else 'σ'] else lowerChar c
    let next :=
      if c.isAlpha then true else if isCaseIgnorable c then afterCased else isCased c
    mapped ++ lowerFrom next cs

def lower (cs : List Char) : List Char :=
  lowerFrom false cs

/-! ## On strings -/

def toUpper (s : String) : String :=
  String.ofList (upper s.toList)

def toLower (s : String) : String :=
  String.ofList (lower s.toList)

end Text
end ApiView
