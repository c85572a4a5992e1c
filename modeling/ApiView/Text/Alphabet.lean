import ApiView.Text.Blank
import ApiView.Text.WordTable
import ApiView.Text.CaseTable

/-!
# Classes of characters

Digits, upper-case letters and word characters over all of Unicode. Each class answers ASCII by a
comparison and everything else from a table.

* `isDigit`: decimal digits of every script, and superscripts;
* `isUpper`: upper-case letters;
* `isAlphanumeric`: letters and numeric characters;
* `isWordChar`: the same with the underscore.
-/

namespace ApiView
namespace Text

def Stride.holds (r : Stride) (n : Nat) : Bool :=
  r.first ≤ n && n ≤ r.last && (n - r.first) % r.step == 0

def isDigit (c : Char) : Bool :=
  if c.toNat < 128 then '0' ≤ c && c ≤ '9' else inRanges digitRanges c.toNat

def isUpper (c : Char) : Bool :=
  if c.toNat < 128 then 'A' ≤ c && c ≤ 'Z' else upperRuns.any (·.holds c.toNat)

def isAlphanumeric (c : Char) : Bool :=
  if c.toNat < 128 then
    ('0' ≤ c && c ≤ '9') || ('A' ≤ c && c ≤ 'Z') || ('a' ≤ c && c ≤ 'z')
  else
    inRanges wordRanges c.toNat

/-- Whether a character may stand in a word: a letter, a numeric character or an underscore. -/
def isWordChar (c : Char) : Bool :=
  isAlphanumeric c || c == '_'

end Text
end ApiView
