import ApiView.Text.Halves
import ApiView.Text.LetterCase
import ApiView.Text.Runs

/-!
# Words of a text

A text is cut into runs of letters and digits, and a run into words: acronyms, capitalised words,
rows of small letters and rows of digits. Letters without case count as small.

* `LetterKind`, `kindOf`: digit, upper or lower;
* `splitRun`: the words of one run;
* `runs`, `words`: the runs and the words of any text;
* `capitalise`, `camelCase`: words put together again, each but the first with a capital.
-/

namespace ApiView
namespace Naming

inductive LetterKind
  | digit
  | upper
  | lower
deriving DecidableEq, Repr

def kindOf (c : Char) : LetterKind :=
  if Text.isDigit c then .digit else if Text.isUpper c then .upper else .lower

/-! ## Splitting -/

/-- The words of a run whose pending word is `word` followed by `last`. Digits and letters part
always, a capital after a small letter begins a word, and so does the last capital of an acronym
when a small letter follows it. -/
def splitAfter (word : List Char) (last : Char) : List Char → List (List Char)
  | [] => [word ++ [last]]
  | c :: rest =>
    if (kindOf last == .digit) != (kindOf c == .digit) then
      (word ++ [last]) :: splitAfter [] c rest
    else if kindOf last == .lower && kindOf c == .upper then
      (word ++ [last]) :: splitAfter [] c rest
    else if kindOf last == .upper && kindOf c == .lower && !word.isEmpty then
      word :: splitAfter [last] c rest
    else
      splitAfter (word ++ [last]) c rest

/-- The words of a run of letters and digits. -/
def splitRun : List Char → List (List Char)
  | [] => []
  | c :: rest => splitAfter [] c rest

def runs (cs : List Char) : List (List Char) :=
  Text.runsOf Text.isAlphanumeric cs

def words (cs : List Char) : List (List Char) :=
  (runs cs).flatMap splitRun

/-! ## Putting together -/

def capitalise : List Char → List Char
  | [] => []
  | c :: rest => Text.upperChar c ++ Text.lower rest

/-- Words in a row, the first in small letters and each other with a capital. -/
def joinCamel : List (List Char) → List Char
  | [] => []
  | head :: rest => Text.lower head ++ rest.flatMap capitalise

def camelCase (s : String) : String :=
  String.ofList (joinCamel (words s.toList))

end Naming
end ApiView
