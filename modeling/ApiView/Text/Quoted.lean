import ApiView.Text.Halves
import ApiView.Text.Hex
import ApiView.Text.Blank
import ApiView.Text.PrintableTable

/-!
# Quoted display of text

A text inside a displayed list or mapping, or after `%r` in a log line, stands between quotes. The
quotes are single unless the text holds a single quote and no double one; the quote in use, the
backslash and everything without a visible form are escaped, a half of a surrogate pair as its unit.

* `quote`: the display of a text;
* `quoteBytes`: the display of a byte string, which shows ASCII only.
-/

namespace ApiView
namespace Text

/-- Whether a code has a visible form of its own. A half of a pair has none. -/
def isPrintable (n : Nat) : Bool :=
  if n < 128 then 0x20 ≤ n && n ≤ 0x7E else !isHalf n && !inRanges unprintableRanges n

/-- The numeric escape of a code point, as short as its size allows. -/
def codeEscape (n : Nat) : List Char :=
  if n < 0x100 then '\\' :: 'x' :: hexPadded 2 n
  else if n < 0x10000 then '\\' :: 'u' :: hexPadded 4 n
  else '\\' :: 'U' :: hexPadded 8 n

/-- One code of a display between the given quotes. -/
def quoteCode (quotes : Char) (n : Nat) : List Char :=
  if n == quotes.toNat then ['\\', quotes]
  else if n == 0x5C then ['\\', '\\']
  else if n == 0x0A then ['\\', 'n']
  else if n == 0x0D then ['\\', 'r']
  else if n == 0x09 then ['\\', 't']
  else if isPrintable n then ofCode n
  else codeEscape n

def chooseQuotes (cs : List Char) : Char :=
  if cs.contains '\'' && !cs.contains '"' then '"' else '\''

def quote (s : String) : String :=
  let cs := s.toList
  let quotes := chooseQuotes cs
  String.ofList (quotes :: ((codes cs).flatMap (quoteCode quotes) ++ [quotes]))

def quoteBytes (bytes : List UInt8) : String :=
  let cs := bytes.map fun b => Char.ofNat b.toNat
  let quotes := chooseQuotes cs
  let shown := cs.flatMap fun c =>
    if c.toNat < 128 then quoteCode quotes c.toNat else '\\' :: 'x' :: hexPadded 2 c.toNat
  String.ofList ('b' :: quotes :: (shown ++ [quotes]))

end Text
end ApiView
