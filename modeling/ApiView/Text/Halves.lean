/-!
# Halves of surrogate pairs

Escapes name 16-bit units, so a text may hold one half of a surrogate pair without the other. Such a
half is no character. It is kept as the character of the last private-use plane that has the same
lower bits. A character that would be mistaken for a half is kept with a mark in front of it, and so is
the mark.

* `codes`: the code points and halves that a text is kept for;
* `ofUnit`, `ofCode`, `guard`: how halves and characters are kept;
* `letters`, `size`: the single letters of a text, and how many there are;
* `isWhole`: a text without halves, which UTF-8 has a form for.
-/

namespace ApiView
namespace Text

def isHalf (n : Nat) : Bool :=
  0xD800 ≤ n && n ≤ 0xDFFF

/-- The first code point of the plane that halves are kept in. -/
def halfPlane : Nat := 0x100000

/-- The mark in front of a character that would be mistaken. -/
def guardMark : Char :=
  Char.ofNat 0x10FFFF

/-- The half that a character is kept for, if no mark stands in front of it. -/
def half? (c : Char) : Option Nat :=
  if isHalf (c.toNat - halfPlane) then some (c.toNat - halfPlane) else none

/-- The number that a character without a mark is kept for. -/
def unit (c : Char) : Nat :=
  (half? c).getD c.toNat

/-! ## Keeping -/

/-- The character that is kept for a 16-bit unit. -/
def ofUnit (n : Nat) : Char :=
  if isHalf n then Char.ofNat (halfPlane + n) else Char.ofNat n

/-- How a character is kept. -/
def guarded (c : Char) : List Char :=
  if c == guardMark || (half? c).isSome then [guardMark, c] else [c]

/-- How a row of characters is kept. -/
def guard (cs : List Char) : List Char :=
  cs.flatMap guarded

def ofCode (n : Nat) : List Char :=
  if isHalf n then [ofUnit n] else guarded (Char.ofNat n)

/-! ## Reading -/

/-- The code points and halves that a text is kept for. -/
def codes : List Char → List Nat
  | [] => []
  | [c] => [unit c]
  | c :: d :: rest =>
    if c == guardMark then d.toNat :: codes rest else unit c :: codes (d :: rest)

/-- The letters of a text, each of them kept on its own. -/
def letters (cs : List Char) : List (List Char) :=
  (codes cs).map ofCode

def size (cs : List Char) : Nat :=
  (codes cs).length

def isWhole (s : String) : Bool :=
  (codes s.toList).all fun n => !isHalf n

end Text
end ApiView
