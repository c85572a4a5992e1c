/-!
# Blank characters

* `isBlank`: the Unicode blanks, with the four information separators;
* `trimLeft`, `trimRight`, `trim`: drop blanks at the ends of a text;
* `isBlankText`: nothing but blanks.
-/

namespace ApiView
namespace Text

def blankRanges : List (Nat × Nat) :=
  [(9, 13), (28, 32), (133, 133), (160, 160), (5760, 5760), (8192, 8202), (8232, 8233),
   (8239, 8239), (8287, 8287), (12288, 12288)]

def inRanges (ranges : List (Nat × Nat)) (n : Nat) : Bool :=
  ranges.any fun (lo, hi) => lo ≤ n && n ≤ hi

def isBlank (c : Char) : Bool :=
  inRanges blankRanges c.toNat

/-! ## Trimming -/

def trimLeft (cs : List Char) : List Char :=
  cs.dropWhile isBlank

def trimRight (cs : List Char) : List Char :=
  (cs.reverse.dropWhile isBlank).reverse

def trim (cs : List Char) : List Char :=
  trimRight (trimLeft cs)

def isBlankText (s : String) : Bool :=
  s.toList.all isBlank

end Text
end ApiView
