import ApiView.Value.Display

/-!
# Writing JSON

Two layouts of one grammar. The compact one puts everything on a line and escapes what is not ASCII;
the indented one puts each item on a line of its own and keeps other characters as they are. Values
that JSON has no form for (dates, times, byte strings) are written as the text that displays them.

* `escapeAscii`, `escapeControls`: one code of a text, in either layout;
* `Scalar.memberName?`: the text that a key is written as, if it has one;
* `compact`, `indented`: the two layouts of a value;
* `Obstacle`, `obstacle?`: why a value cannot be written.
-/

namespace ApiView

def Text.joinWith (separator : List Char) : List (List Char) → List Char
  | [] => []
  | [x] => x
  | x :: y :: rest => x ++ separator ++ Text.joinWith separator (y :: rest)

namespace Json

/-! ## Texts -/

/-- The escape of a control character, quote or backslash, by its code. -/
def shortEscape? (n : Nat) : Option (List Char) :=
  if n == 0x22 then some ['\\', '"']
  else if n == 0x5C then some ['\\', '\\']
  else if n == 0x0A then some ['\\', 'n']
  else if n == 0x0D then some ['\\', 'r']
  else if n == 0x09 then some ['\\', 't']
  else if n == 0x08 then some ['\\', 'b']
  else if n == 0x0C then some ['\\', 'f']
  else none

def unitEscape (n : Nat) : List Char :=
  '\\' :: 'u' :: Text.hexPadded 4 n

/-- A code with all but printable ASCII escaped; above the first plane as a surrogate pair, of which a
half may stand alone. -/
def escapeAscii (n : Nat) : List Char :=
  match shortEscape? n with
  | some e => e
  | none =>
    if 0x20 ≤ n && n ≤ 0x7E then [Char.ofNat n]
    else if n < 0x10000 then unitEscape n
    else
      unitEscape (0xD800 + (n - 0x10000) / 0x400) ++ unitEscape (0xDC00 + (n - 0x10000) % 0x400)

/-- A code with only what JSON forbids in a text escaped. -/
def escapeControls (n : Nat) : List Char :=
  match shortEscape? n with
  | some e => e
  | none => if n < 0x20 then unitEscape n else Text.ofCode n

def quoted (escape : Nat → List Char) (s : String) : List Char :=
  '"' :: ((Text.codes s.toList).flatMap escape ++ ['"'])

/-! ## Scalars -/

def intText (i : Int) : List Char :=
  if i < 0 then '-' :: Nat.toDigits 10 i.natAbs else Nat.toDigits 10 i.natAbs

/-- A double, with words for the values that are no numbers. -/
def floatText (x : Binary64) : String :=
  if x.isNaN then "NaN"
  else if x.isInfinite then if x.negative then "-Infinity" else "Infinity"
  else x.text

def scalarText (escape : Nat → List Char) : Scalar → List Char
  | .null => "null".toList
  | .bool b => if b then "true".toList else "false".toList
  | .int i => intText i
  | .float x => (floatText x).toList
  | s => quoted escape s.display

def memberName? : Scalar → Option String
  | .str s => some s
  | .null => some "null"
  | .bool b => some (if b then "true" else "false")
  | .int i => some (String.ofList (intText i))
  | .float x => some (floatText x)
  | .date _ | .dateTime _ | .bytes _ => none

def keyText (escape : Nat → List Char) (key : Scalar) : List Char :=
  quoted escape ((memberName? key).getD key.display)

/-! ## Compact layout -/

mutual

/-- A value on one line, in ASCII. -/
def compact : Value → List Char
  | .scalar s => scalarText escapeAscii s
  | .again _ _ => "null".toList
  | .list items => '[' :: (Text.joinWith [',', ' '] (compactItems items) ++ [']'])
  | .pair k v => '[' :: (Text.joinWith [',', ' '] [compact k, compact v] ++ [']'])
  | .set members => quoted escapeAscii (Value.set members).display
  | .map entries => '\x7b' :: (Text.joinWith [',', ' '] (compactMembers entries) ++ ['\x7d'])

def compactItems : List Value → List (List Char)
  | [] => []
  | v :: rest => compact v :: compactItems rest

def compactMembers : List (Scalar × Value) → List (List Char)
  | [] => []
  | (k, v) :: rest => (keyText escapeAscii k ++ ':' :: ' ' :: compact v) :: compactMembers rest

end

/-! ## Indented layout -/

def lineBreak (depth : Nat) : List Char :=
  '\n' :: List.replicate (2 * depth) ' '

/-- Items between brackets, one to a line; nothing between the brackets if there are none. -/
def block (opening closing : Char) (depth : Nat) (items : List (List Char)) : List Char :=
  if items.isEmpty then [opening, closing]
  else
    opening :: (lineBreak (depth + 1) ++ Text.joinWith (',' :: lineBreak (depth + 1)) items ++
      lineBreak depth ++ [closing])

mutual

/-- A value over several lines, at a depth. -/
def indented (depth : Nat) : Value → List Char
  | .scalar s => scalarText escapeControls s
  | .again _ _ => "null".toList
  | .list items => block '[' ']' depth (indentedItems (depth + 1) items)
  | .pair k v => block '[' ']' depth [indented (depth + 1) k, indented (depth + 1) v]
  | .set members => quoted escapeControls (Value.set members).display
  | .map entries => block '\x7b' '\x7d' depth (indentedMembers (depth + 1) entries)

def indentedItems (depth : Nat) : List Value → List (List Char)
  | [] => []
  | v :: rest => indented depth v :: indentedItems depth rest

def indentedMembers (depth : Nat) : List (Scalar × Value) → List (List Char)
  | [] => []
  | (k, v) :: rest =>
    (keyText escapeControls k ++ ':' :: ' ' :: indented depth v) :: indentedMembers depth rest

end

/-! ## Obstacles -/

/-- Why a value cannot be written. -/
inductive Obstacle
  /-- A key that JSON has no form for. -/
  | key
  /-- An integer with too many digits. -/
  | longNumber
  /-- A container inside itself. -/
  | circular
deriving DecidableEq, Repr

def leafObstacle? (s : Scalar) : Option Obstacle :=
  if s.isLong then some .longNumber else none

def keyObstacle? (key : Scalar) : Option Obstacle :=
  if (memberName? key).isSome then leafObstacle? key else some .key

mutual

/-- The first obstacle to writing a value. -/
def obstacle? : Value → Option Obstacle
  | .scalar s => leafObstacle? s
  | .list items => itemsObstacle? items
  | .map entries => membersObstacle? entries
  | .pair k v => (obstacle? k).orElse fun _ => obstacle? v
  | .set members => members.findSome? leafObstacle?
  | .again _ _ => some .circular

def itemsObstacle? : List Value → Option Obstacle
  | [] => none
  | v :: rest => (obstacle? v).orElse fun _ => itemsObstacle? rest

def membersObstacle? : List (Scalar × Value) → Option Obstacle
  | [] => none
  | (k, v) :: rest =>
    (keyObstacle? k).orElse fun _ => (obstacle? v).orElse fun _ => membersObstacle? rest

end

end Json
end ApiView
