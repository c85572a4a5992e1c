import ApiView.Text.Utf8
import ApiView.Value.Display

/-!
# Plain values

Untyped parts of a view are handed to templates in a form that JSON can hold: dates and times as
their written form, byte strings as text, keys as text, pairs and sets as lists, and no number that
JSON has no form for. A form has a bounded number of levels.

* `Scalar.plain`, `Scalar.plainName`: a leaf and a key in that form;
* `Value.plain`: a value in that form;
* `maxLevels`: how many levels a form may have;
* `PlainObstacle`, `Value.plainObstacleWithin?`, `Value.plainObstacle?`: why a value has no such form.
-/

namespace ApiView

namespace Scalar

/-- A leaf that JSON can hold. -/
def plain : Scalar → Scalar
  | float x => if x.isFinite then float x else null
  | date d => str d.iso
  | dateTime t => str t.utcText
  | bytes b => str ((Text.ofUtf8? b).getD "")
  | s => s

/-- A key as text. A number that JSON has no form for counts as null, and one with too many digits as
what it is. -/
def plainName : Scalar → String
  | null => "None"
  | bool b => if b then "true" else "false"
  | int i => if (int i).isLong then "<unprintable int object>" else toString i
  | float x => if x.isFinite then x.text else "None"
  | str s => s
  | date d => d.iso
  | dateTime t => t.utcText
  | bytes b => (Text.ofUtf8? b).getD ""

end Scalar

mutual

/-- A value that JSON can hold. Keys that become equal count as one. -/
def Value.plain : Value → Value
  | .scalar s => .scalar s.plain
  | .list items => .list (plainItems items)
  | .map entries => .map (Entries.ofPairs (plainMembers entries))
  | .pair k v => .list [k.plain, v.plain]
  | .set members => .list (members.map fun s => .scalar s.plain)
  | .again isMap places => .again isMap places

def plainItems : List Value → List Value
  | [] => []
  | v :: rest => v.plain :: plainItems rest

def plainMembers : List (Scalar × Value) → List (Scalar × Value)
  | [] => []
  | (k, v) :: rest => (.str k.plainName, v.plain) :: plainMembers rest

end

/-! ## Obstacles -/

/-- Why a value has no plain form. -/
inductive PlainObstacle
  /-- Bytes that are no text. -/
  | notUtf8
  /-- A key with a half of a surrogate pair. -/
  | strayHalf
  /-- A container inside itself. -/
  | circular
  /-- More levels than a form may have. -/
  | tooDeep
deriving DecidableEq, Repr

def Scalar.plainObstacle? : Scalar → Option PlainObstacle
  | .bytes b => if (Text.ofUtf8? b).isSome then none else some .notUtf8
  | _ => none

def Scalar.plainNameObstacle? : Scalar → Option PlainObstacle
  | .str s => if Text.isWhole s then none else some .strayHalf
  | key => key.plainObstacle?

/-- How many levels a form may have. A leaf is a level, and so is every container. -/
def maxLevels : Nat := 255

/-- The obstacle at a value, if there are levels left for it. -/
def atLevel (levels : Nat) (inside : Option PlainObstacle) : Option PlainObstacle :=
  if levels == 0 then some .tooDeep else inside

mutual

/-- The first obstacle to the plain form of a value that may have so many levels. Keys are no levels. -/
def Value.plainObstacleWithin? (levels : Nat) : Value → Option PlainObstacle
  | .scalar s => atLevel levels s.plainObstacle?
  | .list items => atLevel levels (itemsPlainObstacle? (levels - 1) items)
  | .map entries => atLevel levels (membersPlainObstacle? (levels - 1) entries)
  | .pair k v =>
    atLevel levels ((k.plainObstacleWithin? (levels - 1)).orElse fun _ =>
      v.plainObstacleWithin? (levels - 1))
  | .set members =>
    atLevel levels (members.findSome? fun s => atLevel (levels - 1) s.plainObstacle?)
  | .again _ _ => some .circular

def itemsPlainObstacle? (levels : Nat) : List Value → Option PlainObstacle
  | [] => none
  | v :: rest =>
    (v.plainObstacleWithin? levels).orElse fun _ => itemsPlainObstacle? levels rest

def membersPlainObstacle? (levels : Nat) : List (Scalar × Value) → Option PlainObstacle
  | [] => none
  | (k, v) :: rest =>
    k.plainNameObstacle?.orElse fun _ =>
      (v.plainObstacleWithin? levels).orElse fun _ => membersPlainObstacle? levels rest

end

/-- The first obstacle to the plain form of a value. -/
def Value.plainObstacle? (v : Value) : Option PlainObstacle :=
  v.plainObstacleWithin? maxLevels

end ApiView
