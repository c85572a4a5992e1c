import ApiView.Value.Basic
import ApiView.Number.Shortest
import ApiView.Text.Quoted

/-!
# Displayed values

How a document value reads inside a name, a tag, a message or a rendered template. A text stands for
itself at the top and between quotes inside a list or mapping.

* `Value.placeAbove?`: how containers that contain themselves are told apart;
* `Value.shown`: the form inside a list or mapping;
* `Value.display`: the form at the top;
* `Value.hasLong`: an integer of more than 4300 digits, which has no display.
-/

namespace ApiView

def boolWord (b : Bool) : String :=
  if b then "True" else "False"

namespace Scalar

/-- A scalar inside a displayed list or mapping. -/
def shown : Scalar → String
  | null => "None"
  | bool b => boolWord b
  | int i => toString i
  | float x => x.text
  | str s => Text.quote s
  | date d => d.shown
  | dateTime t => t.shown
  | bytes b => Text.quoteBytes b

/-- A scalar by itself. -/
def display : Scalar → String
  | str s => s
  | date d => d.iso
  | dateTime t => t.display
  | s => s.shown

end Scalar

/-! ## Containers that contain themselves -/

mutual

/-- The place of a container that contains itself, `levels` levels above a value in it. -/
def Value.placeAbove? (levels : Nat) : Value → Option Nat
  | .scalar _ => none
  | .list items => placeAboveItems? (levels + 1) items
  | .map entries => placeAboveMembers? (levels + 1) entries
  | .pair k v => (k.placeAbove? (levels + 1)).orElse fun _ => v.placeAbove? (levels + 1)
  | .set _ => none
  | .again _ places => places[levels]?

def placeAboveItems? (levels : Nat) : List Value → Option Nat
  | [] => none
  | v :: rest => (v.placeAbove? levels).orElse fun _ => placeAboveItems? levels rest

def placeAboveMembers? (levels : Nat) : List (Scalar × Value) → Option Nat
  | [] => none
  | (_, v) :: rest => (v.placeAbove? levels).orElse fun _ => placeAboveMembers? levels rest

end

/-! ## Values -/

mutual

/-- A value inside a displayed list or mapping, below the containers at some places. A container inside
itself is left out. -/
def Value.shownBelow (above : List Nat) : Value → String
  | .scalar s => s.shown
  | .list items =>
    let place := placeAboveItems? 0 items
    if place.any above.contains then "[...]"
    else "[" ++ ", ".intercalate (shownItems (place.toList ++ above) items) ++ "]"
  | .map entries =>
    let place := placeAboveMembers? 0 entries
    if place.any above.contains then "\x7b...\x7d"
    else "\x7b" ++ ", ".intercalate (shownMembers (place.toList ++ above) entries) ++ "\x7d"
  | .pair k v =>
    let place := (k.placeAbove? 1).orElse fun _ => v.placeAbove? 1
    if place.any above.contains then "(...)"
    else
      "(" ++ k.shownBelow (place.toList ++ above) ++ ", " ++ v.shownBelow (place.toList ++ above) ++
        ")"
  | .set members =>
    if members.isEmpty then "set()"
    else "\x7b" ++ ", ".intercalate (members.map Scalar.shown) ++ "\x7d"
  | .again isMap _ => if isMap then "\x7b...\x7d" else "[...]"

def shownItems (above : List Nat) : List Value → List String
  | [] => []
  | v :: rest => v.shownBelow above :: shownItems above rest

def shownMembers (above : List Nat) : List (Scalar × Value) → List String
  | [] => []
  | (k, v) :: rest => (k.shown ++ ": " ++ v.shownBelow above) :: shownMembers above rest

end

/-- A value as it reads inside a list or mapping. -/
def Value.shown (v : Value) : String :=
  v.shownBelow []

/-- A value by itself. -/
def Value.display : Value → String
  | .scalar s => s.display
  | v => v.shown

/-! ## Long numbers -/

/-- The least integer that has too many digits to be displayed. -/
def longBound : Nat := Nat.pow 10 4300

def Scalar.isLong : Scalar → Bool
  | .int i => longBound ≤ i.natAbs
  | _ => false

mutual

def Value.hasLong : Value → Bool
  | .scalar s => s.isLong
  | .list items => itemsHaveLong items
  | .map entries => membersHaveLong entries
  | .pair k v => k.hasLong || v.hasLong
  | .set members => members.any Scalar.isLong
  | .again _ _ => false

def itemsHaveLong : List Value → Bool
  | [] => false
  | v :: rest => v.hasLong || itemsHaveLong rest

def membersHaveLong : List (Scalar × Value) → Bool
  | [] => false
  | (k, v) :: rest => k.isLong || v.hasLong || membersHaveLong rest

end

end ApiView
