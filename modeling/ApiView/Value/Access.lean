import ApiView.Failure
import ApiView.Text.Halves
import ApiView.Text.Runs

/-!
# Reading untyped values

Parts of a document are read at the shape they are expected to have; a value of another shape is a
defect.

* `Value.table`: the members of a mapping;
* `Value.iterate`: the items of a list or set, the characters of a text, the keys of a mapping;
* `Value.key`: a value as a key;
* `Value.text`: a text;
* `Value.displayed`: the display of a value that has one.
-/

namespace ApiView
namespace Value

def table : Value → Except Failure Entries
  | .map entries => .ok entries
  | _ => .error (.defect .notATable)

/-- What a value is made of: the items of a list or a set, the keys of a mapping, the characters of a
text, the bytes of a byte string. A pair stands in a list only, where nothing asks what it is made of. -/
def iterate : Value → Except Failure (List Value)
  | .list items => .ok items
  | .map entries => .ok ((Entries.keys entries).map .scalar)
  | .set members => .ok (members.map .scalar)
  | .scalar (.str s) => .ok ((Text.letters s.toList).map fun c => str (String.ofList c))
  | .scalar (.bytes b) => .ok (b.map fun n => int n.toNat)
  | _ => .error (.defect .notIterable)

/-- A value as a key. A pair of keys is one as well, but no mapping has it. -/
def key : Value → Except Failure (Option Scalar)
  | .scalar s => .ok (some s)
  | .pair k v => do
    let _ ← k.key
    let _ ← v.key
    return none
  | _ => .error (.defect .unhashable)

def text (v : Value) : Except Failure String :=
  match v.text? with
  | some s => .ok s
  | none => .error (.defect .notText)

/-- The display of a value. An integer with too many digits has none. -/
def displayed (v : Value) : Except Failure String :=
  if v.hasLong then .error (.defect .longNumber) else .ok v.display

/-- Whether a word is part of a value: a key of a mapping, an item of a list, a piece of a text. -/
def mentions (v : Value) (word : String) : Except Failure Bool :=
  match v with
  | .map entries => .ok (Entries.hasMember entries word)
  | .list items => .ok (items.any (·.isText word))
  | .pair k v => .ok (k.isText word || v.isText word)
  | .set members => .ok (members.contains (.str word))
  | .scalar (.str s) => .ok (Text.hasPart word.toList s.toList)
  | .scalar _ => .error (.defect .notIterable)
  | .again _ _ => .error (.defect .endlessNesting)

end Value

def displayedAll (values : List Value) : Except Failure (List String) :=
  values.mapM Value.displayed

def Scalar.displayed (key : Scalar) : Except Failure String :=
  (Value.scalar key).displayed

end ApiView
