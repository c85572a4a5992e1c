import ApiView.Calendar
import ApiView.Number.Binary64

/-!
# Document values

An API description is a tree of values. Scalars are the leaves and also the keys of mappings, so a
mapping with an unhashable key cannot be written down; member order is kept. Two further kinds of
values have forms in YAML only: a pair of a key and its value, and a set, whose members are kept in the
order in which they are written. A document that contains itself has no end; it is written out for some
rounds and then cut off.

* `Scalar`, `Value`, `Entries`: leaves, trees, and the members of a mapping in order;
* `Scalar.same`, `Value.same`: equality of document values, where `1`, `1.0` and `true` agree;
* `Entries.find?`, `Entries.member?`, `Entries.put`, `Entries.ofPairs`, `Entries.overlay`: members by
  key;
* `Value.truthy`: empty, zero, false and null count as absent;
* `Value.kindName`: the word for a value's kind in messages.
-/

namespace ApiView

/-- A leaf of a document, and what a mapping can be keyed by. -/
inductive Scalar
  | null
  | bool (b : Bool)
  | int (i : Int)
  | float (x : Binary64)
  | str (s : String)
  | date (d : Date)
  | dateTime (t : DateTime)
  | bytes (b : List UInt8)
deriving DecidableEq, Repr

/-- A document, or a part of one. -/
inductive Value
  | scalar (s : Scalar)
  | list (items : List Value)
  | map (entries : List (Scalar × Value))
  /-- A member by itself, in a row of members. -/
  | pair (key value : Value)
  | set (members : List Scalar)
  /-- A container inside itself, cut off after some rounds: whether it is a mapping, and the places in
  the text of the containers around it, the innermost first. -/
  | again (isMap : Bool) (places : List Nat)
deriving Repr

abbrev Entries := List (Scalar × Value)

/-! ## Scalars -/

namespace Scalar

/-- The integer that a scalar equals as a number. -/
def asInt? : Scalar → Option Int
  | bool b => some (if b then 1 else 0)
  | int i => some i
  | float x => x.toInt?
  | _ => none

/-- Equality of scalars: numbers and booleans by their value, times as points in time. -/
def same (a b : Scalar) : Bool :=
  match a.asInt?, b.asInt? with
  | some i, some j => i == j
  | none, none =>
    match a, b with
    | float x, float y => x.sameNumber y
    | dateTime s, dateTime t => s.sameInstant t
    | a, b => a == b
  | _, _ => false

/-- Whether a scalar counts as present. -/
def truthy : Scalar → Bool
  | null => false
  | bool b => b
  | int i => i != 0
  | float x => !x.isZero
  | str s => s != ""
  | bytes b => !b.isEmpty
  | date _ | dateTime _ => true

end Scalar

/-! ## Members of a mapping -/

namespace Entries

def find? (key : Scalar) : Entries → Option Value
  | [] => none
  | (k, v) :: rest => if k.same key then some v else find? key rest

def member? (entries : Entries) (name : String) : Option Value :=
  entries.find? (.str name)

/-- The value under a name, null where there is none. -/
def member (entries : Entries) (name : String) : Value :=
  (entries.member? name).getD (.scalar .null)

def hasMember (entries : Entries) (name : String) : Bool :=
  (entries.member? name).isSome

/-- Set the value under a key: an equal key keeps its place and its spelling, a new one comes
last. -/
def put (key : Scalar) (value : Value) : Entries → Entries
  | [] => [(key, value)]
  | (k, v) :: rest => if k.same key then (k, value) :: rest else (k, v) :: put key value rest

/-- The mapping that a row of pairs describes: of equal keys the first keeps its place and the last
gives the value. -/
def ofPairs (pairs : List (Scalar × Value)) : Entries :=
  pairs.foldl (fun entries (k, v) => put k v entries) []

/-- A mapping with the members of another one put over its own. -/
def overlay (base updates : Entries) : Entries :=
  updates.foldl (fun entries (k, v) => put k v entries) base

def keys (entries : Entries) : List Scalar :=
  entries.map (·.1)

end Entries

/-! ## Values -/

namespace Value

def null : Value := .scalar .null

def str (s : String) : Value := .scalar (.str s)

def bool (b : Bool) : Value := .scalar (.bool b)

def int (i : Int) : Value := .scalar (.int i)

def object (members : List (String × Value)) : Value :=
  .map (members.map fun (k, v) => (.str k, v))

def optional : Option String → Value
  | some s => str s
  | none => null

def text? : Value → Option String
  | .scalar (.str s) => some s
  | _ => none

def entries? : Value → Option Entries
  | .map entries => some entries
  | _ => none

def items? : Value → Option (List Value)
  | .list items => some items
  | _ => none

def member? (v : Value) (name : String) : Option Value :=
  v.entries?.bind (·.member? name)

def isNull : Value → Bool
  | .scalar .null => true
  | _ => false

def isMap : Value → Bool
  | .map _ => true
  | _ => false

def isTrue : Value → Bool
  | .scalar (.bool true) => true
  | _ => false

def isText (v : Value) (s : String) : Bool :=
  v.text? == some s

/-- Whether a value counts as present. -/
def truthy : Value → Bool
  | .scalar s => s.truthy
  | .list items => !items.isEmpty
  | .map entries => !entries.isEmpty
  | .set members => !members.isEmpty
  | .pair _ _ | .again _ _ => true

/-- The first of two values that counts as present, else the second. -/
def orElse (a b : Value) : Value :=
  if a.truthy then a else b

/-- The word for a value's kind. -/
def kindName : Value → String
  | .scalar .null => "NoneType"
  | .scalar (.bool _) => "bool"
  | .scalar (.int _) => "int"
  | .scalar (.float _) => "float"
  | .scalar (.str _) => "str"
  | .scalar (.date _) => "date"
  | .scalar (.dateTime _) => "datetime"
  | .scalar (.bytes _) => "bytes"
  | .list _ | .again false _ => "list"
  | .map _ | .again true _ => "dict"
  | .pair _ _ => "tuple"
  | .set _ => "set"

end Value

/-! ## Equality -/

mutual

/-- Equality of document values: lists item by item, mappings and sets whatever the order of their
members. -/
def Value.same : Value → Value → Bool
  | .scalar a, .scalar b => a.same b
  | .list xs, .list ys => sameItems xs ys
  | .map es, .map fs => es.length == fs.length && sameMembers es fs
  | .pair k v, .pair l w => k.same l && v.same w
  | .set xs, .set ys => xs.length == ys.length && xs.all fun x => ys.any x.same
  | .again b ps, .again c qs => b == c && ps == qs
  | _, _ => false

def sameItems : List Value → List Value → Bool
  | [], [] => true
  | x :: xs, y :: ys => x.same y && sameItems xs ys
  | _, _ => false

/-- Whether every member on the left has an equal one on the right. -/
def sameMembers : List (Scalar × Value) → Entries → Bool
  | [], _ => true
  | (k, v) :: rest, fs =>
    (match Entries.find? k fs with
      | some w => v.same w
      | none => false) && sameMembers rest fs

end

mutual

/-- Identity of document values is decidable. -/
def Value.decEq : (a b : Value) → Decidable (a = b)
  | .scalar a, .scalar b =>
    if h : a = b then isTrue (by rw [h]) else isFalse (by simpa using h)
  | .list xs, .list ys =>
    match decEqItems xs ys with
    | isTrue h => isTrue (by rw [h])
    | isFalse h => isFalse (by simpa using h)
  | .map es, .map fs =>
    match decEqMembers es fs with
    | isTrue h => isTrue (by rw [h])
    | isFalse h => isFalse (by simpa using h)
  | .pair k v, .pair l w =>
    match Value.decEq k l, Value.decEq v w with
    | isTrue h, isTrue h' => isTrue (by rw [h, h'])
    | isFalse h, _ => isFalse (by simp [h])
    | _, isFalse h => isFalse (by simp [h])
  | .set xs, .set ys =>
    if h : xs = ys then isTrue (by rw [h]) else isFalse (by simpa using h)
  | .again b ps, .again c qs =>
    if h : b = c ∧ ps = qs then isTrue (by rw [h.1, h.2]) else isFalse (by simpa using h)
  | .scalar _, .list _ | .scalar _, .map _ | .scalar _, .pair _ _ | .scalar _, .set _
  | .scalar _, .again _ _ | .list _, .scalar _ | .list _, .map _ | .list _, .pair _ _
  | .list _, .set _ | .list _, .again _ _ | .map _, .scalar _ | .map _, .list _
  | .map _, .pair _ _ | .map _, .set _ | .map _, .again _ _ | .pair _ _, .scalar _
  | .pair _ _, .list _ | .pair _ _, .map _ | .pair _ _, .set _ | .pair _ _, .again _ _
  | .set _, .scalar _ | .set _, .list _ | .set _, .map _ | .set _, .pair _ _
  | .set _, .again _ _ | .again _ _, .scalar _ | .again _ _, .list _ | .again _ _, .map _
  | .again _ _, .pair _ _ | .again _ _, .set _ => isFalse (by simp)

def decEqItems : (xs ys : List Value) → Decidable (xs = ys)
  | [], [] => isTrue rfl
  | [], _ :: _ | _ :: _, [] => isFalse (by simp)
  | x :: xs, y :: ys =>
    match Value.decEq x y, decEqItems xs ys with
    | isTrue h, isTrue h' => isTrue (by rw [h, h'])
    | isFalse h, _ => isFalse (by simp [h])
    | _, isFalse h => isFalse (by simp [h])

/-- Identity of rows of members is decidable. -/
def decEqMembers : (es fs : List (Scalar × Value)) → Decidable (es = fs)
  | [], [] => isTrue rfl
  | [], _ :: _ | _ :: _, [] => isFalse (by simp)
  | (k, v) :: es, (l, w) :: fs =>
    if hk : k = l then
      match Value.decEq v w, decEqMembers es fs with
      | isTrue h, isTrue h' => isTrue (by rw [hk, h, h'])
      | isFalse h, _ => isFalse (by simp [h])
      | _, isFalse h => isFalse (by simp [h])
    else isFalse (by simp [hk])

end

instance : DecidableEq Value := Value.decEq

end ApiView
