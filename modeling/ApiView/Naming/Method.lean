import ApiView.Naming.Words

/-!
# Method names

An operation is named after its explicit id, made into an identifier, or else after its verb and
path. Names handed out in one document are made distinct with a numbered suffix.

* `identifier`: an explicit id as an identifier;
* `pathName`: the name of a verb and a path;
* `Allocator`: the names handed out so far;
* `distinct`: a row of names made distinct.
-/

namespace ApiView
namespace Naming

/-! ## Explicit ids -/

def isIdentifierChar (c : Char) : Bool :=
  Text.isWordChar c || c == '$'

/-- Put an underscore in front of a text that is empty or begins with a digit. -/
def guardStart : List Char → List Char
  | [] => ['_']
  | c :: rest => if Text.isDigit c then '_' :: c :: rest else c :: rest

/-- The character of an identifier that stands for a code. A half of a pair is no character. -/
def identifierChar (n : Nat) : Char :=
  if isIdentifierChar (Char.ofNat n) then Char.ofNat n else '_'

/-- An id without blanks around it, every letter that an identifier cannot hold replaced by an
underscore. -/
def identifierChars (cs : List Char) : List Char :=
  guardStart ((Text.codes (Text.trim cs)).map identifierChar)

/-- An explicit id as an identifier. -/
def identifier (id : String) : String :=
  String.ofList (identifierChars id.toList)

/-! ## Paths -/

def segments (path : List Char) : List (List Char) :=
  Text.runsOf (· != '/') path

/-- The words that a segment stands for: a parameter `{id}` reads `byId`. -/
def segmentText (segment : List Char) : List Char :=
  match segment with
  | '\x7b' :: c :: rest =>
    if rest != [] && rest.getLast? == some '\x7d' then 'b' :: 'y' :: (Text.upperChar c ++ rest.dropLast)
    else segment
  | _ => segment

def pathText : List (List Char) → List Char
  | [] => []
  | [s] => segmentText s
  | s :: t :: rest => segmentText s ++ '-' :: pathText (t :: rest)

def pathNameChars (verb path : List Char) : List Char :=
  Text.lower verb ++
    match joinCamel (words (pathText (segments path))) with
    | [] => []
    | c :: rest => Text.upperChar c ++ rest

/-- The name of a verb and a path. -/
def pathName (verb path : String) : String :=
  String.ofList (pathNameChars verb.toList path.toList)

/-! ## Distinct names -/

/-- The names handed out so far, the latest first. -/
structure Allocator where
  handedOut : List String := []
deriving DecidableEq, Repr

namespace Allocator

def contains (a : Allocator) (name : String) : Bool :=
  a.handedOut.contains name

def size (a : Allocator) : Nat :=
  a.handedOut.length

def suffixed (name : String) (k : Nat) : String :=
  name ++ "_" ++ String.ofList (Nat.toDigits 10 k)

/-- The first free suffixed name from number `k` on. Of one more numbers than names were handed out
one is free, which bounds the search. -/
def firstFree (a : Allocator) (name : String) (k : Nat) : Nat → String
  | 0 => suffixed name k
  | fuel + 1 =>
    if a.contains (suffixed name k) then firstFree a name (k + 1) fuel else suffixed name k

/-- The name that a request for `name` is answered with: itself if it is free. -/
def choose (a : Allocator) (name : String) : String :=
  if a.contains name then a.firstFree name 1 a.size else name

def allocate (a : Allocator) (name : String) : String × Allocator :=
  let chosen := a.choose name
  (chosen, ⟨chosen :: a.handedOut⟩)

def allocateAll (a : Allocator) : List String → List String
  | [] => []
  | name :: rest =>
    let (chosen, a') := a.allocate name
    chosen :: a'.allocateAll rest

end Allocator

def distinct (names : List String) : List String :=
  Allocator.allocateAll ⟨[]⟩ names

end Naming
end ApiView
