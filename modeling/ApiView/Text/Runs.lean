/-!
# Runs of characters

* `runsOf`: the longest runs of characters that satisfy a predicate, in order;
* `fieldsAt`: the parts of a text between occurrences of a separator, empty parts included;
* `hasPart`: whether a text occurs inside another.
-/

namespace ApiView
namespace Text

/-- The longest runs of characters that satisfy `p`, of which `pending` has begun already. -/
def runsAfter (p : Char → Bool) (pending : List Char) : List Char → List (List Char)
  | [] => if pending.isEmpty then [] else [pending]
  | c :: rest =>
    if p c then runsAfter p (pending ++ [c]) rest
    else if pending.isEmpty then runsAfter p [] rest
    else pending :: runsAfter p [] rest

def runsOf (p : Char → Bool) (cs : List Char) : List (List Char) :=
  runsAfter p [] cs

/-- The parts of a text between occurrences of a separator. -/
def fieldsAt (separator : Char) : List Char → List (List Char)
  | [] => [[]]
  | c :: rest =>
    if c == separator then [] :: fieldsAt separator rest
    else
      match fieldsAt separator rest with
      | [] => [[c]]
      | field :: fields => (c :: field) :: fields

def hasPart (part : List Char) : List Char → Bool
  | [] => part.isEmpty
  | c :: rest => part.isPrefixOf (c :: rest) || hasPart part rest

end Text
end ApiView
