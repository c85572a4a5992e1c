import ApiView.Text.Runs
import ApiView.Value.Access

/-!
# Reference pointers

A pointer `#/a/b` names a place in the document by its segments, in which `~1` stands for a slash and
`~0` for a tilde. A text without slashes is a bare name.

* `decodeSegment`, `encodeSegment`: a segment as it is meant and as it is written;
* `Pointer.parse`: the segments of a pointer, or why it has none;
* `Pointer.render`: the pointer with the given segments;
* `Pointer.name`: the last segment.
-/

namespace ApiView
namespace Reference

/-! ## Segments -/

/-- A written segment as it is meant. -/
def decodeSegment : List Char → List Char
  | [] => []
  | '~' :: '1' :: rest => '/' :: decodeSegment rest
  | '~' :: '0' :: rest => '~' :: decodeSegment rest
  | c :: rest => c :: decodeSegment rest

def encodeSegment : List Char → List Char
  | [] => []
  | c :: rest =>
    if c == '~' then '~' :: '0' :: encodeSegment rest
    else if c == '/' then '~' :: '1' :: encodeSegment rest
    else c :: encodeSegment rest

namespace Pointer

/-- The segments of a pointer, decoded. -/
def parse (pointer : String) : Except Failure (List String) :=
  match pointer.toList with
  | [] => .error (.reference pointer .empty)
  | '#' :: '/' :: rest =>
    let fields := Text.fieldsAt '/' rest
    if fields.any List.isEmpty then .error (.reference pointer .emptySegment)
    else .ok (fields.map fun field => String.ofList (decodeSegment field))
  | c :: rest =>
    if c == '#' || (c :: rest).contains '/' then .error (.reference pointer .external)
    else .ok [pointer]

def render (segments : List String) : String :=
  String.ofList ('#' :: segments.flatMap fun s => '/' :: encodeSegment s.toList)

/-- The segments of a pointer that may be any value: one that is no text counts as empty. -/
def parseValue (pointer : Value) : Except Failure (List String) := do
  match pointer.text? with
  | some s => parse s
  | none => throw (.reference (← pointer.displayed) .empty)

def name (pointer : String) : Except Failure String := do
  return (← parse pointer).getLastD ""

end Pointer
end Reference
end ApiView
