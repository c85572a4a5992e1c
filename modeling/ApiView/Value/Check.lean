import ApiView.Failure
import ApiView.Text.Halves
import ApiView.Text.Utf8

/-!
# Checking the fields of a record

A record is made from untyped values only if each of its fields has the right kind. Every refused
field is reported, in the order of the fields. Where a text is expected, the bytes of one will do.

* `Value.fieldText`: the text that a field is given as, or why it is refused;
* `Value.textProblems`, `Value.optionalTextProblems`: what is wrong with a text field;
* `accept`: a record, unless something is wrong with it.
-/

namespace ApiView

namespace Value

/-- The text that a field is given as: a text, or the bytes of one. -/
def fieldText : Value → Except ProblemKind String
  | .scalar (.str s) => if Text.isWhole s then .ok s else .error .notUnicode
  | .scalar (.bytes b) =>
    match Text.ofUtf8? b with
    | some s => .ok s
    | none => .error .notUnicode
  | _ => .error .notText

def fieldText? (v : Value) : Option String :=
  v.fieldText.toOption

def textProblemsAt (place : List Scalar) (v : Value) : List Problem :=
  match v.fieldText with
  | .ok _ => []
  | .error kind => [⟨place, kind⟩]

def textProblems (field : String) (v : Value) : List Problem :=
  v.textProblemsAt [.str field]

def optionalTextProblems (field : String) (v : Value) : List Problem :=
  if v.isNull then [] else v.textProblems field

end Value

/-- What is wrong with the texts of a list, the first of which is at position `i`. -/
def listedTextProblems (field : String) (i : Nat) : List Value → List Problem
  | [] => []
  | v :: rest => v.textProblemsAt [.str field, .int i] ++ listedTextProblems field (i + 1) rest

/-- A record, unless something is wrong with it. -/
def accept {α : Type} (record : Record) (problems : List Problem) (result : α) :
    Except Failure α :=
  if problems.isEmpty then .ok result else .error (.invalid record problems)

end ApiView
