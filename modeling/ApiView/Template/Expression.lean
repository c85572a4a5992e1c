import ApiView.Template.Token
import ApiView.Value.Basic

/-!
# Expressions of a template

The words of a tag are read as an expression. `or` binds least, then `and`, `not`, `==`, the minus
sign, then filters and tests, and members and elements bind most.

There are literals, names, members, elements, the filters `upper`, `lower`, `length` and `join`, the
tests for null and for being defined, and the operators above. Other filters and tests, calls, lists and
mappings in writing, slices and conditional expressions are refused as malformed.

* `Expr`: expressions;
* `Expr.mentions`: whether a name occurs in one;
* `Expr.ofTokens`: the expression that a row of words is.
-/

namespace ApiView
namespace Template

/-- An expression. -/
inductive Expr
  | literal (s : Scalar)
  | name (s : String)
  | attribute (e : Expr) (member : String)
  | element (e index : Expr)
  | upper (e : Expr)
  | lower (e : Expr)
  | length (e : Expr)
  | join (e separator : Expr)
  | isNone (e : Expr)
  | isDefined (e : Expr)
  | negative (e : Expr)
  | equal (a b : Expr)
  | not (e : Expr)
  | and (a b : Expr)
  | or (a b : Expr)
deriving DecidableEq, Repr

def Expr.mentions (word : String) : Expr → Bool
  | .literal _ => false
  | .name s => s == word
  | .attribute e _ | .upper e | .lower e | .length e | .isNone e | .isDefined e | .negative e
  | .not e => e.mentions word
  | .element a b | .join a b | .equal a b | .and a b | .or a b =>
    a.mentions word || b.mentions word

/-! ## Reading -/

namespace Expr

/-- An expression at the start of a row of words, and the words after it. -/
abbrev Step := Reading (Expr × List Token)

def refuse {α : Type} : Reading α :=
  .error "an expression is expected"

def constant? : String → Option Scalar
  | "true" | "True" => some (.bool true)
  | "false" | "False" => some (.bool false)
  | "none" | "None" => some .null
  | _ => none

def joinTexts (s : String) : List Token → String × List Token
  | .text t :: rest => joinTexts (s ++ t) rest
  | rest => (s, rest)

/-- Whether a row of words starts with something that a test would be applied to together with its
subject. No test takes any. -/
def startsArgument : List Token → Bool
  | .name s :: _ => s != "else" && s != "or" && s != "and"
  | .text _ :: _ | .number _ :: _ | .mark '(' :: _ | .mark '[' :: _ => true
  | _ => false

def simpleFilter? (word : String) (e : Expr) : Option Expr :=
  match word with
  | "upper" => some (.upper e)
  | "lower" => some (.lower e)
  | "length" => some (.length e)
  | "join" => some (.join e (.literal (.str "")))
  | _ => none

def test? (word : String) (e : Expr) : Option Expr :=
  match word with
  | "none" => some (.isNone e)
  | "defined" => some (.isDefined e)
  | _ => none

/-- A comparison, after the one to the left of it if there is one: `a == b == c` compares `a` with
`b` and `b` with `c`. -/
def chain (before : Option Expr) (a b : Expr) : Expr :=
  match before with
  | some e => .and e (.equal a b)
  | none => .equal a b

mutual

/-- Alternatives. The first argument bounds the depth of the recursion. -/
def readOr : Nat → List Token → Step
  | 0, _ => refuse
  | fuel + 1, ts => do
    let (e, ts) ← readAnd fuel ts
    moreOr fuel e ts

def moreOr : Nat → Expr → List Token → Step
  | fuel + 1, e, .name "or" :: ts => do
    let (f, ts) ← readAnd fuel ts
    moreOr fuel (.or e f) ts
  | _, e, ts => return (e, ts)

def readAnd : Nat → List Token → Step
  | 0, _ => refuse
  | fuel + 1, ts => do
    let (e, ts) ← readNot fuel ts
    moreAnd fuel e ts

def moreAnd : Nat → Expr → List Token → Step
  | fuel + 1, e, .name "and" :: ts => do
    let (f, ts) ← readNot fuel ts
    moreAnd fuel (.and e f) ts
  | _, e, ts => return (e, ts)

def readNot : Nat → List Token → Step
  | 0, _ => refuse
  | fuel + 1, .name "not" :: ts => do
    let (e, ts) ← readNot fuel ts
    return (.not e, ts)
  | fuel + 1, ts => do
    let (e, ts) ← readFiltered fuel ts
    moreEqual fuel none e ts

def moreEqual : Nat → Option Expr → Expr → List Token → Step
  | fuel + 1, before, a, .equals :: ts => do
    let (b, ts) ← readFiltered fuel ts
    moreEqual fuel (some (chain before a b)) b ts
  | _, before, a, ts => return (before.getD a, ts)

def readFiltered : Nat → List Token → Step
  | 0, _ => refuse
  | fuel + 1, ts => do
    let (e, ts) ← readOperand fuel ts
    moreFilters fuel e ts

/-- Filters and tests of an expression. -/
def moreFilters : Nat → Expr → List Token → Step
  | fuel + 1, e, .mark '|' :: .name word :: ts =>
    match simpleFilter? word e with
    | none => .error "an unknown filter"
    | some filtered =>
      match word, ts with
      | _, .mark '(' :: .mark ')' :: ts => moreFilters fuel filtered ts
      | "join", .mark '(' :: ts => do
        let (separator, ts) ← readOr fuel ts
        match ts with
        | .mark ')' :: ts => moreFilters fuel (.join e separator) ts
        | _ => refuse
      | _, ts => moreFilters fuel filtered ts
  | fuel + 1, e, .name "is" :: .name "not" :: .name word :: ts =>
    match test? word e with
    | some test => if startsArgument ts then refuse else moreFilters fuel (.not test) ts
    | none => .error "an unknown test"
  | fuel + 1, e, .name "is" :: .name word :: ts =>
    match test? word e with
    | some test => if startsArgument ts then refuse else moreFilters fuel test ts
    | none => .error "an unknown test"
  | _, e, ts => return (e, ts)

/-- A primary expression with its members and elements, after minus signs. -/
def readOperand : Nat → List Token → Step
  | 0, _ => refuse
  | fuel + 1, .mark '-' :: ts => do
    let (e, ts) ← readOperand fuel ts
    return (.negative e, ts)
  | fuel + 1, ts => do
    let (e, ts) ← readPrimary fuel ts
    moreParts fuel e ts

/-- Members and elements of an expression. -/
def moreParts : Nat → Expr → List Token → Step
  | fuel + 1, e, .mark '.' :: .name member :: ts => moreParts fuel (.attribute e member) ts
  | fuel + 1, e, .mark '.' :: .number (.int i) :: ts =>
    moreParts fuel (.element e (.literal (.int i))) ts
  | fuel + 1, e, .mark '[' :: ts => do
    let (index, ts) ← readOr fuel ts
    match ts with
    | .mark ']' :: ts => moreParts fuel (.element e index) ts
    | _ => refuse
  | _, e, ts => return (e, ts)

/-- A name, a literal, or an expression in parentheses. -/
def readPrimary : Nat → List Token → Step
  | _, .name s :: ts => return (((constant? s).map literal).getD (.name s), ts)
  | _, .text s :: ts =>
    let (s, ts) := joinTexts s ts
    return (.literal (.str s), ts)
  | _, .number s :: ts => return (.literal s, ts)
  | fuel + 1, .mark '(' :: ts => do
    let (e, ts) ← readOr fuel ts
    match ts with
    | .mark ')' :: ts => return (e, ts)
    | _ => refuse
  | _, _ => refuse

end

def ofTokens (ts : List Token) : Reading Expr := do
  match ← readOr (16 * (ts.length + 1)) ts with
  | (e, []) => return e
  | _ => throw "words after an expression"

end Expr
end Template
end ApiView
