import ApiView.Failure
import ApiView.Text.Blank
import ApiView.Text.Charset
import ApiView.Text.Runs

/-!
# Content types

A content type is a name with parameters after it: `text/plain; charset=utf-8`. Quoted parameters may
hold semicolons. A parameter may also come in numbered segments and with percent escapes, after the
names of a character set and a language: `charset*=us-ascii'en'utf%2D8`.

* `ContentType.parameter?`: a parameter by its name, in whatever case;
* `FurtherCharsets`: the character sets that are known besides those that are read here;
* `ContentType.bodyText`: the text of a body, in the character set that its content type asks for.
-/

namespace ApiView

/-- The character sets known by name, besides those of `Text.Charset`: the text that bytes stand for, or
none where they cannot be read. -/
abbrev FurtherCharsets := String → Option (List UInt8 → Option (List Char))

namespace ContentType

/-- The parts of a content type between semicolons outside quotes, of which `pending` has been read
already. `previous` is the character before. -/
def partsAfter (pending : List Char) (quoted : Bool) (previous : Char) :
    List Char → List (List Char)
  | [] => [pending]
  | c :: rest =>
    if c == ';' && !quoted then pending :: partsAfter [] false ';' rest
    else partsAfter (pending ++ [c]) (quoted != (c == '"' && previous != '\\')) c rest

def parts (contentType : String) : List (List Char) :=
  partsAfter [] false ';' contentType.toList

def unescaped : List Char → List Char
  | '\\' :: '\\' :: rest => '\\' :: unescaped rest
  | '\\' :: '"' :: rest => '"' :: unescaped rest
  | c :: rest => c :: unescaped rest
  | [] => []

def unquoted (value : List Char) : List Char :=
  match value with
  | '"' :: c :: rest =>
    if (c :: rest).getLast? == some '"' then unescaped (c :: rest).dropLast else value
  | '<' :: c :: rest => if (c :: rest).getLast? == some '>' then (c :: rest).dropLast else value
  | _ => value

def member (part : List Char) : String × String :=
  let name := part.takeWhile (· != '=')
  let value := part.drop (name.length + 1)
  (String.ofList ((Text.trim name).map Char.toLower), String.ofList (unquoted (Text.trim value)))

/-! ## Segments -/

def percentDecoded : List Char → List Char
  | '%' :: a :: b :: rest =>
    match Text.hexNumber? [a, b] with
    | some n => Char.ofNat n :: percentDecoded rest
    | none => '%' :: percentDecoded (a :: b :: rest)
  | c :: rest => c :: percentDecoded rest
  | [] => []

/-- A segment of a parameter: its number, whether it has percent escapes, and its text. -/
structure Segment where
  number : Nat
  escaped : Bool
  text : String

def Segment.meaning (s : Segment) : List Char :=
  if s.escaped then percentDecoded s.text.toList else s.text.toList

/-- Whether a segment may stand in front of another one: by their numbers, then by their texts. -/
def Segment.precedes (a b : Segment) : Bool :=
  a.number < b.number || (a.number == b.number && a.text ≤ b.text)

/-- The segment of the parameter `name` that a member is: `name*`, `name*0` or `name*0*`. -/
def segment? (name : String) (m : String × String) : Option Segment :=
  let head := (name ++ "*").toList
  if head.isPrefixOf m.1.toList then
    let (digits, ending) := (m.1.toList.drop head.length).span Json.isDigit
    if ending.isEmpty then some ⟨Json.digitsValue digits, digits.isEmpty, m.2⟩
    else if ending == ['*'] && !digits.isEmpty then some ⟨Json.digitsValue digits, true, m.2⟩
    else none
  else none

/-- A text after the names of a character set and a language, if it has them. -/
def afterNames (cs : List Char) : List Char :=
  match Text.fieldsAt '\'' cs with
  | _ :: _ :: part :: parts => "'".toList.intercalate (part :: parts)
  | _ => cs

def joined (segments : List Segment) : Option String :=
  let segments := segments.mergeSort Segment.precedes
  let text := segments.flatMap Segment.meaning
  if segments.isEmpty then none
  else some (String.ofList (if segments.any (·.escaped) then afterNames text else text))

/-! ## Parameters -/

/-- The parameter of a name. One that is given at once counts before one in segments. -/
def parameter? (contentType name : String) : Option String :=
  let members := (parts contentType).map member
  match members.lookup name with
  | some value => some value
  | none => joined ((members.drop 1).filterMap (segment? name))

/-- The name of the character set that a content type asks for. Only ASCII names one. -/
def charsetName? (contentType : String) : Option String :=
  (parameter? contentType "charset").filter fun name => name.toList.all fun c => c.toNat < 128

/-- The text of a body in a character set; UTF-8 where the name is that of none. A name with a null
character cannot be looked up. -/
def textIn (further : FurtherCharsets) (name : String) (body : List UInt8) :
    Except Defect (List Char) :=
  if name.toList.contains '\x00' then .error .undecodable
  else
    match Text.Charset.ofName? name, further (Text.charsetName name) with
    | some set, _ => (set.decode body).elim (.error .noByteOrderMark) .ok
    | none, some decode => (decode body).elim (.error .undecodable) .ok
    | none, none => .ok (Text.decodeUtf8 body)

def bodyText (further : FurtherCharsets) (contentType : String) (body : List UInt8) :
    Except Defect (List Char) :=
  if body.isEmpty then .ok []
  else
    match charsetName? contentType with
    | some name => textIn further name body
    | none => .ok (Text.decodeUtf8 body)

end ContentType
end ApiView
