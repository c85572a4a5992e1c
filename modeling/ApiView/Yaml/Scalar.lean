import ApiView.Yaml.Numeral

/-!
# YAML scalars as values

* `readBinary`, `readBool`, `readTimestamp`: the values of each form;
* `construct`: the value of a scalar of a type.
-/

namespace ApiView
namespace Yaml

/-! ## Byte strings -/

def base64Value? (c : Char) : Option Nat :=
  if 'A' ≤ c && c ≤ 'Z' then some (c.toNat - 65)
  else if 'a' ≤ c && c ≤ 'z' then some (c.toNat - 71)
  else if '0' ≤ c && c ≤ '9' then some (c.toNat + 4)
  else if c == '+' then some 62
  else if c == '/' then some 63
  else none

/-- Bytes from base 64: `place` of four digits are read, `left` holds their bits that are still to be
used, and `pads` counts the padding since the last digit. Other characters are skipped. -/
def base64Bytes (place left pads : Nat) : List Char → Option (List UInt8)
  | [] => if place == 0 then some [] else none
  | c :: rest =>
    if c == '=' then
      if 2 ≤ place && 4 ≤ place + (pads + 1) then some []
      else base64Bytes place left (if 2 ≤ place then pads + 1 else pads) rest
    else
      match base64Value? c with
      | none => base64Bytes place left pads rest
      | some v =>
        if place == 0 then base64Bytes 1 v 0 rest
        else if place == 1 then
          (base64Bytes 2 (v % 16) 0 rest).map (UInt8.ofNat (left * 4 + v / 16) :: ·)
        else if place == 2 then
          (base64Bytes 3 (v % 4) 0 rest).map (UInt8.ofNat (left * 16 + v / 4) :: ·)
        else (base64Bytes 0 0 0 rest).map (UInt8.ofNat (left * 64 + v) :: ·)

def readBinary (text : List Char) : Except Fault (List UInt8) :=
  if text.all fun c => c.toNat < 128 then
    match base64Bytes 0 0 0 text with
    | some bytes => .ok bytes
    | none => malformed "failed to decode base64 data"
  else malformed "failed to convert base64 data into ascii"

/-! ## Values -/

def readBool (text : List Char) : Except Fault Bool :=
  let word := String.ofList (text.map Char.toLower)
  if ["yes", "true", "on"].contains word then .ok true
  else if ["no", "false", "off"].contains word then .ok false
  else .error (.defect .absentMember)

/-- A date or a time that exists. A line break at its end does not count. -/
def readTimestamp (text : List Char) : Except Fault Scalar :=
  match readTime (dropFinalBreak text) with
  | some (.date d, _) => if d.isValid then .ok (.date d) else .error (.defect .impossibleDate)
  | some (.dateTime t, _) =>
    if t.isValid then .ok (.dateTime t) else .error (.defect .impossibleDate)
  | _ => .error (.defect .notATable)

/-- The value of a scalar of a type, at a place of the text. -/
def construct (type : ScalarType) (place : Nat) (text : List Char) : Except Fault Scalar :=
  match type with
  | .str => .ok (.str (String.ofList text))
  | .null => .ok .null
  | .bool => (readBool text).map .bool
  | .int => (readInt text).map .int
  | .float => (readFloat place text).map .float
  | .timestamp => readTimestamp text
  | .binary => (readBinary text).map .bytes
  | .merge | .default | .reserved =>
    malformed "could not determine a constructor for the tag"

end Yaml
end ApiView
