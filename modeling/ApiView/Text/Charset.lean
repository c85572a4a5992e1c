import ApiView.Text.CharsetTable
import ApiView.Text.Halves
import ApiView.Text.Runs

/-!
# Character sets

The bytes of a text are read in the character set that goes with them. What stands for no character
is read as the replacement character.

* `Charset`: the sets that can be read;
* `Charset.ofName?`: the set that a name means, however its words are set apart;
* `Begun`, `decodeUtf8`: UTF-8, read one byte after the other;
* `Charset.decode`: the text that bytes stand for.

Sets of two or four bytes are little-endian, big-endian, or say by a mark at the start which of the
two they are. Sets in which characters have bytes of varying number, UTF-8 aside, are not here.
-/

namespace ApiView
namespace Text

inductive ByteOrder
  | little
  | big
deriving DecidableEq, Repr

/-- A character set; a missing byte order is told by a mark. -/
inductive Charset
  | utf8
  | markedUtf8
  | utf16 (order : Option ByteOrder)
  | utf32 (order : Option ByteOrder)
  | singleByte (set : SingleByteSet)

/-- What bytes that stand for no character are read as. -/
def replacement : Char := '\ufffd'

/-! ## Names -/

def charsetName (name : String) : String :=
  "_".intercalate ((runsOf (fun c => c.isAlphanum || c == '.') (name.toList.map Char.toLower)).map
    String.ofList)

/-- The sets of several bytes by their names. -/
def wideSets : List (String × Charset) :=
  [("utf_8", .utf8), ("utf8", .utf8), ("u8", .utf8), ("utf", .utf8), ("utf8_ucs2", .utf8),
   ("utf8_ucs4", .utf8), ("cp65001", .utf8), ("utf_8_sig", .markedUtf8),
   ("utf_16", .utf16 none), ("utf16", .utf16 none), ("u16", .utf16 none),
   ("utf_16_le", .utf16 (some .little)), ("utf_16le", .utf16 (some .little)),
   ("unicodelittleunmarked", .utf16 (some .little)),
   ("utf_16_be", .utf16 (some .big)), ("utf_16be", .utf16 (some .big)),
   ("unicodebigunmarked", .utf16 (some .big)),
   ("utf_32", .utf32 none), ("utf32", .utf32 none), ("u32", .utf32 none),
   ("utf_32_le", .utf32 (some .little)), ("utf_32le", .utf32 (some .little)),
   ("utf_32_be", .utf32 (some .big)), ("utf_32be", .utf32 (some .big))]

/-- The character set that a name means. -/
def Charset.ofName? (name : String) : Option Charset :=
  let key := charsetName name
  match wideSets.lookup key with
  | some set => some set
  | none => (singleByteSets.find? (·.names.contains key)).map .singleByte

/-! ## Bytes -/

def ByteOrder.number (order : ByteOrder) (bytes : List UInt8) : Nat :=
  let ordered := match order with
    | .little => bytes.reverse
    | .big => bytes
  ordered.foldl (fun n b => n * 256 + b.toNat) 0

def SingleByteSet.char (set : SingleByteSet) (b : UInt8) : Char :=
  if b < 128 then Char.ofNat b.toNat else (set.upper.toList[b.toNat - 128]?).getD replacement

/-- The characters of 16-bit units. A half of a pair that stands alone is no character, and neither is
a unit that is cut off. -/
def decodeUnits (order : ByteOrder) : List UInt8 → List Char
  | a :: b :: c :: d :: rest =>
    let n := order.number [a, b]
    let m := order.number [c, d]
    if 0xD800 ≤ n && n ≤ 0xDBFF && 0xDC00 ≤ m && m ≤ 0xDFFF then
      Char.ofNat (0x10000 + (n - 0xD800) * 0x400 + (m - 0xDC00)) :: decodeUnits order rest
    else
      (if 0xD800 ≤ n && n ≤ 0xDFFF then replacement else Char.ofNat n) ::
        decodeUnits order (c :: d :: rest)
  | a :: b :: rest =>
    let n := order.number [a, b]
    if 0xD800 ≤ n && n ≤ 0xDBFF then [replacement]
    else
      (if 0xDC00 ≤ n && n ≤ 0xDFFF then replacement else Char.ofNat n) :: decodeUnits order rest
  | [_] => [replacement]
  | [] => []

def decodeNumbers (order : ByteOrder) : List UInt8 → List Char
  | a :: b :: c :: d :: rest =>
    let n := order.number [a, b, c, d]
    (if n.isValidChar then Char.ofNat n else replacement) :: decodeNumbers order rest
  | [] => []
  | _ => [replacement]

/-! ## UTF-8 -/

/-- A character of UTF-8 of which some bytes have been read: the number they have made so far, how many
bytes are missing, and what the next one has to lie between. -/
structure Begun where
  value : Nat
  missing : Nat
  low : UInt8 := 0x80
  high : UInt8 := 0xBF
deriving DecidableEq, Repr

/-- The character that a byte begins. Of the second byte depends whether a character is in its shortest
form, no half of a pair, and within the range. -/
def Begun.ofByte? (b : UInt8) : Option Begun :=
  if 0xC2 ≤ b && b ≤ 0xDF then some { value := b.toNat - 0xC0, missing := 1 }
  else if b == 0xE0 then some { value := 0, missing := 2, low := 0xA0 }
  else if b == 0xED then some { value := 0xD, missing := 2, high := 0x9F }
  else if 0xE1 ≤ b && b ≤ 0xEF then some { value := b.toNat - 0xE0, missing := 2 }
  else if b == 0xF0 then some { value := 0, missing := 3, low := 0x90 }
  else if b == 0xF4 then some { value := 4, missing := 3, high := 0x8F }
  else if 0xF1 ≤ b && b ≤ 0xF3 then some { value := b.toNat - 0xF0, missing := 3 }
  else none

/-- A byte in front of which nothing is begun: the characters that it completes, and what it begins. -/
def startUtf8 (b : UInt8) : List Char × Option Begun :=
  if b < 0x80 then ([Char.ofNat b.toNat], none)
  else
    match Begun.ofByte? b with
    | some begun => ([], some begun)
    | none => ([replacement], none)

/-- The next byte. One that does not go on with what is begun leaves a replacement for it, and is read
again by itself. -/
def stepUtf8 (begun : Option Begun) (b : UInt8) : List Char × Option Begun :=
  match begun with
  | none => startUtf8 b
  | some begun =>
    if begun.low ≤ b && b ≤ begun.high then
      let value := begun.value * 64 + (b.toNat - 0x80)
      if begun.missing ≤ 1 then ([Char.ofNat value], none)
      else ([], some { value := value, missing := begun.missing - 1 })
    else
      let (cs, next) := startUtf8 b
      (replacement :: cs, next)

/-- The characters of UTF-8 behind what is begun. What is cut off leaves a replacement. -/
def utf8After : Option Begun → List UInt8 → List Char
  | none, [] => []
  | some _, [] => [replacement]
  | begun, b :: rest =>
    let (cs, next) := stepUtf8 begun b
    cs ++ utf8After next rest

/-- The characters of UTF-8. -/
def decodeUtf8 (bytes : List UInt8) : List Char :=
  guard (utf8After none bytes)

/-! ## Texts -/

def utf8Mark : List UInt8 := [0xEF, 0xBB, 0xBF]

/-- The text that bytes stand for; none where a mark is needed and missing. -/
def Charset.decode : Charset → List UInt8 → Option (List Char)
  | utf8, bytes => some (decodeUtf8 bytes)
  | markedUtf8, bytes =>
    -- A part of the mark says nothing.
    if bytes.isPrefixOf utf8Mark then some []
    else some (decodeUtf8 (if utf8Mark.isPrefixOf bytes then bytes.drop utf8Mark.length else bytes))
  | utf16 (some order), bytes => some (guard (decodeUnits order bytes))
  | utf16 none, 0xFF :: 0xFE :: rest => some (guard (decodeUnits .little rest))
  | utf16 none, 0xFE :: 0xFF :: rest => some (guard (decodeUnits .big rest))
  | utf16 none, bytes => if bytes.length < 2 then some (decodeUnits .little bytes) else none
  | utf32 (some order), bytes => some (guard (decodeNumbers order bytes))
  | utf32 none, 0xFF :: 0xFE :: 0 :: 0 :: rest => some (guard (decodeNumbers .little rest))
  | utf32 none, 0 :: 0 :: 0xFE :: 0xFF :: rest => some (guard (decodeNumbers .big rest))
  | utf32 none, bytes => if bytes.length < 4 then some (decodeNumbers .little bytes) else none
  | singleByte set, bytes => some (bytes.map set.char)

end Text
end ApiView
