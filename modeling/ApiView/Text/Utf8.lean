import ApiView.Text.Halves

/-!
# Bytes of a text

* `utf8Bytes`: the bytes of a text;
* `ofUtf8?`: the text that bytes stand for, if they stand for one;
* `plain`, `ofPlain`: texts with every character as it is, as other programs have them.
-/

namespace ApiView
namespace Text

/-- A text with every character as it is. -/
def plain (s : String) : String :=
  String.ofList ((codes s.toList).map Char.ofNat)

/-- The text that is kept for one with every character as it is. -/
def ofPlain (s : String) : String :=
  String.ofList (guard s.toList)

def utf8Bytes (s : String) : List UInt8 :=
  (plain s).toUTF8.toList

/-- The text that bytes stand for; none if they are no UTF-8. -/
def ofUtf8? (bytes : List UInt8) : Option String :=
  (String.fromUTF8? (ByteArray.mk bytes.toArray)).map ofPlain

end Text
end ApiView
