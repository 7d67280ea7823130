import SnippetSandbox.Text.Utf8

/-!
# Texts of bytes

Programs that know nothing of characters work on bytes.  A text of bytes holds one
character for each byte, the one with the byte's number, so that lengths, orders
and patterns are those of the bytes.
-/

namespace SnippetSandbox.Raw

def ofBytes (bytes : List UInt8) : List Char :=
  bytes.map fun byte => Char.ofNat byte.toNat

def byteOf (character : Char) : UInt8 := UInt8.ofNat character.toNat

/-- The bytes that a text of bytes holds. -/
def bytes (raw : List Char) : ByteArray :=
  raw.foldl (fun bytes character => bytes.push (byteOf character)) (ByteArray.emptyWithCapacity 64)

/-- Every character is a byte that stands for itself in any text. -/
def isPlain (text : String) : Bool :=
  text.utf8ByteSize = text.length

/-- A text as its bytes. -/
def ofText (text : String) : String :=
  if isPlain text then text else String.ofList (ofBytes text.toUTF8.toList)

/-- The text that bytes spell; bytes that spell nothing are replaced. -/
def toText (raw : String) : String :=
  if isPlain raw then raw else Text.lossyText (bytes raw.toList)

end SnippetSandbox.Raw
