/-!
# Bytes as text

Reading bytes as UTF-8 without failing: every byte sequence that is no part of
a well-formed character is replaced by one replacement character per maximal
beginning of a well-formed one.
-/

namespace SnippetSandbox.Text

/-- What a leading byte announces: how many bytes follow, the range of the first
of them, and the bits that the leading byte contributes. -/
structure Lead where
  following : Nat
  low : Nat
  high : Nat
  bits : Nat

/-- The announcement of a leading byte; none for a byte that leads nothing. -/
def lead? (byte : Nat) : Option Lead :=
  if byte < 0x80 then some ⟨0, 0x80, 0xbf, byte⟩
  else if byte < 0xc2 then none
  else if byte < 0xe0 then some ⟨1, 0x80, 0xbf, byte - 0xc0⟩
  else if byte = 0xe0 then some ⟨2, 0xa0, 0xbf, byte - 0xe0⟩
  else if byte = 0xed then some ⟨2, 0x80, 0x9f, byte - 0xe0⟩
  else if byte < 0xf0 then some ⟨2, 0x80, 0xbf, byte - 0xe0⟩
  else if byte = 0xf0 then some ⟨3, 0x90, 0xbf, byte - 0xf0⟩
  else if byte < 0xf4 then some ⟨3, 0x80, 0xbf, byte - 0xf0⟩
  else if byte = 0xf4 then some ⟨3, 0x80, 0x8f, byte - 0xf0⟩
  else none

/-- Read the announced bytes while they are in range.  The code point is given
only when all of them were there; what was not read is given back. -/
def following : Nat → Nat → Nat → Nat → List UInt8 → Option Nat × List UInt8
  | 0, _, _, code, rest => (some code, rest)
  | _ + 1, _, _, _, [] => (none, [])
  | count + 1, low, high, code, byte :: rest =>
      if low ≤ byte.toNat ∧ byte.toNat ≤ high then
        following count 0x80 0xbf (code * 64 + byte.toNat % 64) rest
      else (none, byte :: rest)

theorem length_following_le (count low high code : Nat) (bytes : List UInt8) :
    (following count low high code bytes).2.length ≤ bytes.length := by
  induction count generalizing low high code bytes with
  | zero => simp [following]
  | succ count ih =>
      cases bytes with
      | nil => simp [following]
      | cons byte rest =>
          unfold following
          split
          · exact Nat.le_succ_of_le (ih _ _ _ _)
          · simp

/-- Stands for bytes that are no text. -/
def replacement : Char := '\ufffd'

/-- The text of any bytes, malformed parts replaced. -/
def decodeLossy : List UInt8 → List Char
  | [] => []
  | byte :: rest =>
      match lead? byte.toNat with
      | none => replacement :: decodeLossy rest
      | some lead =>
          let read := following lead.following lead.low lead.high lead.bits rest
          (read.1.map Char.ofNat).getD replacement :: decodeLossy read.2
termination_by bytes => bytes.length
decreasing_by
  · simp
  · have shorter := length_following_le lead.following lead.low lead.high lead.bits rest
    simp only [List.length_cons]
    omega

/-- The text of any bytes, as a string. -/
def lossyText (bytes : ByteArray) : String :=
  String.ofList (decodeLossy bytes.toList)

end SnippetSandbox.Text
