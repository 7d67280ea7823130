import SnippetSandbox.Text.Digits
import SnippetSandbox.Text.Printable

/-!
# Quoted texts

A text inside a message stands between double quotes.  Quote, backslash and the
common control characters are escaped by a letter, and every other character
that has no shape of its own, or that would join onto its neighbour, by its
code point in hexadecimal.
-/

namespace SnippetSandbox.Text

def hexDigit (value : Nat) : Char :=
  if value < 10 then Char.ofNat (0x30 + value) else Char.ofNat (0x61 + (value - 10))

def hexDigits (value : Nat) : List Char :=
  if value < 16 then [hexDigit value]
  else hexDigits (value / 16) ++ [hexDigit (value % 16)]
termination_by value
decreasing_by omega

/-- How one character is written between quotes. -/
def quotedChar (character : Char) : List Char :=
  match character with
  | '\x00' => ['\\', '0']
  | '\t' => ['\\', 't']
  | '\n' => ['\\', 'n']
  | '\r' => ['\\', 'r']
  | '"' => ['\\', '"']
  | '\\' => ['\\', '\\']
  | other =>
      if isPrintable other && !isJoining other then [other]
      else ['\\', 'u', '\x7b'] ++ hexDigits other.toNat ++ ['\x7d']

def quoted (text : String) : String :=
  String.ofList ('"' :: text.toList.flatMap quotedChar ++ ['"'])

end SnippetSandbox.Text
