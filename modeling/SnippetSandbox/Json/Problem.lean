import SnippetSandbox.Decimal.Shortest
import SnippetSandbox.Text.Quoted

/-!
# What is wrong with a document

A document is read from left to right and the first problem ends the reading.
A problem is shown with the line and the column at which it was noticed; lines
count from one and columns count bytes.
-/

namespace SnippetSandbox.Json

/-- A value of the wrong type, as a message names it. -/
inductive Found
  | integer (value : Int)
  | floatingPoint (value : Decimal.Binary)
  | boolean (value : Bool)
  | text (value : String)
  | null
  | sequence
  | map
  deriving DecidableEq, Repr

/-- Whole numbers are written in place up to sixteen digits; a written exponent
has at least two. -/
def numberLayout : Decimal.Layout := ⟨-5, 15⟩

def Found.message : Found → String
  | .integer value => "integer `" ++ Text.signedDecimal value ++ "`"
  | .floatingPoint value => "floating point `" ++ value.text numberLayout ++ "`"
  | .boolean true => "boolean `true`"
  | .boolean false => "boolean `false`"
  | .text value => "string " ++ Text.quoted value
  | .null => "null"
  | .sequence => "sequence"
  | .map => "map"

/-- The first problem of a document. -/
inductive Problem
  | endInValue
  | endInObject
  | endInList
  | endInString
  | expectedValue
  | expectedIdentifier
  | expectedColon
  | expectedCommaOrBrace
  | expectedCommaOrBracket
  | keyNotString
  | trailingComma
  | trailingCharacters
  | invalidNumber
  | numberOutOfRange
  | invalidEscape
  | controlCharacter
  | loneSurrogate
  | unfinishedSurrogate
  | wrongType (found : Found) (expected : String)
  | wrongInteger (value : Int) (expected : String)
  | unknownVariant (name : String) (known : List String)
  | duplicateField (name : String)
  deriving DecidableEq, Repr

def nameList (names : List String) : String :=
  ", ".intercalate (names.map fun name => "`" ++ name ++ "`")

def Problem.message : Problem → String
  | .endInValue => "EOF while parsing a value"
  | .endInObject => "EOF while parsing an object"
  | .endInList => "EOF while parsing a list"
  | .endInString => "EOF while parsing a string"
  | .expectedValue => "expected value"
  | .expectedIdentifier => "expected ident"
  | .expectedColon => "expected `:`"
  | .expectedCommaOrBrace => "expected `,` or `\x7d`"
  | .expectedCommaOrBracket => "expected `,` or `]`"
  | .keyNotString => "key must be a string"
  | .trailingComma => "trailing comma"
  | .trailingCharacters => "trailing characters"
  | .invalidNumber => "invalid number"
  | .numberOutOfRange => "number out of range"
  | .invalidEscape => "invalid escape"
  | .controlCharacter =>
      "control character (\\u0000-\\u001F) found while parsing a string"
  | .loneSurrogate => "lone leading surrogate in hex escape"
  | .unfinishedSurrogate => "unexpected end of hex escape"
  | .wrongType found expected => "invalid type: " ++ found.message ++ ", expected " ++ expected
  | .wrongInteger value expected =>
      "invalid value: integer `" ++ Text.signedDecimal value ++ "`, expected " ++ expected
  | .unknownVariant name known =>
      "unknown variant `" ++ name ++ "`, expected one of " ++ nameList known
  | .duplicateField name => "duplicate field `" ++ name ++ "`"

/-- A place in a document. -/
structure Position where
  line : Nat
  column : Nat
  deriving DecidableEq, Repr

/-- The position behind the first `offset` bytes of a text. -/
def Position.behind (text : List Char) (offset : Nat) : Position :=
  go text offset ⟨1, 0⟩
where
  go : List Char → Nat → Position → Position
    | [], _, position => position
    | character :: rest, remaining, position =>
        if remaining = 0 then position
        else if character = '\n' then go rest (remaining - 1) ⟨position.line + 1, 0⟩
        else
          go rest (remaining - character.utf8Size)
            ⟨position.line, position.column + min remaining character.utf8Size⟩

end SnippetSandbox.Json
