import SnippetSandbox.Text.Digits

/-!
# Quotes in messages

Programs put names into quotes so that a message stays clear, and so that the name can
be used in a script.  Bytes that cannot be shown are written as escapes.
-/

namespace SnippetSandbox.Utility

def isShown (character : Char) : Bool := ' ' ≤ character && character ≤ '~'

def escapeLetter? : Char → Option Char
  | '\x07' => some 'a'
  | '\x08' => some 'b'
  | '\t' => some 't'
  | '\n' => some 'n'
  | '\x0b' => some 'v'
  | '\x0c' => some 'f'
  | '\r' => some 'r'
  | _ => none

def escape (character : Char) : List Char :=
  match escapeLetter? character with
  | some letter => ['\\', letter]
  | none =>
      let digits := Nat.toDigits 8 character.toNat
      '\\' :: (List.replicate (3 - digits.length) '0' ++ digits)

def quoteText (text : String) : String :=
  let shown := text.toList.flatMap fun character =>
    if character = '\'' || character = '\\' then ['\\', character]
    else if isShown character then [character]
    else escape character
  "'" ++ String.ofList shown ++ "'"

def meaningful : List Char := " !\"$&()*;<=>[^\x60|?\\'".toList

def needsQuotes (name : String) : Bool :=
  let characters := name.toList
  characters = [] || characters = ['\x7b'] || characters = ['\x7d'] ||
    characters.head? = some '#' || characters.head? = some '~' ||
    characters.any fun character => !isShown character || meaningful.contains character

def isPlainInQuotes (character : Char) : Bool :=
  isShown character && !"!\"$\\\x60?#&()*;<=>[^\x7b|\x7d~".toList.contains character

/-- The characters of a name between single quotes.  Escapes stand outside of the quotes;
`isInside` tells that such escapes are open. -/
def quotedCharacters : Bool → List Char → List Char
  | false, [] => []
  | true, [] => ['\'']
  | isInside, character :: rest =>
      if isShown character then
        let closing : List Char := if isInside then ['\'', '\''] else []
        let shown : List Char := if character = '\'' then ['\'', '\\', '\'', '\''] else [character]
        closing ++ shown ++ quotedCharacters false rest
      else
        let opening : List Char := if isInside then [] else ['\'', '$', '\'']
        opening ++ escape character ++ quotedCharacters true rest

def quoteName (name : String) : String :=
  let characters := name.toList
  if characters.contains '\'' && characters.all isPlainInQuotes then "\"" ++ name ++ "\""
  else
    let isEscapedLast := characters.getLast?.any fun last => !isShown last
    let quoted := '\'' :: quotedCharacters false characters
    String.ofList (if isEscapedLast then quoted else quoted ++ ['\''])

def showName (name : String) : String :=
  if needsQuotes name then quoteName name else name

def labelName (name : String) : String :=
  if needsQuotes name || name.toList.contains ':' then quoteName name else name

end SnippetSandbox.Utility
