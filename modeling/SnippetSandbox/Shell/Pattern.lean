/-!
# Patterns

In a pattern a star stands for any text, a question mark for any character, and
brackets for one character out of a set.  A protected character stands for itself,
and so does a character behind a backslash.
-/

namespace SnippetSandbox.Shell

/-- A part of what a word expands to. -/
inductive Glyph
  | character (character : Char) (isProtected : Bool)
  | mark
  deriving DecidableEq, Repr

def glyphs (isProtected : Bool) (text : List Char) : List Glyph :=
  text.map fun character => .character character isProtected

def plainText (text : List Glyph) : List Char :=
  text.filterMap fun
    | .character character _ => some character
    | .mark => none

/-- A character of a pattern; a literal one stands for itself. -/
structure PatternSign where
  character : Char
  isLiteral : Bool
  deriving DecidableEq, Repr

/-- The signs that glyphs make.  A backslash that is not protected protects what
follows it. -/
def patternSigns : List Glyph → List PatternSign
  | [] => []
  | .mark :: rest => patternSigns rest
  | .character '\\' false :: .character character _ :: rest =>
      ⟨character, true⟩ :: patternSigns rest
  | .character '\\' false :: .mark :: .character character _ :: rest =>
      if character.isAlphanum then ⟨character, true⟩ :: patternSigns rest
      else ⟨'\\', true⟩ :: ⟨character, false⟩ :: patternSigns rest
  | .character '\\' false :: rest => ⟨'\\', true⟩ :: patternSigns rest
  | .character character isProtected :: rest => ⟨character, isProtected⟩ :: patternSigns rest

def characterClasses : List (String × (Char → Bool)) :=
  let isGraph (character : Char) : Bool := '!' ≤ character && character ≤ '~'
  let isBlank (character : Char) : Bool := character = ' ' || character = '\t'
  let isControl (character : Char) : Bool := character.toNat < 32 || character.toNat = 127
  let isSpace (character : Char) : Bool :=
    character = ' ' || ('\t' ≤ character && character ≤ '\r')
  [("alnum", Char.isAlphanum), ("cntrl", isControl), ("lower", Char.isLower),
    ("space", isSpace), ("alpha", Char.isAlpha), ("digit", Char.isDigit),
    ("print", fun character => character = ' ' || isGraph character), ("upper", Char.isUpper),
    ("blank", isBlank), ("graph", isGraph),
    ("punct", fun character => isGraph character && !character.isAlphanum),
    ("xdigit", fun character => "0123456789abcdefABCDEF".toList.contains character)]

/-- A member of a set of characters. -/
inductive Member
  | range (low high : Char)
  | named (name : String)
  deriving DecidableEq, Repr

def signedByte (character : Char) : Int :=
  if character.toNat < 128 then character.toNat else (character.toNat : Int) - 256

def Member.has (character : Char) : Member → Bool
  | .range low high =>
      signedByte low ≤ signedByte character && signedByte character ≤ signedByte high
  | .named name => ((characterClasses.lookup name).map fun test => test character).getD false

/-- A part of a pattern. -/
inductive Matcher
  | exactly (character : Char)
  | anyCharacter
  | anyText
  /-- One character that some member has, or with `negated` one that none has. -/
  | oneOf (negated : Bool) (members : List Member)
  deriving DecidableEq, Repr

/-- A pattern in its parts. -/
abbrev Pattern := List Matcher

def className? (text : List PatternSign) : Option (String × List PatternSign) :=
  (characterClasses.map Prod.fst).findSome? fun name =>
    let written := (":" ++ name ++ ":]").toList.map fun character => ⟨character, false⟩
    if written.isPrefixOf text then some (name, text.drop written.length) else none

/-- The members of a set up to its closing bracket, and what follows; none when the
bracket is missing.  `count` bounds the number of steps. -/
def readMembers : Nat → Bool → List PatternSign → Option (List Member × List PatternSign)
  | 0, _, _ | _, _, [] => none
  | count + 1, isFirst, sign :: rest =>
      let goOn (member : Member) (rest : List PatternSign) :=
        (readMembers count false rest).map fun (members, behind) => (member :: members, behind)
      let single : Option (List Member × List PatternSign) :=
        match rest with
        | ⟨'-', false⟩ :: high :: behind =>
            if high = ⟨']', false⟩ then goOn (.range sign.character sign.character) rest
            else goOn (.range sign.character high.character) behind
        | _ => goOn (.range sign.character sign.character) rest
      if sign = ⟨']', false⟩ && !isFirst then some ([], rest)
      else if sign = ⟨'[', false⟩ then
        match className? rest with
        | some (name, behind) => goOn (.named name) behind
        | none => single
      else single

def readSet (text : List PatternSign) : Option (Matcher × List PatternSign) :=
  let members (negated : Bool) (text : List PatternSign) :=
    (readMembers (text.length + 1) true text).map fun (members, behind) =>
      (Matcher.oneOf negated members, behind)
  match text with
  | ⟨'!', false⟩ :: rest | ⟨'^', false⟩ :: rest => members true rest
  | _ => members false text

/-- The pattern that signs stand for.  `count` bounds the number of steps. -/
def patternOf : Nat → List PatternSign → Pattern
  | 0, _ | _, [] => []
  | count + 1, ⟨character, isLiteral⟩ :: rest =>
      if isLiteral then .exactly character :: patternOf count rest
      else if character = '*' then .anyText :: patternOf count rest
      else if character = '?' then .anyCharacter :: patternOf count rest
      else if character = '[' then
        match readSet rest with
        | some (matcher, behind) => matcher :: patternOf count behind
        | none => .exactly '[' :: patternOf count rest
      else .exactly character :: patternOf count rest

def Pattern.ofSigns (text : List PatternSign) : Pattern := patternOf text.length text

def Pattern.ofGlyphs (text : List Glyph) : Pattern := Pattern.ofSigns (patternSigns text)

def Matcher.accepts : Matcher → Char → Bool
  | .exactly expected, character => expected = character
  | .anyCharacter, _ => true
  | .anyText, _ => true
  | .oneOf negated members, character => negated != members.any (Member.has character)

def Pattern.matches : Pattern → List Char → Bool
  | [], text => text.isEmpty
  | .anyText :: rest, [] => Pattern.matches rest []
  | .anyText :: rest, character :: text =>
      Pattern.matches rest (character :: text) || Pattern.matches (.anyText :: rest) text
  | _ :: _, [] => false
  | matcher :: rest, character :: text =>
      matcher.accepts character && Pattern.matches rest text
termination_by pattern text => pattern.length + text.length

def untilNul (text : List Char) : List Char := text.takeWhile (· ≠ '\x00')

/-- The lengths at which a text may be cut, the shortest first; a text is looked
through no further than to the first character with the number zero. -/
def cutsForward (text : List Char) : List Nat := List.range ((untilNul text).length + 1)

def cutsBackward (text : List Char) : List Nat := (List.range (text.length + 1)).reverse

/-- How much of a text the pattern matches at the beginning, at least or at most. -/
def Pattern.start? (pattern : Pattern) (longest : Bool) (text : List Char) : Option Nat :=
  (if longest then cutsBackward text else cutsForward text).find? fun size =>
    pattern.matches (untilNul (text.take size))

/-- Where the end of a text begins that the pattern matches, the longest or the
shortest one. -/
def Pattern.end? (pattern : Pattern) (longest : Bool) (text : List Char) : Option Nat :=
  (if longest then cutsForward text else cutsBackward text).find? fun size =>
    pattern.matches (untilNul (text.drop size))

end SnippetSandbox.Shell
