import SnippetSandbox.Shell.Arithmetic
import SnippetSandbox.Shell.Pattern
import SnippetSandbox.Shell.State

/-!
# What words expand to

A word becomes a text, or any number of fields.  Values that are put in outside of
quotes are broken up at separators, quoted text stays together, and a field with
signs of a pattern becomes the names of the files that it matches, if there are any.
-/

namespace SnippetSandbox.Shell

open Action FileSystem Kernel

/-- A part of what a word expands to. -/
inductive Part
  | text (glyphs : List Glyph)
  /-- Text that is broken up into fields: at the separators, or with `onlyNul` only at
  characters with the number zero, which stand between arguments. -/
  | loose (onlyNul : Bool) (glyphs : List Glyph)

def partGlyphs (parts : List Part) : List Glyph :=
  parts.flatMap fun
    | .text found | .loose _ found => found

def partText (parts : List Part) : List Char := plainText (partGlyphs parts)

/-- Carries out commands for their output. -/
abbrev Substitute := Command → Action (List Char)

/-- How a word is expanded. -/
structure Manner where
  splits : Bool := false
  isQuoted : Bool := false
  isInner : Bool := false
  assigns : Bool := false

/-! ## Breaking up into fields -/

def usualSeparators : String := " \t\n"

/-- What has been found of the fields. -/
structure Breaking where
  /-- The glyphs of the field that is not finished, the last one first. -/
  current : List Glyph := []
  fields : List (List Glyph) := []
  passesBlanks : Bool := false
  onlyNul : Bool := false
  afterNul : Bool := false
  /-- How many fields may still be made, if they are counted. -/
  most : Option Nat := none
  /-- The last field as it is without the separators at its end. -/
  trimmed : Option (List Glyph) := none

namespace Breaking

def add (glyph : Glyph) (state : Breaking) : Breaking :=
  { state with current := glyph :: state.current }

def finishField (state : Breaking) : Breaking :=
  { state with fields := state.current.reverse :: state.fields, current := [] }

def separate (glyph : Glyph) (isBlank : Bool) (state : Breaking) : Breaking :=
  let passes := if state.afterNul || state.onlyNul then state.passesBlanks else isBlank
  if state.current = [] && passes then { state with passesBlanks := false }
  else
    let state := { state with passesBlanks := passes }
    match state.most with
    | some 1 => { state with most := some 0, trimmed := some state.current }.add glyph
    | some (fewer + 1) => { state with most := some fewer }.finishField
    | _ => state.finishField

def take (separators : String) (state : Breaking) (glyph : Glyph) : Breaking :=
  match glyph with
  | .mark => state.add .mark
  | .character character _ =>
      let separates := character = '\x00' || separators.toList.contains character
      let isBlank := separates && (character = '\x00' || usualSeparators.toList.contains character)
      if state.most = some 0 then
        if isBlank then { state with trimmed := state.trimmed.or (some state.current) }.add glyph
        else
          let isOnly := separates && state.passesBlanks
          { state with
            trimmed := if isOnly then state.trimmed else none, passesBlanks := false }.add glyph
      else if state.passesBlanks then
        if isBlank then state
        else if separates then { state with passesBlanks := false }
        else { state with passesBlanks := false }.add glyph
      else if separates then state.separate glyph isBlank
      else state.add glyph

def takePart (separators : String) (state : Breaking) : Part → Breaking
  | .text found => { state with current := found.reverse ++ state.current }
  | .loose onlyNul found =>
      let begun := { state with afterNul := state.onlyNul, onlyNul, passesBlanks := false }
      found.foldl (take (if onlyNul then "" else separators)) begun

def allFields (state : Breaking) : List (List Glyph) :=
  let finished :=
    if state.onlyNul then state.finishField
    else
      let last := { state with current := state.trimmed.getD state.current }
      if last.current = [] then last else last.finishField
  finished.fields.reverse

end Breaking

/-- The fields that parts make up; with `most`, the last one gets all that is left. -/
def breakUp (separators : String) (most : Option Nat) (parts : List Part) : List (List Glyph) :=
  (parts.foldl (Breaking.takePart separators) { most }).allFields

def separators? : Action (Option String) := valueOf? "IFS"

/-! ## Names of files -/

/-- The signs of a path up to the next slash, and those from it on. -/
def firstName (signs : List PatternSign) : List PatternSign × List PatternSign :=
  signs.span fun sign => sign.character ≠ '/'

def isPattern : List PatternSign → Bool
  | [] => false
  | ⟨'*', false⟩ :: _ | ⟨'?', false⟩ :: _ => true
  | ⟨'[', false⟩ :: rest => (readSet rest).isSome || isPattern rest
  | _ :: rest => isPattern rest

def signText (signs : List PatternSign) : String := String.ofList (signs.map (·.character))

/-- The names in a directory, with those that lead to itself and to the one around it. -/
def listedNames (disk : Disk) (path : String) : List String :=
  match disk.find (if path = "" then "." else Raw.toText path) with
  | .ok (.present place .directory) => "." :: ".." :: (disk.tree.names place).map Raw.ofText
  | _ => []

/-- The paths that signs match behind a path.  `count` bounds the number of steps. -/
def matchedPaths (disk : Disk) : Nat → String → List PatternSign → List String
  | 0, _, _ => []
  | count + 1, path, signs =>
      let rec split : Nat → String → List PatternSign →
          String × List PatternSign × List PatternSign
        | 0, before, rest => (before, [], rest)
        | steps + 1, before, rest =>
            let (name, behind) := firstName rest
            if isPattern name then (before, name, behind)
            else
              match behind with
              | [] => (before ++ signText name, [], [])
              | _ :: more => split steps (before ++ signText name ++ "/") more
      let (before, name, behind) := split (signs.length + 1) path signs
      if name = [] then
        if path ≠ "" && (disk.findLink (Raw.toText before) matches .ok (.present _ _)) then [before]
        else []
      else
        let pattern := Pattern.ofSigns name
        let showsHidden := name.head?.any fun sign => sign.character = '.'
        let found := (listedNames disk before).filter fun listed =>
          (showsHidden || listed.toList.head? ≠ some '.') && pattern.matches listed.toList
        found.flatMap fun listed =>
          match behind with
          | [] => [before ++ listed]
          | _ :: more => matchedPaths disk count (before ++ listed ++ "/") more

/-- The paths that a field matches in order, or its own text when there are none. -/
def fieldPaths (disk : Disk) (field : List Glyph) : List String :=
  let text := plainText field
  let own := String.ofList text
  if !text.any fun character => character = '*' || character = '?' || character = '[' then [own]
  else
    let signs := patternSigns field
    match matchedPaths disk (signs.length + 1) "" signs with
    | [] => [own]
    | found => found.mergeSort fun first second => decide (first ≤ second)

/-! ## Parameters -/

def valueGlyphs (manner : Manner) (value : String) : List Glyph :=
  glyphs manner.isQuoted value.toList

/-- The letters of all ways to work, in the order in which they are shown. -/
def optionLetters : List (String × Char) :=
  [("errexit", 'e'), ("noglob", 'f'), ("ignoreeof", 'I'), ("interactive", 'i'), ("monitor", 'm'),
    ("noexec", 'n'), ("stdin", 's'), ("xtrace", 'x'), ("verbose", 'v'), ("vi", 'V'),
    ("emacs", 'E'), ("noclobber", 'C'), ("allexport", 'a'), ("notify", 'b'), ("nounset", 'u'),
    ("privileged", 'p'), ("nolog", '\x00'), ("debug", '\x00')]

/-- All arguments as one value.  Where they may become fields, a character with the
number zero stands between them. -/
def allArguments (manner : Manner) (name : String) : Action (List Glyph) := do
  let arguments ← own Own.arguments
  let separators ← separators?
  let isLoose := manner.splits && !manner.isQuoted
  let between : List Char :=
    if name = "@" && manner.isQuoted && manner.splits then ['\x00']
    else
      match separators with
      | none => [' ']
      | some set => if isLoose then ['\x00'] else set.toList.take 1
  let texts := arguments.map fun argument => argument.toList
  return glyphs manner.isQuoted (List.intercalate between texts)

/-- The value of a parameter; none if it has none. -/
def parameter? (manner : Manner) (name : String) : Action (Option (List Glyph)) := do
  let state ← own id
  let value (text : String) : Action (Option (List Glyph)) := return some (valueGlyphs manner text)
  match name with
  | "@" | "*" => return some (← allArguments manner name)
  | "#" => value (Text.decimal state.arguments.length)
  | "?" => value (Text.decimal state.status)
  | "$" => value (Text.decimal state.process)
  | "!" => return state.background.map fun number => valueGlyphs manner (Text.decimal number)
  | "-" =>
      value (String.ofList ((optionLetters.reverse.map Prod.snd).filter state.options.contains))
  | _ =>
      if name.toList.all Char.isDigit then
        let index := Text.number name.toList
        let found := if index = 0 then some state.name else state.arguments[index - 1]?
        return found.map (valueGlyphs manner)
      else return ((state.bindings.lookup name).bind Variable.value).map (valueGlyphs manner)

/-- What is recorded for a value: in quotes it stays together, but the arguments do
not when all of them are put in. -/
def recorded (manner : Manner) (name : String) (value : List Glyph) : Action (List Part) := do
  if !manner.isQuoted then return [.loose false value]
  if name = "@" && (← own Own.arguments) ≠ [] then return [.loose true value]
  return [.text value]

/-! ## Words -/

/-- The home directory of a user; without a name, the one that is set. -/
def homeOf? (user : String) : Action (Option String) := do
  if user = "" then valueOf? "HOME"
  else
    let accounts ← Program.askDisk fun disk => match disk.entryAt? "/etc/passwd" with
      | .ok (.file _ content _) => Text.lossyText content
      | _ => ""
    return (accounts.splitOn "\n").findSome? fun line =>
      let fields := line.splitOn ":"
      if fields.head? = some user then fields[5]? else none

/-- The user that is named behind a tilde, and what follows the name; none when the
tilde stands for itself. -/
def tildeUser? (manner : Manner) : Word → Option (List Char × Word)
  | [] => some ([], [])
  | .character character false :: rest =>
      if character = '/' || (manner.assigns && character = ':') then
        some ([], .character character false :: rest)
      else (tildeUser? manner rest).map fun (user, behind) => (character :: user, behind)
  | _ => none

def expandTilde (manner : Manner) (word : Word) : Action (List Part × Word) := do
  match word with
  | .character '~' false :: rest =>
      match tildeUser? manner rest with
      | none => return ([], word)
      | some (user, behind) =>
          match ← homeOf? (String.ofList user) with
          | none => return ([], word)
          | some home => return ([.text (glyphs true home.toList)], behind)
  | _ => return ([], word)

def evaluateArithmetic (text : List Char) : Action Int := do
  let bindings ← own Own.bindings
  let lookup (name : String) : Except Arithmetic.Problem Int :=
    let value := ((bindings.lookup name).bind Variable.value).getD ""
    match anyInteger? value with
    | some number => .ok number
    | none => .error (.badNumber value)
  match Arithmetic.evaluate lookup text with
  | .ok (value, assigned) =>
      for (name, number) in assigned.reverse do
        assign name (Text.signedDecimal number)
      return value
  | .error .overflow => Program.finish (.killed 8)
  | .error problem => fail (problem.message text)

def failUnset {Result : Type} (name : String) : Action Result :=
  fail (name ++ ": parameter not set")

/-- A character in front of which a new word begins as far as tildes go. -/
def startsTilde (manner : Manner) (seesEquals : Bool) (character : Char) : Bool :=
  manner.assigns && (character = ':' || (character = '=' && seesEquals))

def manyParts : Nat := 2 ^ 40

mutual

def expandWord (substitute : Substitute) (manner : Manner) : Nat → Word → Action (List Part)
  | 0, _ => return []
  | count + 1, word => do
      let (home, behind) ← expandTilde manner word
      return home ++ (← expandPieces substitute manner false true count behind)

/-- What the pieces of a word expand to.  `inQuotes` tells that quotes are open, and
`seesEquals` that the first equals sign is still to come. -/
def expandPieces (substitute : Substitute) (manner : Manner) (inQuotes seesEquals : Bool) :
    Nat → Word → Action (List Part)
  | 0, _ | _, [] => return []
  | count + 1, .character character isProtected :: rest => do
      let glyph := Glyph.character character isProtected
      let isLoose := manner.isInner && !manner.isQuoted && !inQuotes && !isProtected
      let first : Part := if isLoose then .loose false [glyph] else .text [glyph]
      if !isProtected && startsTilde manner seesEquals character then
        let (home, behind) ← expandTilde manner rest
        let others ← expandPieces substitute manner inQuotes
          (seesEquals && character ≠ '=') count behind
        return first :: (home ++ others)
      let others ← expandPieces substitute manner inQuotes seesEquals count rest
      match first, others with
      | .loose false found, .loose false more :: behind =>
          if rest.head?.any (· matches .character _ false) then
            return .loose false (found ++ more) :: behind
          return first :: others
      | _, _ => return first :: others
  | count + 1, .mark :: rest => do
      match inQuotes, rest with
      | false, .value "@" .plain false [] :: .mark :: behind =>
          let found ← expandValue substitute { manner with isQuoted := true } count
            "@" .plain false []
          return found ++ (← expandPieces substitute manner false seesEquals count behind)
      | _, _ =>
          return .text [.mark] ::
            (← expandPieces substitute manner (!inQuotes) seesEquals count rest)
  | count + 1, .value name form nonempty word :: rest => do
      let inner := { manner with isQuoted := manner.isQuoted || inQuotes }
      let found ← expandValue substitute inner count name form nonempty word
      return found ++ (← expandPieces substitute manner inQuotes seesEquals count rest)
  | count + 1, .output commands :: rest => do
      let isQuoted := manner.isQuoted || inQuotes
      let text := glyphs isQuoted (← substitute commands)
      let others ← expandPieces substitute manner inQuotes seesEquals count rest
      return (if isQuoted then .text text else .loose false text) :: others
  | count + 1, .arithmetic expression :: rest => do
      let isQuoted := manner.isQuoted || inQuotes
      let parts ← expandPieces substitute {} false true count expression
      let value ← evaluateArithmetic (partText parts)
      let text := glyphs isQuoted (Text.signedDecimal value).toList
      let others ← expandPieces substitute manner inQuotes seesEquals count rest
      return (if isQuoted then .text text else .loose false text) :: others

def expandValue (substitute : Substitute) (manner : Manner) :
    Nat → String → Form → Bool → Word → Action (List Part)
  | 0, _, _, _, _ => return []
  | count + 1, name, form, nonempty, word => do
      if form = .senseless then fail "Bad substitution"
      let found ← parameter? manner name
      let value := found.filter fun value => !nonempty || value ≠ []
      let inner : Action (List Part) :=
        expandWord substitute { manner with isInner := true } count word
      let checkSet : Action Unit := do
        if value.isNone && (← hasOption 'u') then failUnset name
      match form with
      | .orWord =>
          match value with
          | some value => recorded manner name value
          | none => inner
      | .withWord => if value.isSome then inner else recorded manner name []
      | .orAssign =>
          match value with
          | some value => recorded manner name value
          | none =>
              assign name (String.ofList (partText (← expandWord substitute {} count word)))
              recorded manner name ((← parameter? manner name).getD [])
      | .orFail =>
          match value with
          | some value => recorded manner name value
          | none =>
              if word = [] then
                fail (name ++ ": parameter not set" ++ if nonempty then " or null" else "")
              let text ← expandWord substitute {} count word
              fail (name ++ ": " ++ String.ofList (partText text))
      | .length =>
          checkSet
          let length := ((found.getD []).length)
          let text := glyphs manner.isQuoted (Text.decimal length).toList
          recorded manner name text
      | .plain | .senseless =>
          checkSet
          match value with
          | some value => recorded manner name value
          | none => return []
      | .withoutStart longest =>
          checkSet
          match value with
          | none => return []
          | some value =>
              let pattern := Pattern.ofGlyphs (partGlyphs (← expandWord substitute {} count word))
              let dropped := (pattern.start? longest (plainText value)).getD 0
              recorded manner name (value.drop dropped)
      | .withoutEnd longest =>
          checkSet
          match value with
          | none => return []
          | some value =>
              let pattern := Pattern.ofGlyphs (partGlyphs (← expandWord substitute {} count word))
              let kept := (pattern.end? longest (plainText value)).getD value.length
              recorded manner name (value.take kept)

end

def expandFields (substitute : Substitute) (word : Word) : Action (List String) := do
  let parts ← expandWord substitute { splits := true } manyParts word
  let fields := breakUp ((← separators?).getD usualSeparators) none parts
  if ← hasOption 'f' then return fields.map fun field => String.ofList (plainText field)
  Program.askDisk fun disk => fields.flatMap (fieldPaths disk)

def expandText (substitute : Substitute) (word : Word) : Action String := do
  return String.ofList (partText (← expandWord substitute {} manyParts word))

def expandAssignment (substitute : Substitute) (word : Word) : Action String := do
  let parts ← expandPieces substitute { assigns := true } false true manyParts word
  return String.ofList (partText parts)

def expandDocument (substitute : Substitute) (word : Word) : Action String := do
  let parts ← expandPieces substitute { isQuoted := true } false true manyParts word
  return String.ofList (partText parts)

def expandPattern (substitute : Substitute) (word : Word) : Action Pattern := do
  return Pattern.ofGlyphs (partGlyphs (← expandWord substitute {} manyParts word))

end SnippetSandbox.Shell
