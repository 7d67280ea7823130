import SnippetSandbox.Shell.Syntax
import SnippetSandbox.Text.Digits

/-!
# Reading scripts

A script is read one command line at a time, since what is carried out first may
change how the rest is read.  Reading goes character by character: characters make
tokens, and tokens make commands.  A word at which a command may begin is looked up
among the known abbreviations, and their text is read in its place.
-/

namespace SnippetSandbox.Shell

/-- A token of a script. -/
inductive Token
  | endOfFile
  | newline
  | operator (symbol : String)
  | redirection
  | word
  | reserved (word : String)
  deriving DecidableEq, Repr

def Token.shown : Token → String
  | .endOfFile => "end of file"
  | .newline => "newline"
  | .redirection => "redirection"
  | .word => "word"
  | .operator text | .reserved text => "\"" ++ text ++ "\""

def reservedWords : List String :=
  ["!", "case", "do", "done", "elif", "else", "esac", "fi", "for", "if", "in", "then", "until",
    "while", "\x7b", "\x7d"]

def Token.endsList (token : Token) : Bool :=
  match token with
  | .endOfFile => true
  | .operator text => text = ")" || text = ";;"
  | .reserved text => ["do", "done", "elif", "else", "esac", "fi", "then", "\x7d"].contains text
  | _ => false

/-- What is wrong with the form of a script, and the line that was reached. -/
structure Misfit where
  message : String
  line : Nat
  deriving DecidableEq, Repr

/-- Text that is read in place of an abbreviation. -/
structure Inserted where
  rest : List Char
  abbreviation : String
  /-- A blank stands at its end, so the word that follows is looked up too. -/
  endsBlank : Bool
  deriving DecidableEq, Repr

/-- A document that is still to come. -/
structure Awaited where
  number : Nat
  ending : List Char
  isLiteral : Bool
  dropsTabs : Bool
  deriving DecidableEq, Repr

/-- What has been read of a script, and how the next token is read. -/
structure Reader where
  inserted : List Inserted := []
  text : List Char
  line : Nat := 1
  abbreviations : List (String × String)
  token : Token := .newline
  word : Word := []
  isQuoted : Bool := false
  /-- The last redirection; its path is still to come. -/
  redirection : Redirection := .mk 0 (.descriptor none)
  isPushedBack : Bool := false
  skipsLines : Bool := false
  reserves : Bool := false
  expands : Bool := false
  isEnding : Bool := false
  awaited : List Awaited := []
  documents : List (Nat × Word) := []
  nextDocument : Nat

/-- Reading a part of a script. -/
abbrev Reading := StateT Reader (Except Misfit)

namespace Reading

def refuse {Result : Type} (message : String) : Reading Result := do
  throw ⟨"Syntax error: " ++ message, (← get).line⟩

/-- Refuse the last token, and tell what should be there instead, if that is known. -/
def refuseToken {Result : Type} (expected : Option Token) : Reading Result := do
  let found := (← get).token.shown
  match expected with
  | none => refuse (found ++ " unexpected")
  | some token => refuse (found ++ " unexpected (expecting " ++ token.shown ++ ")")

/-! ## Characters -/

/-- The first character of inserted texts or of what follows them, with the texts
that are left and whether one was left that ends in a blank. -/
def takeInserted : List Inserted → Option (Char × List Inserted) × Bool
  | [] => (none, false)
  | first :: others =>
      match first.rest with
      | character :: rest => (some (character, { first with rest } :: others), false)
      | [] =>
          let (found, blank) := takeInserted others
          (found, blank || first.endsBlank)

def take : Reading (Option Char) := fun reader =>
  if reader.inserted = [] then
    match reader.text with
    | [] => .ok (none, reader)
    | character :: text => .ok (some character, { reader with text })
  else
    match takeInserted reader.inserted with
    | (some (character, inserted), blank) =>
        .ok (some character, { reader with inserted, expands := reader.expands || blank })
    | (none, blank) =>
        let reader := { reader with inserted := [], expands := reader.expands || blank }
        match reader.text with
        | [] => .ok (none, reader)
        | character :: text => .ok (some character, { reader with text })

def giveBack : Option Char → Reading Unit
  | none => return ()
  | some character => modify fun reader =>
      match reader.inserted with
      | first :: others =>
          { reader with inserted := { first with rest := character :: first.rest } :: others }
      | [] => { reader with text := character :: reader.text }

def countLine : Reading Unit := modify fun reader => { reader with line := reader.line + 1 }

def manySteps : Nat := 2 ^ 40

def takeOnFrom : Nat → Reading (Option Char)
  | 0 => take
  | count + 1 => do
      match ← take with
      | some '\\' =>
          match ← take with
          | some '\n' =>
              countLine
              takeOnFrom count
          | other =>
              giveBack other
              return some '\\'
      | other => return other

def takeOn : Reading (Option Char) := takeOnFrom manySteps

/-! ## Words -/

/-- How the characters of a word are taken. -/
inductive Manner
  | bare
  | double
  | single
  | arithmetic
  deriving DecidableEq, Repr

/-- A part of a word that follows its own rules. -/
structure Level where
  manner : Manner
  protects : Bool
  isInner : Bool := false
  isBraced : Bool := false
  /-- How many braces are open. -/
  braces : Nat := 0
  /-- How many of them stand in quotes. -/
  quotedBraces : Nat := 0
  parentheses : Nat := 0
  deriving Repr

/-- A piece that is not complete, and the pieces in front of it, the last one first. -/
structure Opened where
  /-- The parameter; none for an arithmetic expression. -/
  parameter : Option (String × Form × Bool)
  before : List Piece

/-- A word that is being read. -/
structure Partial where
  level : Level
  outer : List Level := []
  opened : List Opened := []
  pieces : List Piece := []
  isQuoted : Bool := false

namespace Partial

def add (piece : Piece) (state : Partial) : Partial :=
  { state with pieces := piece :: state.pieces }

def put (character : Char) (state : Partial) : Partial :=
  state.add (.character character state.level.protects)

def openPiece (parameter : Option (String × Form × Bool)) (state : Partial) : Partial :=
  { state with opened := ⟨parameter, state.pieces⟩ :: state.opened, pieces := [] }

def closePiece (state : Partial) : Partial :=
  match state.opened with
  | [] => state
  | ⟨parameter, before⟩ :: opened =>
      let inner := state.pieces.reverse
      let piece := match parameter with
        | some (name, form, nonempty) => Piece.value name form nonempty inner
        | none => .arithmetic inner
      { state with opened, pieces := piece :: before }

def push (level : Level) (state : Partial) : Partial :=
  { state with level, outer := state.level :: state.outer }

def pop (state : Partial) : Partial :=
  match state.outer with
  | [] => state
  | level :: outer => { state with level, outer }

/-- Add the sign that quotes open or close, except in a document. -/
def addMark (inDocument : Bool) (state : Partial) : Partial :=
  if inDocument then state else state.add .mark

def turn (state : Partial) : Partial :=
  if state.level.braces = 0 then state
  else { state with level := { state.level with isInner := !state.level.isInner } }

def closeQuote (inDocument : Bool) (quote : Char) (state : Partial) : Partial :=
  if inDocument && state.level.braces = 0 then state.put quote
  else
    let state :=
      if state.level.quotedBraces = 0 then
        { state with level := { state.level with manner := .bare, protects := false } }
      else state
    let state := { state with isQuoted := true }
    (if quote = '"' then state.turn else state).addMark inDocument

def closeBrace (state : Partial) : Partial :=
  let level := state.level
  if level.isInner || level.braces = 0 then state.put '\x7d'
  else
    let left :=
      if level.braces = 1 && level.isBraced then state.pop
      else
        { state with
          level :=
            { level with braces := level.braces - 1, quotedBraces := level.quotedBraces - 1 } }
    left.closePiece

end Partial

def escaped (inDocument : Bool) (state : Partial) : Reading Partial := do
  match ← take with
  | none => return state.add (.character '\\' true)
  | some character =>
      let level := state.level
      let staysBackslash := level.protects && character ≠ '\\' && character ≠ '\x60' &&
        character ≠ '$' && (character ≠ '"' || (inDocument && level.braces = 0)) &&
        (character ≠ '\x7d' || level.braces = 0)
      let state := if staysBackslash then state.add (.character '\\' true) else state
      return { state.add (.character character true) with isQuoted := true }

/-- The characters of a name that begins with a given one, and the one behind it. -/
def nameFrom (continues : Char → Bool) : Nat → List Char → Reading (List Char × Option Char)
  | 0, name => return (name.reverse, none)
  | count + 1, name => do
      match ← takeOn with
      | some character =>
          if continues character then nameFrom continues count (character :: name)
          else return (name.reverse, some character)
      | none => return (name.reverse, none)

/-- The form of what is put in, by the character behind a parameter's name.  The
third result tells that more is to come before the closing brace, the last one that
it follows the rules of bare words. -/
def formBehind (character : Option Char) : Reading (Form × Bool × Bool × Bool) := do
  let plainForm? : Option Char → Option Form
    | some '\x7d' => some .plain
    | some '-' => some .orWord
    | some '+' => some .withWord
    | some '?' => some .orFail
    | some '=' => some .orAssign
    | _ => none
  let trimmed (sign : Char) (form : Bool → Form) : Reading (Form × Bool × Bool × Bool) := do
    match ← takeOn with
    | some next =>
        if next = sign then return (form true, false, true, true)
        giveBack (some next)
        return (form false, false, true, true)
    | none => return (form false, false, true, true)
  match character with
  | some ':' =>
      let next ← takeOn
      match plainForm? next with
      | some form => return (form, true, true, false)
      | none => return (.senseless, true, true, false)
  | some '%' => trimmed '%' .withoutEnd
  | some '#' => trimmed '#' .withoutStart
  | other =>
      match plainForm? other with
      | some .plain => return (.plain, false, false, false)
      | some form => return (form, false, true, false)
      | none => return (.senseless, false, true, false)

def beginValue (name : String) (form : Form) (nonempty goesOn isBare : Bool)
    (state : Partial) : Partial :=
  let level := state.level
  let manner : Manner :=
    if isBare then .bare else if level.manner = .arithmetic then .double else level.manner
  let opened := state.openPiece (some (name, form, nonempty))
  if !goesOn then opened.closePiece
  else
    let opened :=
      if manner ≠ level.manner || level.isInner then
        opened.push { manner, protects := manner ≠ .bare, isBraced := true }
      else opened
    let inside := opened.level
    { opened with
      level :=
        { inside with
          braces := inside.braces + 1
          quotedBraces := inside.quotedBraces + if inside.protects then 1 else 0 } }

def braced (state : Partial) : Reading Partial := do
  let senseless (next : Option Char) (form : Form) : Reading Partial := do
    giveBack next
    return beginValue "" form false true false state
  let named (name : List Char) (next : Option Char) : Reading Partial := do
    let (form, nonempty, goesOn, isBare) ← formBehind next
    return beginValue (String.ofList name) form nonempty goesOn isBare state
  let measured (name : List Char) (next : Option Char) : Reading Partial := do
    giveBack next
    let form : Form := if next = some '\x7d' then .length else .senseless
    return beginValue (String.ofList name) form false true false state
  match ← takeOn with
  | none => senseless none .senseless
  | some first =>
      if beginsName first then
        let (name, next) ← nameFrom continuesName manySteps [first]
        named name next
      else if first.isDigit then
        let (name, next) ← nameFrom Char.isDigit manySteps [first]
        named name next
      else if first = '\x7d' then senseless (some first) .senseless
      else
        let next ← takeOn
        if first = '#' then
          match next with
          | none => named ['#'] none
          | some second =>
              if beginsName second then
                let (name, behind) ← nameFrom continuesName manySteps [second]
                measured name behind
              else if second.isDigit then
                let (name, behind) ← nameFrom Char.isDigit manySteps [second]
                measured name behind
              else
                let third ← takeOn
                if second = '\x7d' || third ≠ some '\x7d' then
                  giveBack third
                  named ['#'] (some second)
                else if isSpecialParameter second then measured [second] third
                else senseless third .senseless
        else if isSpecialParameter first then named [first] next
        else senseless next .senseless

/-- The text between backquotes, behind the first one.  Before some characters, a
backslash is dropped. -/
def backquoted (inQuotes : Bool) : Nat → List Char → Reading (List Char)
  | 0, text => return text.reverse
  | count + 1, text => do
      match ← takeOn with
      | none => refuse "EOF in backquote substitution"
      | some '\x60' => return text.reverse
      | some '\\' =>
          match ← take with
          | none => refuse "EOF in backquote substitution"
          | some character =>
              let isDropped := character = '\\' || character = '\x60' || character = '$' ||
                (inQuotes && character = '"')
              backquoted inQuotes count
                (if isDropped then character :: text else character :: '\\' :: text)
      | some character =>
          if character = '\n' then countLine
          backquoted inQuotes count (character :: text)

/-- At the beginning of a line in a document, look whether the line ends it.  The
result is the character to go on with; none at the end. -/
def lineOfDocument (awaited : Awaited) (first : Option Char) : Reading (Option Char) := do
  let rec skipTabs : Nat → Option Char → Reading (Option Char)
    | count + 1, some '\t' => do skipTabs count (← take)
    | _, other => return other
  let rec compare : List Char → List Char → Option Char →
      Reading (Bool × List Char × Option Char)
    | [], passed, next => return (next = some '\n' || next = none, passed, next)
    | expected :: others, passed, next => do
        if next = some expected then compare others (expected :: passed) (← take)
        else return (false, passed, next)
  let first ← if awaited.dropsTabs then skipTabs manySteps first else pure first
  match ← compare awaited.ending [] first with
  | (true, _, _) =>
      countLine
      return none
  | (false, passed, next) =>
      giveBack next
      match passed.reverse with
      | [] => take
      | character :: others =>
          for passedOne in others.reverse do giveBack (some passedOne)
          return some character

/-! ## Tokens and commands -/

def pushBack : Reading Unit := modify fun reader => { reader with isPushedBack := true }

def expect (skipsLines reserves expands : Bool) : Reading Unit :=
  modify fun reader => { reader with skipsLines, reserves, expands, isEnding := false }

def beginRedirection (descriptor : Option Nat) (sign : Char) : Reading Unit := do
  let set (usual : Nat) (target : Target) : Reading Unit :=
    modify fun reader => { reader with redirection := .mk (descriptor.getD usual) target }
  let next ← takeOn
  if sign = '>' then
    match next with
    | some '>' => set 1 (.extend [])
    | some '|' => set 1 (.write [] true)
    | some '&' => set 1 (.descriptorOf [])
    | other =>
        giveBack other
        set 1 (.write [] false)
  else
    match next with
    | some '<' =>
        let number := (← get).nextDocument
        let dropsTabs ← do
          match ← takeOn with
          | some '-' => pure true
          | other =>
              giveBack other
              pure false
        modify fun reader =>
          { reader with
            nextDocument := number + 1
            awaited := reader.awaited ++ [⟨number, [], false, dropsTabs⟩] }
        set 0 (.document number)
    | some '&' => set 0 (.descriptorOf [])
    | some '>' => set 0 (.readAndWrite [])
    | other =>
        giveBack other
        set 0 (.read [])

def completeRedirection (path : Word) : Reading Redirection := do
  let reader ← get
  let .mk descriptor target := reader.redirection
  match target with
  | .write _ always => return .mk descriptor (.write path always)
  | .extend _ => return .mk descriptor (.extend path)
  | .read _ => return .mk descriptor (.read path)
  | .readAndWrite _ => return .mk descriptor (.readAndWrite path)
  | .descriptorOf _ | .descriptor _ =>
      match path with
      | [.character '-' false] => return .mk descriptor (.descriptor none)
      | [.character digit false] =>
          if digit.isDigit then return .mk descriptor (.descriptor (some (Text.digitValue digit)))
          else return .mk descriptor (.descriptorOf path)
      | _ => return .mk descriptor (.descriptorOf path)
  | .document number =>
      let ending := path.filterMap fun
        | .character character _ => some character
        | _ => none
      modify fun reader =>
        { reader with
          awaited := reader.awaited.map fun awaited =>
            if awaited.number = number then { awaited with ending, isLiteral := reader.isQuoted }
            else awaited }
      return .mk descriptor (.document number)

/-- The operators of one or two characters by their first one, with the second one
that makes the longer operator. -/
def operatorOf? : Char → Option (String × Option Char)
  | '&' => some ("&", some '&')
  | '|' => some ("|", some '|')
  | ';' => some (";", some ';')
  | '(' => some ("(", none)
  | ')' => some (")", none)
  | _ => none

def skipComment : Nat → Reading Unit
  | 0 => return ()
  | count + 1 => do
      match ← take with
      | none => return ()
      | some '\n' => giveBack (some '\n')
      | some _ => skipComment count

def checkComplete (inDocument : Bool) (state : Partial) : Reading Unit := do
  if state.level.manner = .arithmetic then refuse "Missing '))'"
  if state.level.manner ≠ .bare && !inDocument then refuse "Unterminated quoted string"
  if state.level.braces ≠ 0 then refuse "Missing '\x7d'"

mutual

/-- Read on in a word, from a character on.  The result tells which character is the
first that does not belong to it. -/
def wordFrom (document : Option Awaited) : Nat → Option Char → Partial →
    Reading (Partial × Option Char)
  | 0, character, state => return (state, character)
  | _, none, state => return (state, none)
  | steps + 1, some '\n', state => do
      if state.level.manner = .bare && state.level.braces = 0 then return (state, some '\n')
      countLine
      let next ← if state.level.manner = .single then take else takeOn
      let next ← match document with
        | some awaited => lineOfDocument awaited next
        | none => pure next
      wordFrom document steps next (state.put '\n')
  | steps + 1, some character, state => do
      match ← wordStep document.isSome steps character state with
      | none => return (state, some character)
      | some state =>
          let next ← if state.level.manner = .single then take else takeOn
          wordFrom document steps next state

/-- Take one character into a word; none when the word ends in front of it. -/
def wordStep (inDocument : Bool) : Nat → Char → Partial → Reading (Option Partial)
  | 0, _, _ => return none
  | steps + 1, character, state => do
      let level := state.level
      match level.manner, character with
      | .single, '\'' => return some (state.closeQuote inDocument '\'')
      | .single, _ => return some (state.put character)
      | _, '\\' => return some (← escaped inDocument state)
      | _, '$' => return some (← dollar steps state)
      | _, '\x60' =>
          if (← get).isEnding then return some (state.put character)
          let text ← backquoted level.protects manySteps []
          return some (state.add (.output (← inner steps text)))
      | _, '\x7d' => return some state.closeBrace
      | .double, '"' => return some (state.closeQuote inDocument '"')
      | .bare, '\'' =>
          let state := { state with level := { level with manner := .single, protects := true } }
          return some (state.addMark inDocument)
      | .bare, '"' =>
          let state := { state with level := { level with manner := .double, protects := true } }
          return some (state.turn.addMark inDocument)
      | .arithmetic, '(' =>
          return some ({ state with
            level := { level with parentheses := level.parentheses + 1 } }.put '(')
      | .arithmetic, ')' =>
          if 0 < level.parentheses then
            return some ({ state with
              level := { level with parentheses := level.parentheses - 1 } }.put ')')
          match ← takeOn with
          | some ')' => return some state.pop.closePiece
          | other =>
              giveBack other
              return some (state.put ')')
      | .bare, _ =>
          if "<>();&| \t".toList.contains character && level.braces = 0 then return none
          return some (state.put character)
      | _, _ => return some (state.put character)

def dollar : Nat → Partial → Reading Partial
  | 0, state => return state
  | steps + 1, state => do
      let next ← takeOn
      let literal : Reading Partial := do
        giveBack next
        return state.put '$'
      if (← get).isEnding then return ← literal
      match next with
      | some '(' =>
          match ← takeOn with
          | some '(' =>
              return (state.openPiece none).push { manner := .arithmetic, protects := true }
          | other =>
              giveBack other
              let awaited := (← get).awaited
              modify fun reader => { reader with awaited := [] }
              let body ← list steps true false
              if (← nextToken steps) ≠ .operator ")" then refuseToken (some (.operator ")"))
              modify fun reader => { reader with awaited := awaited ++ reader.awaited }
              return state.add (.output body)
      | some '\x7b' => braced state
      | some first =>
          if beginsName first then
            let (name, behind) ← nameFrom continuesName manySteps [first]
            giveBack behind
            return state.add (.value (String.ofList name) .plain false [])
          else if isSpecialParameter first then
            return state.add (.value first.toString .plain false [])
          else literal
      | none => literal

def inner : Nat → List Char → Reading Command
  | 0, _ => return .nothing
  | steps + 1, text => do
      let before ← get
      set { before with
        inserted := [], text, line := 1, isPushedBack := false, awaited := [], token := .newline }
      let body ← list steps true false
      let after ← get
      set { before with
        documents := after.documents
        nextDocument := after.nextDocument
        isPushedBack := false }
      return body

def readDocuments : Nat → Reading Unit
  | 0 => return ()
  | steps + 1 => do
      match (← get).awaited with
      | [] => return ()
      | awaited :: others =>
          modify fun reader => { reader with awaited := others }
          let isEnding := (← get).isEnding
          modify fun reader => { reader with isEnding := false }
          let first ← if awaited.isLiteral then take else takeOn
          let first ← lineOfDocument awaited first
          let manner : Manner := if awaited.isLiteral then .single else .double
          let (state, _) ← wordFrom (some awaited) steps first
            { level := { manner, protects := true } }
          checkComplete true state
          modify fun reader =>
            { reader with
              documents := (awaited.number, state.pieces.reverse) :: reader.documents
              isEnding }
          readDocuments steps

def wordToken : Nat → Option Char → Reading Token
  | 0, _ => return .endOfFile
  | steps + 1, first => do
      let (state, next) ← wordFrom none steps first { level := { manner := .bare, protects := false } }
      checkComplete false state
      let isSign := next = some '<' || next = some '>'
      let descriptor? : Option (Option Nat) := match state.pieces with
        | [] => some none
        | [.character digit false] =>
            if digit.isDigit then some (some (Text.digitValue digit)) else none
        | _ => none
      match isSign && !state.isQuoted, descriptor? with
      | true, some descriptor =>
          beginRedirection descriptor (next.getD '>')
          modify fun reader => { reader with token := .redirection }
          return .redirection
      | _, _ =>
          giveBack next
          modify fun reader =>
            { reader with
              token := .word, word := state.pieces.reverse, isQuoted := state.isQuoted }
          return .word

def plainToken : Nat → Reading Token
  | 0 => return .endOfFile
  | steps + 1 => do
      let found (token : Token) : Reading Token := do
        modify fun reader => { reader with token }
        return token
      if (← get).isPushedBack then
        modify fun reader => { reader with isPushedBack := false }
        return (← get).token
      match ← takeOn with
      | none => found .endOfFile
      | some ' ' | some '\t' => plainToken steps
      | some '#' =>
          skipComment manySteps
          plainToken steps
      | some '\n' =>
          countLine
          found .newline
      | some character =>
          match operatorOf? character with
          | some (symbol, none) => found (.operator symbol)
          | some (symbol, some second) =>
              match ← takeOn with
              | some next =>
                  if next = second then found (.operator (symbol ++ symbol))
                  else
                    giveBack (some next)
                    found (.operator symbol)
              | none => found (.operator symbol)
          | none => wordToken steps (some character)

def skipLineEnds : Nat → Token → Reading Token
  | 0, token => return token
  | steps + 1, token => do
      if token = .newline then
        readDocuments steps
        skipLineEnds steps (← plainToken steps)
      else return token

def nextToken : Nat → Reading Token
  | 0 => return .endOfFile
  | steps + 1 => do
      let { skipsLines, reserves, expands, .. } ← get
      tokenWith skipsLines reserves expands steps

/-- Read the next token; an abbreviation is replaced, as often as that is possible. -/
def tokenWith (skipsLines reserves expands : Bool) : Nat → Reading Token
  | 0 => return .endOfFile
  | steps + 1 => do
      let token ← plainToken steps
      let token ← if skipsLines then skipLineEnds steps token else pure token
      let reader ← get
      let reserves := reserves || reader.reserves
      let expands := expands || reader.expands
      expect false false false
      if token ≠ .word || reader.isQuoted then return token
      match reader.word.text? with
      | none => return token
      | some characters =>
          let text := String.ofList characters
          if reserves && reservedWords.contains text then
            modify fun reader => { reader with token := .reserved text }
            return .reserved text
          if expands && !reader.inserted.any fun inserted => inserted.abbreviation = text then
            match reader.abbreviations.lookup text with
            | some meaning =>
                if meaning ≠ "" then
                  let last := meaning.toList.getLast?
                  let inserted : Inserted :=
                    ⟨meaning.toList, text, last = some ' ' || last = some '\t'⟩
                  modify fun reader => { reader with inserted := inserted :: reader.inserted }
                return ← tokenWith skipsLines reserves expands steps
            | none => return token
          return token

/-- Read commands up to where a list of them ends.  Between reserved words line ends
are passed over; otherwise the list ends with its line.  With `mayEnd`, it may end
before any command. -/
def list : Nat → Bool → Bool → Reading Command
  | 0, _, _ => return .nothing
  | steps + 1, mayEnd, isLine => do
      return (← listFrom steps mayEnd isLine none).getD .nothing

/-- Read further commands behind those that were read.  The result is none at the end
of the file when nothing was read on a line. -/
def listFrom : Nat → Bool → Bool → Option Command → Reading (Option Command)
  | 0, _, _, before => return before
  | steps + 1, mayEnd, isLine, before => do
      expect (!isLine) true true
      let token ← nextToken steps
      if token = .newline then
        readDocuments steps
        return some (before.getD .nothing)
      if token = .endOfFile then
        readDocuments steps
        pushBack
        modify fun reader => { reader with token := .endOfFile }
        return if isLine then before else some (before.getD .nothing)
      pushBack
      if mayEnd && token.endsList then return some (before.getD .nothing)
      let found ← andOr steps
      let behind ← nextToken steps
      let found :=
        if behind = .operator "&" then
          match found with
          | .pipe commands _ => .pipe commands true
          | .redirected body redirections line => .background body redirections line
          | other => .background other [] 0
        else found
      let all := match before with
        | none => found
        | some earlier => .sequence earlier found
      let goOn := listFrom steps (!isLine) isLine (some all)
      match behind with
      | .endOfFile =>
          readDocuments steps
          pushBack
          modify fun reader => { reader with token := .endOfFile }
          return some all
      | .newline =>
          pushBack
          goOn
      | .operator ";" | .operator "&" => goOn
      | _ =>
          if isLine then refuseToken none
          pushBack
          return some all

def andOr : Nat → Reading Command
  | 0 => return .nothing
  | steps + 1 => do andOrBehind steps (← pipeline steps)

def andOrBehind : Nat → Command → Reading Command
  | 0, first => return first
  | steps + 1, first => do
      match ← nextToken steps with
      | .operator "&&" =>
          expect true true true
          let second ← pipeline steps
          andOrBehind steps (.both first second)
      | .operator "||" =>
          expect true true true
          let second ← pipeline steps
          andOrBehind steps (.either first second)
      | _ =>
          pushBack
          return first

def pipeline : Nat → Reading Command
  | 0 => return .nothing
  | steps + 1 => do
      let isNegated ← do
        if (← nextToken steps) = .reserved "!" then
          expect false true true
          pure true
        else
          pushBack
          pure false
      let first ← command steps
      let others ← pipedCommands steps
      let whole := if others = [] then first else .pipe (first :: others) false
      return if isNegated then .not whole else whole

def pipedCommands : Nat → Reading (List Command)
  | 0 => return []
  | steps + 1 => do
      if (← nextToken steps) = .operator "|" then
        expect true true true
        let next ← command steps
        return next :: (← pipedCommands steps)
      pushBack
      return []

/-- Read redirections for as long as there are some. -/
def redirections : Nat → Reading (List Redirection)
  | 0 => return []
  | steps + 1 => do
      if (← nextToken steps) = .redirection then
        let first ← redirectionBehind steps
        return first :: (← redirections steps)
      pushBack
      return []

def redirectionBehind : Nat → Reading Redirection
  | 0 => completeRedirection []
  | steps + 1 => do
      let pending := (← get).redirection
      if pending matches .mk _ (.document _) then
        modify fun reader => { reader with isEnding := true }
      if (← nextToken steps) ≠ .word then refuseToken none
      modify fun reader => { reader with redirection := pending }
      completeRedirection (← get).word

def command : Nat → Reading Command
  | 0 => return .nothing
  | steps + 1 => do
      let line := (← get).line
      let closed (closing : Token) (body : Command) : Reading Command := do
        if (← nextToken steps) ≠ closing then refuseToken (some closing)
        withRedirections steps line body
      match ← nextToken steps with
      | .reserved "if" => closed (.reserved "fi") (← choice steps)
      | .reserved "while" => closed (.reserved "done") (← loop steps false)
      | .reserved "until" => closed (.reserved "done") (← loop steps true)
      | .reserved "for" => closed (.reserved "done") (← each steps)
      | .reserved "case" =>
          let body ← select steps
          withRedirections steps line body
      | .operator "(" =>
          let body ← list steps false false
          if (← nextToken steps) ≠ .operator ")" then refuseToken (some (.operator ")"))
          expect false true true
          return .subshell body (← redirections steps) line
      | .reserved "\x7b" => closed (.reserved "\x7d") (← list steps false false)
      | .word | .redirection =>
          pushBack
          let line := (← get).line
          simple steps line true [] [] []
      | _ => refuseToken none

def withRedirections : Nat → Nat → Command → Reading Command
  | 0, _, body => return body
  | steps + 1, line, body => do
      expect false true true
      match ← redirections steps with
      | [] => return body
      | found => return .redirected body found line

/-- Read a simple command.  As long as no other word has come, words may be
assignments or abbreviations.  What has been read is given with the last first. -/
def simple : Nat → Nat → Bool → List Word → List Word → List Redirection → Reading Command
  | 0, line, _, assignments, words, found =>
      return .simple assignments.reverse words.reverse found.reverse line
  | steps + 1, line, isFirst, assignments, words, found => do
      expect false false isFirst
      match ← nextToken steps with
      | .word =>
          let word := (← get).word
          if isFirst && (assignedName? word.beginning).isSome then
            simple steps line isFirst (word :: assignments) words found
          else simple steps line false assignments (word :: words) found
      | .redirection =>
          let next ← redirectionBehind steps
          simple steps line isFirst assignments words (next :: found)
      | .operator "(" =>
          match assignments, words, found with
          | [], [name], [] =>
              if (← nextToken steps) ≠ .operator ")" then refuseToken (some (.operator ")"))
              let text := name.text?.map String.ofList
              let isSpecial := text.any fun text => specialCommands.contains text
              match text with
              | some text =>
                  if !isName text || isSpecial then refuse "Bad function name"
                  expect true true true
                  return .define text (← command steps)
              | none => refuse "Bad function name"
          | _, _, _ =>
              pushBack
              return .simple assignments.reverse words.reverse found.reverse line
      | _ =>
          pushBack
          return .simple assignments.reverse words.reverse found.reverse line

def choice : Nat → Reading Command
  | 0 => return .nothing
  | steps + 1 => do
      let condition ← list steps false false
      if (← nextToken steps) ≠ .reserved "then" then refuseToken (some (.reserved "then"))
      let yes ← list steps false false
      match ← nextToken steps with
      | .reserved "elif" => return .choice condition yes (some (← choice steps))
      | .reserved "else" => return .choice condition yes (some (← list steps false false))
      | _ =>
          pushBack
          return .choice condition yes none

def loop : Nat → Bool → Reading Command
  | 0, _ => return .nothing
  | steps + 1, untilHolds => do
      let condition ← list steps false false
      if (← nextToken steps) ≠ .reserved "do" then refuseToken (some (.reserved "do"))
      return .loop untilHolds condition (← list steps false false)

/-- Read words for as long as there are some. -/
def words : Nat → Reading (List Word)
  | 0 => return []
  | steps + 1 => do
      if (← nextToken steps) = .word then
        let first := (← get).word
        return first :: (← words steps)
      return []

/-- Read a loop over words, behind its first word and up to its last one. -/
def each : Nat → Reading Command
  | 0 => return .nothing
  | steps + 1 => do
      let token ← nextToken steps
      let reader ← get
      let name? := (reader.word.text?.map String.ofList).filter fun name =>
        token = .word && !reader.isQuoted && isName name
      let some name := name? | refuse "Bad for loop variable"
      let line := reader.line
      expect true true true
      let listed ← do
        if (← nextToken steps) = .reserved "in" then
          let found ← words steps
          let token := (← get).token
          if token ≠ .newline && token ≠ .operator ";" then refuseToken none
          if token = .newline then readDocuments steps
          pure found
        else
          if (← get).token ≠ .operator ";" then pushBack
          pure [[.mark, .value "@" .plain false [], .mark]]
      expect true true true
      if (← nextToken steps) ≠ .reserved "do" then refuseToken (some (.reserved "do"))
      return .each name listed (← list steps false false) line

def select : Nat → Reading Command
  | 0 => return .nothing
  | steps + 1 => do
      let line := (← get).line
      if (← nextToken steps) ≠ .word then refuseToken (some .word)
      let subject := (← get).word
      expect true true true
      if (← nextToken steps) ≠ .reserved "in" then refuseToken (some (.reserved "in"))
      expect true true false
      let _ ← nextToken steps
      return .select subject (← arms steps) line

def arms : Nat → Reading (List Arm)
  | 0 => return []
  | steps + 1 => do
      if (← get).token = .reserved "esac" then return []
      if (← get).token = .operator "(" then
        let _ ← nextToken steps
      let found ← patterns steps
      if (← get).token ≠ .operator ")" then refuseToken (some (.operator ")"))
      let body ← list steps true false
      expect true true false
      match ← nextToken steps with
      | .reserved "esac" => return [.mk found body]
      | .operator ";;" =>
          expect true true false
          let _ ← nextToken steps
          return .mk found body :: (← arms steps)
      | _ => refuseToken (some (.operator ";;"))

/-- Read the patterns of an arm, from the last token on.  The token behind them is the
last one then. -/
def patterns : Nat → Reading (List Word)
  | 0 => return []
  | steps + 1 => do
      let first := (← get).word
      if (← nextToken steps) = .operator "|" then
        let _ ← nextToken steps
        return first :: (← patterns steps)
      return [first]

end

/-- Read the commands up to the end of a line; none at the end of the file. -/
def commandLine : Reading (Option Command) := do
  modify fun reader => { reader with isPushedBack := false, awaited := [], token := .newline }
  listFrom manySteps false true none

def inQuotes : Reading Word := do
  let never : Awaited := ⟨0, ['\x00'], false, false⟩
  let (state, _) ← wordFrom (some never) manySteps (← takeOn)
    { level := { manner := .double, protects := true } }
  checkComplete true state
  return state.pieces.reverse

end Reading

end SnippetSandbox.Shell
