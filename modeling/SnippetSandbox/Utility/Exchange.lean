import SnippetSandbox.Shell.Pattern
import SnippetSandbox.Utility.Report

/-!
# Exchanging characters

The characters of one row are exchanged for those of another one, or taken out, and
repeated ones may be written once.  Rows are written with ranges, classes and repeats.
-/

namespace SnippetSandbox.Utility

open FileSystem Kernel

/-! ## Rows of characters -/

/-- A part of a row. -/
inductive RowPart
  | single (character : Char)
  | range (low high : Char)
  | named (name : String)
  | equivalent (character : Char)
  /-- A character so many times; none stands for as often as it takes. -/
  | repeated (character : Char) (count : Option Nat)
  deriving DecidableEq, Repr

/-- A character of a row; a protected one has no meaning of its own. -/
structure RowSign where
  character : Char
  isProtected : Bool := false
  deriving DecidableEq, Repr

def rowSigns : List Char → List RowSign × List String
  | [] => ([], [])
  | ['\\'] =>
      ([⟨'\\', false⟩], ["warning: an unescaped backslash at end of string is not portable"])
  | '\\' :: first :: rest =>
      let isOctal (character : Char) : Bool := '0' ≤ character && character ≤ '7'
      let value (digit : Char) : Nat := digit.toNat - 48
      let escaped (character : Char) : List RowSign × List String :=
        let (others, notes) := rowSigns rest
        (⟨character, true⟩ :: others, notes)
      match first with
      | 'a' => escaped '\x07'
      | 'b' => escaped '\x08'
      | 'f' => escaped '\x0c'
      | 'n' => escaped '\n'
      | 'r' => escaped '\r'
      | 't' => escaped '\t'
      | 'v' => escaped '\x0b'
      | _ =>
          if !isOctal first then escaped first
          else
            match rest with
            | second :: third :: others =>
                if isOctal second && isOctal third then
                  let code := value first * 64 + value second * 8 + value third
                  if code < 256 then
                    let (signs, notes) := rowSigns others
                    (⟨Char.ofNat code, true⟩ :: signs, notes)
                  else
                    let two := String.ofList [first, second]
                    let (signs, notes) := rowSigns (third :: others)
                    (⟨Char.ofNat (value first * 8 + value second), true⟩ :: signs,
                      ("warning: the ambiguous octal escape \\" ++ two ++ third.toString ++
                        " is being\n\tinterpreted as the 2-byte sequence \\0" ++ two ++ ", " ++
                        third.toString) :: notes)
                else if isOctal second then
                  let (signs, notes) := rowSigns (third :: others)
                  (⟨Char.ofNat (value first * 8 + value second), true⟩ :: signs, notes)
                else escaped (Char.ofNat (value first))
            | [second] =>
                if isOctal second then
                  ([⟨Char.ofNat (value first * 8 + value second), true⟩], [])
                else escaped (Char.ofNat (value first))
            | [] => escaped (Char.ofNat (value first))
  | character :: rest =>
      let (others, notes) := rowSigns rest
      (⟨character, false⟩ :: others, notes)

def RowSign.isMark (sign : RowSign) (character : Char) : Bool :=
  sign.character = character && !sign.isProtected

/-- What stands in front of a mark with a bracket behind it, and what follows. -/
def upToClosing (mark : Char) : List RowSign → Option (List Char × List RowSign)
  | first :: second :: rest =>
      if first.isMark mark && second.isMark ']' then some ([], rest)
      else (upToClosing mark (second :: rest)).map fun (inner, behind) =>
        (first.character :: inner, behind)
  | _ => none

def isRepeatEnd : List RowSign → Bool
  | first :: rest =>
      first.isMark '*' &&
        ((rest.dropWhile fun sign => sign.character.isDigit && !sign.isProtected).head?).any
          fun sign => sign.isMark ']'
  | [] => false

/-- A repeat behind its opening bracket, and what follows it; none if there is none. -/
def readRepeat (signs : List RowSign) : Except String (Option (RowPart × List RowSign)) :=
  match signs with
  | character :: star :: rest =>
      let inner := rest.takeWhile fun sign => !sign.isProtected && sign.character ≠ ']'
      match star.isMark '*', rest.drop inner.length with
      | true, closing :: behind =>
          if !closing.isMark ']' then .ok none
          else
            let text := inner.map RowSign.character
            let isOctal := text.head? = some '0'
            let isRight := text.all fun digit =>
              '0' ≤ digit && digit ≤ (if isOctal then '7' else '9')
            if text = [] then .ok (some (.repeated character.character none, behind))
            else if !isRight then
              .error ("invalid repeat count " ++ quoteText (String.ofList text) ++
                " in [c*n] construct")
            else
              let count := text.foldl
                (fun count digit => count * (if isOctal then 8 else 10) + (digit.toNat - 48)) 0
              .ok (some (.repeated character.character (if count = 0 then none else some count),
                behind))
      | _, _ => .ok none
  | _ => .ok none

def shownCharacter (character : Char) : String :=
  if isShown character then character.toString
  else
    let digits := Nat.toDigits 8 character.toNat
    "\\" ++ String.ofList (List.replicate (3 - digits.length) '0' ++ digits)

/-- The part of a row behind its opening bracket, and what follows; none if the bracket
opens nothing. -/
def readBracket (signs : List RowSign) : Except String (Option (RowPart × List RowSign)) :=
  let closed (mark : Char) (rest : List RowSign) : Option (List Char × List RowSign) :=
    upToClosing mark rest
  match signs with
  | first :: rest =>
      if first.isMark ':' || first.isMark '=' then
        match closed first.character rest with
        | none => readRepeat signs
        | some ([], _) =>
            .error (if first.character = ':' then "missing character class name '[::]'"
              else "missing equivalence class character '[==]'")
        | some (inner, behind) =>
            let name := String.ofList inner
            if first.character = ':' then
              if (Shell.characterClasses.lookup name).isSome then
                .ok (some (.named name, behind))
              else if isRepeatEnd rest then readRepeat signs
              else .error ("invalid character class " ++ quoteText name)
            else
              match inner with
              | [character] => .ok (some (.equivalent character, behind))
              | _ =>
                  if isRepeatEnd rest then readRepeat signs
                  else .error (name ++ ": equivalence class operand must be a single character")
      else readRepeat signs
  | [] => .ok none

/-- The parts of a row.  `count` bounds the number of steps. -/
def readRow : Nat → List RowSign → Except String (List RowPart)
  | 0, _ | _, [] => .ok []
  | count + 1, first :: rest => do
      let plain (_ : Unit) : Except String (List RowPart) :=
        match rest with
        | dash :: high :: behind =>
            if !dash.isMark '-' then
              return .single first.character :: (← readRow count rest)
            else if high.character < first.character then
              throw ("range-endpoints of '" ++ shownCharacter first.character ++ "-" ++
                shownCharacter high.character ++ "' are in reverse collating sequence order")
            else return .range first.character high.character :: (← readRow count behind)
        | _ => return .single first.character :: (← readRow count rest)
      if first.isMark '[' && 2 ≤ rest.length then
        match ← readBracket rest with
        | some (part, behind) => return part :: (← readRow count behind)
        | none => plain ()
      else plain ()

/-! ## What rows stand for -/

def allCharacters : List Char := (List.range 256).map Char.ofNat

def classCharacters (name : String) : List Char :=
  match Shell.characterClasses.lookup name with
  | some test => allCharacters.filter test
  | none => []

/-- The characters of a part; of one that is repeated as often as it takes, none. -/
def RowPart.characters : RowPart → List Char
  | .single character => [character]
  | .range low high =>
      (List.range (high.toNat + 1 - low.toNat)).map fun offset => Char.ofNat (low.toNat + offset)
  | .named name => classCharacters name
  | .equivalent character => [character]
  | .repeated character count => List.replicate (count.getD 0) character

def RowPart.isEndless : RowPart → Bool
  | .repeated _ none => true
  | _ => false

def RowPart.isCase : RowPart → Bool
  | .named name => name = "upper" || name = "lower"
  | _ => false

/-- A character of a row, or a class of letters in one case as a whole. -/
inductive RowItem
  | single (character : Char)
  | case (isUpper : Bool)
  deriving DecidableEq, Repr

def rowItems (parts : List RowPart) : List RowItem :=
  parts.flatMap fun part => match part with
    | .named "upper" => [.case true]
    | .named "lower" => [.case false]
    | part => part.characters.map .single

/-- How many characters an item stands for. -/
def RowItem.size : RowItem → Nat
  | .single _ => 1
  | .case _ => 26

def RowItem.characters : RowItem → List Char
  | .single character => [character]
  | .case isUpper => classCharacters (if isUpper then "upper" else "lower")

/-- The pairs that two rows make, item by item.  A class of one case in the second row
needs one in the first.  `count` bounds the number of steps. -/
def pairItems : Nat → List RowItem → List RowItem → Except String (List (Char × Char))
  | 0, _, _ | _, [], _ | _, _, [] => .ok []
  | count + 1, .case fromUpper :: sources, .case toUpper :: targets => do
      let pairs :=
        if fromUpper = toUpper then []
        else (RowItem.case fromUpper).characters.zip (RowItem.case toUpper).characters
      return pairs ++ (← pairItems count sources targets)
  | _, .single _ :: _, .case _ :: _ =>
      .error "misaligned [:upper:] and/or [:lower:] construct"
  | count + 1, .case isUpper :: sources, targets =>
      let letters := (RowItem.case isUpper).characters.map RowItem.single
      match letters with
      | [] => pairItems count sources targets
      | _ => pairItems count (letters ++ sources) targets
  | count + 1, .single source :: sources, .single target :: targets => do
      return (source, target) :: (← pairItems count sources targets)

/-- What is asked for. -/
structure Exchange where
  takesOthers : Bool := false
  deletes : Bool := false
  squeezes : Bool := false
  truncates : Bool := false
  first : List RowPart
  second : Option (List RowPart) := none

namespace Exchange

def chosen (exchange : Exchange) : List Char :=
  let named := exchange.first.flatMap RowPart.characters
  if exchange.takesOthers then allCharacters.filter fun character => !named.contains character
  else named

def filledSecond (exchange : Exchange) (parts : List RowPart) : List RowPart :=
  let given := (parts.map fun part => part.characters.length).sum
  parts.map fun part => match part with
    | .repeated character none => .repeated character (some (exchange.chosen.length - given))
    | part => part

/-- Does the row consist of one character only? -/
def isUniform (characters : List Char) : Bool :=
  match characters with
  | [] => true
  | first :: others => others.all (· = first)

def pairs (exchange : Exchange) (second : List RowPart) : Except String (List (Char × Char)) := do
  let restricted (part : RowPart) : Bool := match part with
    | .named _ => !part.isCase
    | _ => false
  let isEquivalent (part : RowPart) : Bool := match part with
    | .equivalent _ => true
    | _ => false
  if second.any isEquivalent then
    throw "[=c=] expressions may not appear in string2 when translating"
  if second.any restricted then
    throw ("when translating, the only character classes that may appear in\n" ++
      "string2 are 'upper' and 'lower'")
  let parts := exchange.filledSecond second
  let sources := if exchange.takesOthers then exchange.chosen.map RowItem.single
    else rowItems exchange.first
  let targets := if exchange.takesOthers then
      (parts.flatMap RowPart.characters).map RowItem.single
    else rowItems parts
  let steps := exchange.chosen.length + targets.length + 1000
  let _ ← pairItems steps sources targets
  -- Classes that stand against each other count as one character.
  let size (items others : List RowItem) : Nat :=
    let isMatched := others.any fun item => match item with
      | .case _ => true
      | _ => false
    (items.map fun item => if isMatched then 1 else item.size).sum
  let sourceSize := size sources targets
  let targetSize := size targets targets
  let targets ←
    if targetSize < sourceSize && !exchange.truncates then
      match parts.getLast? with
      | none => throw "when not truncating set1, string2 must be non-empty"
      | some (.named _) =>
          throw ("when translating with string1 longer than string2,\n" ++
            "the latter string must not end with a character class")
      | some part =>
          match part.characters.getLast?, part with
          | some last, _ | none, .repeated last _ =>
              pure (targets ++ List.replicate (sourceSize - targetSize) (.single last))
          | none, _ => pure targets
    else pure targets
  let hasClass := exchange.first.any fun part => match part with
    | .named _ => true
    | _ => false
  let shown := targets.flatMap RowItem.characters
  if exchange.takesOthers && hasClass && !(isUniform shown && shown.length = exchange.chosen.length) then
    throw ("when translating with complemented character classes,\n" ++
      "string2 must map all characters in the domain to one")
  pairItems steps sources targets

/-- What becomes of characters: the change of one, which may take it out, and whether
repeated ones are written once. -/
def rule (exchange : Exchange) :
    Except String ((Char → Option Char) × (Char → Bool)) := do
  let isEndless (parts : List RowPart) : Nat := (parts.filter RowPart.isEndless).length
  if isEndless exchange.first ≠ 0 then
    throw "the [c*] repeat construct may not appear in string1"
  let table (characters : List Char) : Array Bool :=
    characters.foldl (fun table character => table.set! character.toNat true)
      (Array.replicate 256 false)
  let isIn (characters : List Char) : Char → Bool :=
    let table := table characters
    fun character => table.getD character.toNat false
  match exchange.second with
  | none =>
      let chosen := isIn exchange.chosen
      if exchange.deletes then
        return (fun character => if chosen character then none else some character, fun _ => false)
      else return (some, chosen)
  | some second =>
      if 1 < isEndless second then
        throw "only one [c*] repeat construct may appear in string2"
      if exchange.deletes then
        if isEndless second ≠ 0 then
          throw "the [c*] construct may appear in string2 only when translating"
        let chosen := isIn exchange.chosen
        return (fun character => if chosen character then none else some character,
          isIn (second.flatMap RowPart.characters))
      else
        let pairs ← exchange.pairs second
        let changed := pairs.foldl
          (fun table (source, target) => table.set! source.toNat target)
          (allCharacters.toArray)
        let squeezed := isIn ((exchange.filledSecond second).flatMap RowPart.characters)
        return (fun character => some (changed.getD character.toNat character),
          fun character => exchange.squeezes && squeezed character)

end Exchange

/-- A text after its characters have been exchanged, the last character first, with the
last one that was written before. -/
def exchanged (change : Char → Option Char) (squeezes : Char → Bool) :
    List Char → Option Char → List Char → List Char × Option Char
  | [], last, written => (written, last)
  | character :: rest, last, written =>
      match change character with
      | none => exchanged change squeezes rest last written
      | some shown =>
          if squeezes shown && last = some shown then
            exchanged change squeezes rest last written
          else exchanged change squeezes rest (some shown) (shown :: written)

/-- How much output is held back before it is written. -/
def heldBack : Nat := 4096

def exchangeInput (program : String) (change : Char → Option Char) (squeezes : Char → Bool) :
    Nat → Option Char → Report → Program Nat
  | 0, _, report => report.finish program 1
  | rounds + 1, last, report => do
      match ← Program.read 0 blockSize with
      | .error cause =>
          complain program ("read error: " ++ describeCause cause)
          (report.failed 1).finish program 1
      | .ok bytes =>
          if bytes.isEmpty then return ← report.finish program 1
          let (written, last) := exchanged change squeezes (Raw.ofBytes bytes.toList) last []
          let report := report.add (String.ofList written.reverse)
          if report.output.length < heldBack then
            exchangeInput program change squeezes rounds last report
          else
            match ← writeOut report.output with
            | none => exchangeInput program change squeezes rounds last {}
            | some cause =>
                complainUnwritten program cause
                return 1

def exchangeForms : List OptionForm :=
  [{ letter := 'c', word := "complement" }, { letter := 'C' }, { letter := 'd', word := "delete" },
    { letter := 's', word := "squeeze-repeats" }, { letter := 't', word := "truncate-set1" }]

def exchangeCharacters (program : String) (arguments : List String) : Program Nat :=
  withLeadingOptions program 1 exchangeForms arguments fun taken => do
    let deletes := taken.has 'd'
    let squeezes := taken.has 's'
    let least := if deletes = squeezes then 2 else 1
    let most := if squeezes || !deletes then 2 else 1
    let operands := taken.operands
    if operands.length < least then
      match operands.getLast? with
      | none => complain program "missing operand"
      | some last =>
          complain program ("missing operand after " ++ quoteText last)
          let _ ← Program.writeText 2
            (if squeezes then
              "Two strings must be given when both deleting and squeezing repeats.\n"
            else "Two strings must be given when translating.\n")
      return ← pointToHelp program 1
    if let some extra := operands[most]? then
      complain program ("extra operand " ++ quoteText extra)
      if operands.length = 2 then
        let _ ← Program.writeText 2
          "Only one string may be given when deleting without squeezing repeats.\n"
      return ← pointToHelp program 1
    let rows := operands.map fun operand => rowSigns operand.toList
    for (_, notes) in rows do
      for note in notes do complain program note
    let read (signs : List RowSign) : Except String (List RowPart) :=
      readRow (signs.length + 1) signs
    let rule : Except String ((Char → Option Char) × (Char → Bool)) := do
      let parts ← rows.mapM fun (signs, _) => read signs
      let exchange : Exchange :=
        { takesOthers := taken.has 'c' || taken.has 'C', deletes, squeezes
          truncates := taken.has 't'
          first := parts.headD []
          second := parts[1]? }
      exchange.rule
    match rule with
    | .error problem =>
        complain program problem
        return 1
    | .ok (change, isSqueezed) =>
        exchangeInput program change isSqueezed Program.manyRounds none {}

end SnippetSandbox.Utility
