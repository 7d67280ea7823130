import SnippetSandbox.Decimal.Rounding
import SnippetSandbox.Shell.Number
import SnippetSandbox.Utility.Listing
import SnippetSandbox.Utility.Version

/-!
# Sorting lines

Lines are put into the order of their keys, which are parts of them.  Keys are compared
as texts, as numbers, as names of months or as versions.
-/

namespace SnippetSandbox.Utility

open FileSystem Kernel

/-! ## Comparing texts -/

def isFieldBlank (character : Char) : Bool :=
  character = ' ' || character = '\t' || character = '\n'

/-- A number at the beginning of a text: its sign, and the digits in front of the point
and behind it. -/
structure PlainNumber where
  isNegative : Bool
  whole : List Char
  part : List Char
  rest : List Char

def readPlain (text : List Char) : PlainNumber :=
  let text := text.dropWhile isFieldBlank
  let (isNegative, text) := match text with
    | '-' :: rest => (true, rest)
    | text => (false, text)
  let whole := text.takeWhile Char.isDigit
  match text.drop whole.length with
  | '.' :: behind =>
      let part := behind.takeWhile Char.isDigit
      ⟨isNegative, whole, part, behind.drop part.length⟩
  | rest => ⟨isNegative, whole, [], rest⟩

def PlainNumber.value (number : PlainNumber) (places : Nat) : Int :=
  let digits := number.whole ++ number.part ++
    List.replicate (places - number.part.length) '0'
  let magnitude : Int := Text.number digits
  if number.isNegative then -magnitude else magnitude

def compareNumbers (first second : List Char) : Ordering :=
  let first := readPlain first
  let second := readPlain second
  let places := max first.part.length second.part.length
  compare (first.value places) (second.value places)

def unitOrder (text : List Char) : Int :=
  let number := readPlain text
  let isZero := (number.whole ++ number.part).all (· = '0')
  let letter := number.rest.head?
  let order : Nat := match letter with
    | some 'k' => 1
    | some letter => (("KMGTPEZYRQ".toList.findIdx? (· = letter)).map (· + 1)).getD 0
    | none => 0
  if isZero then 0 else if number.isNegative then -order else order

def compareReadable (first second : List Char) : Ordering :=
  (compare (unitOrder first) (unitOrder second)).then (compareNumbers first second)

/-- The number of the month whose name a text begins with; zero for none. -/
def monthOf (text : List Char) : Nat :=
  let start := (text.dropWhile isFieldBlank).take 3
  let name := String.ofList (start.map Char.toUpper)
  ((Listing.months.findIdx? fun month => month.toUpper = name).map (· + 1)).getD 0

/-- A rank of a floating-point number at the beginning of a text, with the number as a
quotient. -/
def generalRank (text : List Char) : Nat × Int × Nat :=
  let characters := text.dropWhile Shell.isSpace
  let (sign, written) := Shell.takeSign characters
  match Decimal.Double.read? (sign < 0) written with
  | none => (0, 0, 1)
  | some (value, _, _) =>
      match value with
      | .undefined _ => (1, 0, 1)
      | .infinite true => (2, 0, 1)
      | .infinite false => (4, 0, 1)
      | .finite binary =>
          let (numerator, denominator) := binary.quotient
          (3, if binary.negative then -(numerator : Int) else numerator, denominator)

/-- The order of floating-point numbers; what is none comes first. -/
def compareGeneral (first second : List Char) : Ordering :=
  let (firstRank, firstTop, firstBottom) := generalRank first
  let (secondRank, secondTop, secondBottom) := generalRank second
  (compare firstRank secondRank).then
    (compare (firstTop * secondBottom) (secondTop * firstBottom))

/-! ## Keys -/

/-- How a key is compared. -/
structure KeyOrder where
  kinds : List Char := []
  skipsStart : Bool := false
  skipsEnd : Bool := false
  folds : Bool := false
  /-- Only letters, digits and blanks count, or only what can be shown. -/
  ignores : Option Char := none
  isReversed : Bool := false

def KeyOrder.isUsual (order : KeyOrder) : Bool :=
  order.kinds = [] && !order.skipsStart && !order.skipsEnd && !order.folds &&
    order.ignores.isNone && !order.isReversed

/-- A key: from a character of a field on, both counted from zero, to another one. -/
structure Key where
  field : Nat := 0
  character : Nat := 0
  /-- The last field, if the key ends in front of the end of the line. -/
  last : Option Nat := none
  /-- The characters of the last field that belong to the key; zero for all of it. -/
  lastCharacter : Nat := 0
  order : KeyOrder := {}

def KeyOrder.with' (start finish : Bool) (letter : Char) (order : KeyOrder) : Option KeyOrder :=
  match letter with
  | 'b' => some { order with
      skipsStart := order.skipsStart || start, skipsEnd := order.skipsEnd || finish }
  | 'd' => some { order with ignores := some 'd' }
  | 'f' => some { order with folds := true }
  | 'i' => some { order with ignores := order.ignores.or (some 'i') }
  | 'r' => some { order with isReversed := true }
  | 'g' | 'h' | 'M' | 'n' | 'R' | 'V' => some { order with kinds := letter :: order.kinds }
  | _ => none

def KeyOrder.conflict? (order : KeyOrder) : Option String :=
  let isTextLike := order.kinds.any fun letter => letter = 'R' || letter = 'V'
  let numbers := "ghMn".toList.filter order.kinds.contains
  let count := numbers.length + if isTextLike || order.ignores.isSome then 1 else 0
  if count ≤ 1 then none
  else
    let letters := "dfghiMnRV".toList.filter fun letter =>
      order.kinds.contains letter || order.ignores = some letter || (letter = 'f' && order.folds)
    some (String.ofList letters)

def fromField (separator : Option Char) : Nat → List Char → List Char
  | 0, line => line
  | fields + 1, line =>
      match separator with
      | some mark => fromField separator fields ((line.dropWhile (· ≠ mark)).drop 1)
      | none =>
          fromField separator fields
            ((line.dropWhile isFieldBlank).dropWhile fun letter => !isFieldBlank letter)

/-- The part of a line from its last field for a key on, to the end of which the key
reaches. -/
def behindKey (separator : Option Char) (key : Key) (last : Nat) (line : List Char) :
    List Char :=
  if key.lastCharacter = 0 then
    match separator with
    | some mark =>
        let start := fromField separator last line
        start.dropWhile (· ≠ mark)
    | none => fromField none (last + 1) line
  else
    let start := fromField separator last line
    let start := if key.order.skipsEnd then start.dropWhile isFieldBlank else start
    start.drop key.lastCharacter

def Key.part (separator : Option Char) (key : Key) (line : List Char) : List Char :=
  let start := fromField separator key.field line
  let start := if key.order.skipsStart then start.dropWhile isFieldBlank else start
  let start := start.drop key.character
  match key.last with
  | none => start
  | some last => start.take (start.length - (behindKey separator key last line).length)

def KeyOrder.plain (order : KeyOrder) (part : List Char) : List Char :=
  let counts (letter : Char) : Bool := match order.ignores with
    | none => true
    | some 'd' => isFieldBlank letter || letter.isAlphanum
    | some _ => isShown letter
  (part.filter counts).map fun letter => if order.folds then letter.toUpper else letter

def KeyOrder.compare (order : KeyOrder) (first second : List Char) : Ordering :=
  let result :=
    if order.kinds.contains 'n' then compareNumbers first second
    else if order.kinds.contains 'g' then compareGeneral first second
    else if order.kinds.contains 'h' then compareReadable first second
    else if order.kinds.contains 'M' then Ord.compare (monthOf first) (monthOf second)
    else if order.kinds.contains 'V' then
      compareNames (order.plain first) (order.plain second)
    else compareTexts (order.plain first) (order.plain second)
  if order.isReversed then result.swap else result

/-! ## What is asked for -/

/-- How lines are sorted. -/
structure Sorting where
  program : String
  order : KeyOrder := {}
  keys : List Key := []
  separator : Option Char := none
  isUnique : Bool := false
  isStable : Bool := false
  endsInNul : Bool := false

def Sorting.compare (sorting : Sorting) (first second : List Char) : Ordering :=
  let byKeys :=
    if sorting.keys = [] then
      if sorting.order.isUsual then .eq
      else
        let whole : Key := { order := sorting.order }
        sorting.order.compare (whole.part none first) (whole.part none second)
    else
      sorting.keys.foldl
        (fun result key =>
          if result ≠ .eq then result
          else
            key.order.compare (key.part sorting.separator first)
              (key.part sorting.separator second))
        .eq
  let isWhole := sorting.keys = [] && sorting.order.isUsual
  if byKeys ≠ .eq then byKeys
  else if (sorting.isUnique || sorting.isStable) && !isWhole then .eq
  else
    let plain := compareTexts first second
    if sorting.order.isReversed then plain.swap else plain

def countAt (text : List Char) : Option (Nat × List Char) :=
  let digits := text.takeWhile Char.isDigit
  if digits = [] then none else some (Text.number digits, text.drop digits.length)

def takeOrder (start finish : Bool) : List Char → KeyOrder → KeyOrder × List Char
  | [], order => (order, [])
  | letter :: rest, order =>
      match order.with' start finish letter with
      | some changed => takeOrder start finish rest changed
      | none => (order, letter :: rest)

def readKey (text : String) : Except String Key := do
  let bad (problem : String) : String :=
    problem ++ ": invalid field specification " ++ quoteText text
  let count (problem : String) (at' : List Char) : Except String (Nat × List Char) :=
    match countAt at' with
    | some found => .ok found
    | none => .error (problem ++ ": invalid count at start of " ++ quoteText (String.ofList at'))
  let (field, rest) ← count "invalid number at field start" text.toList
  if field = 0 then throw (bad "field number is zero")
  let (character, rest) ← match rest with
    | '.' :: behind => do
        let (character, rest) ← count "invalid number after '.'" behind
        if character = 0 then throw (bad "character offset is zero")
        pure (character - 1, rest)
    | rest => pure (0, rest)
  let (order, rest) := takeOrder true false rest {}
  match rest with
  | [] => return { field := field - 1, character, order }
  | ',' :: behind =>
      let (last, rest) ← count "invalid number after ','" behind
      if last = 0 then throw (bad "field number is zero")
      let (lastCharacter, rest) ← match rest with
        | '.' :: behind => count "invalid number after '.'" behind
        | rest => pure (0, rest)
      let (order, rest) := takeOrder false true rest order
      if rest ≠ [] then throw (bad "stray character in field spec")
      return { field := field - 1, character, last := some (last - 1), lastCharacter, order }
  | _ => throw (bad "stray character in field spec")

def readSeparator (text : String) : Except String Char :=
  match text.toList with
  | [] => .error "empty tab"
  | [mark] => .ok mark
  | ['\\', '0'] => .ok '\x00'
  | _ => .error ("multi-character tab " ++ quoteText text)

def orderWords : List (String × Char) :=
  [("general-numeric", 'g'), ("human-numeric", 'h'), ("month", 'M'), ("numeric", 'n'),
    ("random", 'R'), ("version", 'V')]

def sortForms : List OptionForm :=
  [{ letter := 'b', word := "ignore-leading-blanks" }, { letter := 'c' }, { letter := 'C' },
    { letter := '\x01', word := "check", taking := .optional },
    { letter := 'd', word := "dictionary-order" }, { letter := 'f', word := "ignore-case" },
    { letter := 'g', word := "general-numeric-sort" },
    { letter := 'h', word := "human-numeric-sort" },
    { letter := 'i', word := "ignore-nonprinting" },
    { letter := 'k', word := "key", taking := .required }, { letter := 'm', word := "merge" },
    { letter := 'M', word := "month-sort" }, { letter := 'n', word := "numeric-sort" },
    { letter := 'o', word := "output", taking := .required },
    { letter := 'r', word := "reverse" }, { letter := 'R', word := "random-sort" },
    { letter := 's', word := "stable" },
    { letter := 'S', word := "buffer-size", taking := .required },
    { letter := 't', word := "field-separator", taking := .required },
    { letter := 'T', word := "temporary-directory", taking := .required },
    { letter := 'u', word := "unique" }, { letter := 'V', word := "version-sort" },
    { letter := 'z', word := "zero-terminated" },
    { letter := '\x02', word := "sort", taking := .required },
    { letter := '\x03', word := "parallel", taking := .required },
    { letter := '\x04', word := "batch-size", taking := .required },
    { letter := '\x05', word := "debug" }]

def sortingFrom (program : String) (taken : TakenApart) : Except String Sorting := do
  let mut sorting : Sorting :=
    { program, isUnique := taken.has 'u', isStable := taken.has 's', endsInNul := taken.has 'z' }
  for option in taken.options do
    let argument := option.argument.getD ""
    if let some order := sorting.order.with' true true option.letter then
      sorting := { sorting with order }
    if option.letter = '\x02' then
      if let some letter := orderWords.lookup argument then
        let order := { sorting.order with kinds := letter :: sorting.order.kinds }
        sorting := { sorting with order }
    if option.letter = 't' then
      let mark ← readSeparator argument
      if sorting.separator.any (· ≠ mark) then throw "incompatible tabs"
      sorting := { sorting with separator := some mark }
    if option.letter = 'k' then
      let key ← readKey argument
      sorting := { sorting with keys := sorting.keys ++ [key] }
  let order := sorting.order
  let keys := sorting.keys.map fun key =>
    if key.order.isUsual then { key with order } else key
  for key in if keys = [] then [{ order }] else keys do
    if let some letters := key.order.conflict? then
      throw ("options '-" ++ letters ++ "' are incompatible")
  return { sorting with keys }

/-! ## Lines -/

def plainLines (ending : Char) (text : List Char) : List (List Char) :=
  let parts := Text.splitOn ending text
  if parts.getLast? = some [] then parts.dropLast else parts

def Sorting.distinct (sorting : Sorting) : List (List Char) → List (List Char)
  | first :: second :: rest =>
      match sorting.distinct (second :: rest) with
      | kept :: others =>
          if sorting.compare first kept = .eq then first :: others else first :: kept :: others
      | [] => [first]
  | lines => lines

/-- The number of the first line that does not stand behind the one before, and the
line. -/
def Sorting.disorder? (sorting : Sorting) : Nat → List (List Char) → Option (Nat × List Char)
  | number, first :: second :: rest =>
      let order := sorting.compare first second
      if order = .gt || (sorting.isUnique && order = .eq) then some (number + 1, second)
      else sorting.disorder? (number + 1) (second :: rest)
  | _, _ => none

/-- The lines of files of which each is in order already.  `count` bounds the number of
lines. -/
def Sorting.merged (sorting : Sorting) : Nat → List (List (List Char)) → List (List Char)
  | 0, _ => []
  | count + 1, files =>
      let files := files.filter (· ≠ [])
      let least := files.zipIdx.foldl
        (fun least (file, index) =>
          match least, file with
          | _, [] => least
          | none, line :: _ => some (line, index)
          | some (best, found), line :: _ =>
              if sorting.compare line best = .lt then some (line, index) else some (best, found))
        none
      match least with
      | none => []
      | some (line, index) =>
          line :: sorting.merged count
            (files.zipIdx.map fun (file, place) => if place = index then file.tail else file)

/-- Read the lines of files; the status is that for a file that cannot be read. -/
def readLines (program verb : String) (ending : Char) :
    List String → Program (Option (List (List (List Char))))
  | [] => return some []
  | name :: others => do
      let refuse (problem : String) (cause : Cause) :
          Program (Option (List (List (List Char)))) := do
        complain program (problem ++ ": " ++ labelName name ++ ": " ++ describeCause cause)
        return none
      match ← openInput name with
      | .error cause => refuse verb cause
      | .ok descriptor =>
          let content ← Program.readAll descriptor Program.manyRounds .empty
          closeInput name descriptor
          match content with
          | .error cause => refuse "read failed" cause
          | .ok bytes =>
              let lines := plainLines ending (Raw.ofBytes bytes.toList)
              return (← readLines program verb ending others).map (lines :: ·)

def checkOrder (sorting : Sorting) (ending : Char) (isSilent : Bool) (name : String) :
    Program Nat := do
  match ← readLines sorting.program "open failed" ending [name] with
  | none => return 2
  | some files =>
      match sorting.disorder? 1 files.flatten with
      | none => return 0
      | some (number, line) =>
          if !isSilent then
            complain sorting.program
              (labelName name ++ ":" ++ Text.decimal number ++ ": disorder: " ++
                String.ofList line)
          return 1

def writeLines (program : String) (path : Option String) (text : String) : Program Nat := do
  match path with
  | none =>
      match ← writeOut text with
      | none => return 0
      | some cause =>
          complain program ("fflush failed: 'standard output': " ++ describeCause cause)
          complain program "write error"
          return 2
  | some path =>
      match ← Program.openToWrite path false with
      | .error cause =>
          complain program ("open failed: " ++ labelName path ++ ": " ++ describeCause cause)
          return 2
      | .ok descriptor =>
          let written ← Program.writeText descriptor text
          Program.close descriptor
          match written with
          | .ok () => return 0
          | .error cause =>
              complain program ("write failed: " ++ labelName path ++ ": " ++ describeCause cause)
              return 2

def sortLines (program : String) (arguments : List String) : Program Nat :=
  withOptions program 2 sortForms arguments fun taken => do
    let wrongWord := taken.options.find? fun option =>
      option.letter = '\x02' && (orderWords.lookup (option.argument.getD "")).isNone
    if let some option := wrongWord then
      return ← wrongChoice program "--sort" (option.argument.getD "")
        (orderWords.map fun (word, _) => [word])
    let checkWords := [["quiet", "silent"], ["diagnose-first"]]
    let checks := taken.options.filterMap fun option => match option.letter, option.argument with
      | 'c', _ | '\x01', none => some (some false)
      | 'C', _ => some (some true)
      | '\x01', some word => some ((choice? word checkWords).map (· = "quiet"))
      | _, _ => none
    if checks.contains none then
      let wrong := taken.argument? '\x01'
      return ← wrongChoice program "--check" (wrong.getD "") checkWords
    let outputs := taken.options.filter fun option => option.letter = 'o'
    if (outputs.map (·.argument)).eraseDups.length > 1 then
      complain program "multiple output files specified"
      return 2
    match sortingFrom program taken with
    | .error problem =>
        complain program problem
        return 2
    | .ok sorting =>
        let ending := if sorting.endsInNul then '\x00' else '\n'
        let names := if taken.operands = [] then ["-"] else taken.operands
        match checks.getLast?, names with
        | some isSilent, [name] => checkOrder sorting ending (isSilent.getD false) name
        | some isSilent, _ :: extra :: _ =>
            complain program
              ("extra operand " ++ quoteName extra ++ " not allowed with -" ++
                if isSilent = some true then "C" else "c")
            return 2
        | _, _ =>
            for name in names do
              if name = "-" && !(← Program.isOpen 0) then
                complain program ("stat failed: -: " ++ describeCause Program.badDescriptor)
                return 2
              if name ≠ "-" && (Program.descriptorOfPath? name).isNone then
                if let .error cause ← Program.askDisk fun disk => disk.entryAt? (Raw.toText name) then
                  complain program
                    ("cannot read: " ++ labelName name ++ ": " ++ describeCause cause)
                  return 2
            match ← readLines program "open failed" ending names with
            | none => return 2
            | some files =>
                let total := (files.map List.length).sum
                let inOrder :=
                  if taken.has 'm' then sorting.merged total files
                  else files.flatten.mergeSort fun first second =>
                    sorting.compare first second ≠ .gt
                let kept := if sorting.isUnique then sorting.distinct inOrder else inOrder
                let text := kept.flatMap fun line => line ++ [ending]
                writeLines program (taken.argument? 'o') (String.ofList text)

end SnippetSandbox.Utility
