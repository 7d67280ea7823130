import SnippetSandbox.Shell.Number
import SnippetSandbox.Utility.Report

/-!
# Programs that pass input on

Files, or the input, are written out as a whole or in part, maybe with numbers and
marks, into several files at once, or are only counted.
-/

namespace SnippetSandbox.Utility

open FileSystem Kernel

/-! ## Whole files -/

/-- How characters are shown. -/
structure Showing where
  numbersAll : Bool
  numbersFull : Bool
  squeezes : Bool
  marksEnds : Bool
  marksTabs : Bool
  marksOthers : Bool

/-- How far files have been shown. -/
structure Shown where
  line : Nat := 0
  isAtStart : Bool := true
  isAfterEmpty : Bool := false
  text : List Char := []

def marked (character : Char) : List Char :=
  let code := character.toNat
  let plain (code : Nat) : List Char :=
    if code < 32 then ['^', Char.ofNat (code + 64)]
    else if code = 127 then ['^', '?'] else [Char.ofNat code]
  if code < 128 then plain code else 'M' :: '-' :: plain (code - 128)

def lineNumber (number : Nat) : List Char :=
  let digits := Text.digits number
  List.replicate (6 - digits.length) ' ' ++ digits ++ ['\t']

/-- Show a character.  `next` is the one behind it. -/
def Shown.take (showing : Showing) (shown : Shown) (character : Char) (next : Option Char) :
    Shown :=
  let isEmptyLine := shown.isAtStart && character = '\n'
  if showing.squeezes && isEmptyLine && shown.isAfterEmpty then shown
  else
    let isNumbered := shown.isAtStart &&
      (if showing.numbersFull then !isEmptyLine else showing.numbersAll)
    let number := if isNumbered then lineNumber (shown.line + 1) else []
    let text :=
      if character = '\n' then if showing.marksEnds then ['$', '\n'] else ['\n']
      else if character = '\t' then if showing.marksTabs then ['^', 'I'] else ['\t']
      else if showing.marksOthers || (character = '\r' && next = some '\n' && showing.marksEnds) then
        marked character
      else [character]
    { line := if isNumbered then shown.line + 1 else shown.line
      isAtStart := character = '\n'
      isAfterEmpty := isEmptyLine
      text := text.reverse ++ (number.reverse ++ shown.text) }

def Shown.takeAll (showing : Showing) : Shown → List Char → Shown
  | shown, [] => shown
  | shown, character :: rest => (shown.take showing character rest.head?).takeAll showing rest

/-- Copy what a descriptor leads to.  The result is the cause when that fails, and
whether it was the writing that failed. -/
def copyOut (descriptor : Nat) : Nat → Program (Option (Cause × Bool))
  | 0 => return none
  | rounds + 1 => do
      match ← Program.read descriptor blockSize with
      | .error cause => return some (cause, false)
      | .ok bytes =>
          if bytes.isEmpty then return none
          match ← Program.write 1 bytes with
          | .error cause => return some (cause, true)
          | .ok () => copyOut descriptor rounds

def showOut (showing : Showing) (descriptor : Nat) : Nat → Shown →
    Program (Option (Cause × Bool) × Shown)
  | 0, shown => return (none, shown)
  | rounds + 1, shown => do
      match ← Program.read descriptor blockSize with
      | .error cause => return (some (cause, false), shown)
      | .ok bytes =>
          if bytes.isEmpty then return (none, shown)
          let further := shown.takeAll showing (Raw.ofBytes bytes.toList)
          match ← writeOut (String.ofList further.text.reverse) with
          | some cause => return (some (cause, true), further)
          | none => showOut showing descriptor rounds { further with text := [] }

/-- The descriptor leads to the file that the output is written to, in front of its
end. -/
def leadsToOutput (descriptor : Nat) : Program Bool :=
  Program.ask fun system =>
    match system.openFile? descriptor, system.openFile? 1 with
    | some (_, { stream := .file place identity, offset, .. }),
        some (_, { stream := .file _ written, .. }) =>
        identity = written && offset < (system.content place identity).size
    | _, _ => false

def wholeForms : List OptionForm :=
  [{ letter := 'b', word := "number-nonblank" }, { letter := 'n', word := "number" },
    { letter := 's', word := "squeeze-blank" }, { letter := 'v', word := "show-nonprinting" },
    { letter := 'E', word := "show-ends" }, { letter := 'T', word := "show-tabs" },
    { letter := 'A', word := "show-all" }, { letter := 'e' }, { letter := 't' }, { letter := 'u' }]

def writeFiles (program : String) (arguments : List String) : Program Nat :=
  withOptions program 1 wholeForms arguments fun taken => do
    let any (letters : String) : Bool := letters.toList.any taken.has
    let showing : Showing :=
      { numbersAll := any "n", numbersFull := any "b", squeezes := any "s", marksEnds := any "AeE"
        marksTabs := any "AtT", marksOthers := any "Aetv" }
    let isPlain := !any "AbeEnstTv"
    if (← Program.ask fun system => system.openFile? 1).isNone then
      complain program ("standard output: " ++ describeCause Program.badDescriptor)
      return 1
    let names := if taken.operands = [] then ["-"] else taken.operands
    let mut status := 0
    let mut shown : Shown := {}
    for name in names do
      match ← openInput name with
      | .error cause =>
          complain program (labelName name ++ ": " ++ describeCause cause)
          status := 1
      | .ok descriptor =>
          if ← leadsToOutput descriptor then
            complain program (labelName name ++ ": input file is output file")
            status := 1
          else
            let (problem, further) ← if isPlain then do
                pure (← copyOut descriptor Program.manyRounds, shown)
              else showOut showing descriptor Program.manyRounds shown
            shown := further
            match problem with
            | some (cause, true) =>
                complainUnwritten program cause
                return 1
            | some (cause, false) =>
                complain program (labelName name ++ ": " ++ describeCause cause)
                status := 1
            | none => pure ()
          closeInput name descriptor
    Work.finish program 1 do
      modify (·.failed status)
      closeReadInput program "closing standard input" names

/-! ## Several files at once -/

/-- Copy the input to descriptors, the output first, for as long as it can be written
there. -/
def spread : Nat → List Nat → Nat → Program Nat
  | 0, _, status => return status
  | rounds + 1, descriptors, status => do
      match ← Program.read 0 blockSize with
      | .error cause =>
          complain "tee" ("read error: " ++ describeCause cause)
          return 1
      | .ok bytes =>
          if bytes.isEmpty then return status
          let mut left := []
          let mut status := status
          for descriptor in descriptors do
            match ← Program.write descriptor bytes with
            | .ok () => left := left ++ [descriptor]
            | .error cause =>
                if descriptor = 1 then
                  complain "tee" ("'standard output': " ++ describeCause cause)
                status := 1
          if left = [] then return status else spread rounds left status

def copyInput (program : String) (arguments : List String) : Program Nat :=
  let forms : List OptionForm :=
    [{ letter := 'a', word := "append" }, { letter := 'i', word := "ignore-interrupts" },
      { letter := 'p' }, { letter := '\x01', word := "output-error", taking := .optional }]
  withOptions program 1 forms arguments fun taken => do
    let mut status := 0
    let mut descriptors := [1]
    for name in taken.operands do
      match ← Program.openToWrite name (taken.has 'a') with
      | .ok descriptor => descriptors := descriptors ++ [← Program.moveAside descriptor]
      | .error cause =>
          complain program (labelName name ++ ": " ++ describeCause cause)
          status := 1
    if taken.has 'i' then Program.react 2 (some .ignored)
    status ← spread Program.manyRounds descriptors status
    Work.finish program 1 do
      modify (·.failed status)
      closeReadInput program "standard input" ["-"]

/-! ## Parts of files -/

def factorOf? (text : List Char) : Option Nat :=
  let letters := "KMGTPEZYRQ".toList
  let power (base : Nat) (letter : Char) : Option Nat :=
    (letters.findIdx? (· = letter)).map fun index => base ^ (index + 1)
  match text with
  | [] => some 1
  | ['b'] => some 512
  | ['k'] => some 1024
  | ['k', 'B'] => some 1000
  | ['m'] => some (1024 * 1024)
  | [letter] => power 1024 letter
  | [letter, 'B'] => power 1000 letter
  | [letter, 'i', 'B'] => power 1024 letter
  | _ => none

/-- The largest count of lines or bytes. -/
def largestCount : Nat := 2 ^ 64 - 1

/-- A count of lines or bytes, or the end of the message about a text that is none. -/
def readCount (text : String) : Except String Nat :=
  let characters := text.toList.dropWhile Shell.isSpace
  let written := if characters.head? = some '+' then characters.tail else characters
  let digits := written.takeWhile Char.isDigit
  let (number, rest) : Option Nat × List Char :=
    if digits ≠ [] then (some (Text.number digits), written.drop digits.length)
    else (if (factorOf? written).isSome && written ≠ [] then some 1 else none, written)
  match number, factorOf? rest with
  | some number, some factor =>
      if number * factor ≤ largestCount then .ok (number * factor)
      else .error (quoteText text ++ ": Value too large for defined data type")
  | _, _ => .error (quoteText text)

/-- A part of a file: so many lines or bytes from one of its ends. -/
structure Part where
  countsBytes : Bool := false
  count : Nat := 10
  isRest : Bool := false
  endsInNul : Bool := false

/-- How the names of files are written above their parts. -/
inductive Heading
  | never
  | always
  | ofSeveral
  deriving DecidableEq

def Part.lines (part : Part) (text : List Char) : List (List Char) :=
  if part.endsInNul then
    (linesOf (text.map fun character =>
      if character = '\x00' then '\n' else if character = '\n' then '\x00' else character)).map
      fun line => line.map fun character =>
        if character = '\x00' then '\n' else if character = '\n' then '\x00' else character
  else linesOf text

def Part.first (part : Part) (text : List Char) : List Char :=
  if part.countsBytes then
    text.take (if part.isRest then text.length - part.count else part.count)
  else
    let lines := part.lines text
    (lines.take (if part.isRest then lines.length - part.count else part.count)).flatten

def Part.last (part : Part) (text : List Char) : List Char :=
  if part.countsBytes then
    text.drop (if part.isRest then part.count - 1 else text.length - part.count)
  else
    let lines := part.lines text
    (lines.drop (if part.isRest then part.count - 1 else lines.length - part.count)).flatten

def headingOf (name : String) : String := if name = "-" then "standard input" else name

/-- How much of the beginning of a file is read at once. -/
def beginningBlock : Nat := 8192

/-- Read the first lines or bytes, and not much more. -/
def readFirst (part : Part) (descriptor : Nat) : Nat → List (List Char) → Nat →
    Program (Except Cause (List Char))
  | 0, read, _ => return .ok read.reverse.flatten
  | rounds + 1, read, missing => do
      if missing = 0 then return .ok read.reverse.flatten
      let wanted := if part.countsBytes then min missing beginningBlock else beginningBlock
      match ← Program.read descriptor wanted with
      | .error cause => return .error cause
      | .ok bytes =>
          if bytes.isEmpty then return .ok read.reverse.flatten
          let text := Raw.ofBytes bytes.toList
          if part.countsBytes then
            readFirst part descriptor rounds (text :: read) (missing - text.length)
          else
            let ending := if part.endsInNul then '\x00' else '\n'
            let ends := text.countP (· = ending)
            if ends < missing then
              readFirst part descriptor rounds (text :: read) (missing - ends)
            else
              let kept := ((part.lines text).take missing).flatten
              Program.stepBack descriptor (text.length - kept.length)
              return .ok (kept :: read).reverse.flatten

def takeFirst (part : Part) (descriptor : Nat) : Program (Except Cause (List Char)) := do
  if part.isRest then
    match ← Program.readAll descriptor Program.manyRounds .empty with
    | .error cause => return .error cause
    | .ok bytes =>
        let text := Raw.ofBytes bytes.toList
        let kept := part.first text
        Program.stepBack descriptor (text.length - kept.length)
        return .ok kept
  else readFirst part descriptor Program.manyRounds [] part.count

def takeLast (part : Part) (descriptor : Nat) : Program (Except Cause (List Char)) := do
  match ← Program.readAll descriptor Program.manyRounds .empty with
  | .error cause => return .error cause
  | .ok bytes => return .ok (part.last (Raw.ofBytes bytes.toList))

/-- Write parts of files, each below the name of its file if that is wanted.
`unopened` describes an input that is not there. -/
def reportParts (program unopened : String) (heading : Heading)
    (take : Nat → Program (Except Cause (List Char))) (names : List String) :
    Program Nat :=
  Work.finish program 1 do
    let names := if names = [] then ["-"] else names
    let isHeaded := heading = .always || (heading = .ofSeveral && 1 < names.length)
    let mut isFirst := true
    for name in names do
      match ← openInput name with
      | .error cause =>
          Work.refuse program
            ("cannot open " ++ quoteName name ++ " for reading: " ++ describeCause cause) 1
      | .ok descriptor =>
          if isHeaded then
            let gap := if isFirst then "" else "\n"
            Work.say (gap ++ "==> " ++ headingOf name ++ " <==\n")
            isFirst := false
          match ← take descriptor with
          | .ok text => Work.say (String.ofList text)
          | .error cause =>
              let problem :=
                if cause = Program.badDescriptor then unopened else "error reading "
              Work.refuse program
                (problem ++ quoteName (headingOf name) ++ ": " ++ describeCause cause) 1
          closeInput name descriptor
    closeReadInput program "-" names

def partForms : List OptionForm :=
  [{ letter := 'c', word := "bytes", taking := .required },
    { letter := 'n', word := "lines", taking := .required }, { letter := 'q', word := "quiet" },
    { letter := 'q', word := "silent" }, { letter := 'v', word := "verbose" },
    { letter := 'z', word := "zero-terminated" }]

def headingFrom (taken : TakenApart) (usual : Heading) : Heading :=
  match taken.last? ['q', 'v'] with
  | some 'q' => .never
  | some _ => .always
  | none => usual

/-- The part that options ask for, or the message about a wrong one.  A sign in front of
the count asks for the rest. -/
def partFrom (taken : TakenApart) (restSign : Char) (usual : Part) : Except String Part :=
  let usual := { usual with endsInNul := usual.endsInNul || taken.has 'z' }
  taken.options.foldlM
    (fun part option =>
      if option.letter = 'c' || option.letter = 'n' then do
        let countsBytes := option.letter = 'c'
        let text := option.argument.getD ""
        let isRest := text.toList.head? = some restSign
        let isSigned := isRest || text.toList.head? = some '-'
        let shown := if isSigned && restSign = '-' then String.ofList text.toList.tail else text
        let magnitude := if isSigned then String.ofList text.toList.tail else text
        match readCount magnitude with
        | .ok count => .ok { part with countsBytes, count, isRest }
        | .error problem =>
            let ending := String.ofList (problem.toList.drop (quoteText magnitude).length)
            .error ("invalid number of " ++ (if countsBytes then "bytes" else "lines") ++ ": " ++
              quoteText shown ++ ending)
      else .ok part)
    usual

def shortLetters : List Char → Part × Heading → Except Char (Part × Heading)
  | [], found => .ok found
  | letter :: letters, (part, heading) =>
      let scaled (factor : Nat) : Except Char (Part × Heading) :=
        shortLetters letters ({ part with countsBytes := true, count := part.count * factor }, heading)
      match letter with
      | 'c' => scaled 1
      | 'b' => scaled 512
      | 'k' => scaled 1024
      | 'm' => scaled (1024 * 1024)
      | 'l' => shortLetters letters ({ part with countsBytes := false }, heading)
      | 'q' => shortLetters letters (part, .never)
      | 'v' => shortLetters letters (part, .always)
      | 'z' => shortLetters letters ({ part with endsInNul := true }, heading)
      | other => .error other

def writeFirst (program : String) (arguments : List String) : Program Nat := do
  let short? : Option (List Char × List Char) :=
    match (arguments.headD "").toList with
    | '-' :: rest =>
        let digits := rest.takeWhile Char.isDigit
        if digits = [] then none else some (digits, rest.drop digits.length)
    | _ => none
  let (usual, others) : Except Char (Part × Heading) × List String := match short? with
    | some (digits, letters) =>
        (shortLetters letters ({ count := Text.number digits }, .ofSeveral), arguments.tail)
    | none => (.ok ({}, .ofSeveral), arguments)
  match usual with
  | .error letter => misuse program ("invalid trailing option -- " ++ letter.toString) 1
  | .ok (part, heading) =>
      match takeApart partForms true (argumentSteps others) [] others with
      | .error problem =>
          match problem.toList.reverse with
          | '\'' :: digit :: _ =>
              if digit.isDigit && problem.startsWith "invalid option" then
                misuse program ("invalid trailing option -- " ++ digit.toString) 1
              else misuse program problem 1
          | _ => misuse program problem 1
      | .ok taken =>
          match partFrom taken '-' part with
          | .error problem =>
              complain program problem
              return 1
          | .ok part =>
              reportParts program "error reading " (headingFrom taken heading) (takeFirst part)
                taken.operands

/-- The part that an argument in the short form asks for, and whether the end of the file
is followed. -/
def shortLast? (argument : String) : Option (Part × Bool) :=
  let from' (isRest : Bool) (rest : List Char) : Option (Part × Bool) :=
    let digits := rest.takeWhile Char.isDigit
    let letters := rest.drop digits.length
    let (unit, letters) : Option (Nat × Bool) × List Char := match letters with
      | 'b' :: more => (some (512, true), more)
      | 'c' :: more => (some (1, true), more)
      | 'l' :: more => (some (1, false), more)
      | more => (none, more)
    let (factor, countsBytes) := unit.getD (1, false)
    let count := (if digits = [] then 10 else Text.number digits) * factor
    match letters with
    | [] => some ({ countsBytes, count, isRest }, false)
    | ['f'] => some ({ countsBytes, count, isRest }, true)
    | _ => none
  match argument.toList with
  | '+' :: rest => from' true rest
  | '-' :: 'c' :: [] | ['-'] => none
  | '-' :: rest => from' false rest
  | _ => none

def follow : Nat → List Nat → Program Unit
  | 0, _ => return ()
  | rounds + 1, descriptors => do
      Program.pause Time.Span.perSecond
      for descriptor in descriptors do
        let _ ← copyOut descriptor Program.manyRounds
      follow rounds descriptors

def openAtEnds (names : List String) : Program (List Nat) := do
  let mut descriptors := []
  for name in names do
    if let .ok descriptor ← openInput name then
      let _ ← Program.readAll descriptor Program.manyRounds .empty
      let isFile ← Program.ask fun system =>
        (system.openFile? descriptor).any fun (_, openFile) => openFile.stream matches .file _ _
      if isFile then descriptors := descriptors ++ [descriptor]
  return descriptors

def writeLast (program : String) (arguments : List String) : Program Nat := do
  let isShort := match arguments with
    | [_] | [_, "-"] | [_, "--"] | [_, "--", _] => true
    | [_, second] => !second.startsWith "-"
    | _ => false
  let short? := if isShort then shortLast? (arguments.headD "") else none
  let (usual, follows) : Part × Bool := short?.getD ({}, false)
  let others := if short?.isSome then arguments.tail else arguments
  let forms := { letter := 'f', word := "follow", taking := .none } :: partForms
  let letters := others.filter fun argument => argument.startsWith "-" && argument ≠ "--"
  let misplaced := letters.findSome? fun argument =>
    (argument.toList[1]?).filter Char.isDigit
  match misplaced, takeApart forms true (argumentSteps others) [] others with
  | some digit, .error _ =>
      complain program ("option used in invalid context -- " ++ digit.toString)
      return 1
  | none, .error problem => misuse program problem 1
  | _, .ok taken =>
      match partFrom taken '+' usual with
      | .error problem =>
          complain program problem
          return 1
      | .ok part =>
          let status ← reportParts program "cannot fstat " (headingFrom taken .ofSeveral)
            (takeLast part) taken.operands
          if follows || taken.has 'f' then
            match ← openAtEnds (if taken.operands = [] then ["-"] else taken.operands) with
            | [] => return status
            | descriptors =>
                follow Program.manyRounds descriptors
                return status
          else return status

/-! ## Counting -/

/-- What is counted in a file. -/
structure Counts where
  lines : Nat := 0
  words : Nat := 0
  bytes : Nat := 0
  widest : Nat := 0
  width : Nat := 0
  isInWord : Bool := false

def Counts.take (counts : Counts) (character : Char) : Counts :=
  let counts := { counts with bytes := counts.bytes + 1 }
  let endLine (lines : Nat) (counts : Counts) : Counts :=
    { counts with
      lines, widest := max counts.widest counts.width, width := 0, isInWord := false }
  match character with
  | '\n' => endLine (counts.lines + 1) counts
  | '\r' | '\x0c' => endLine counts.lines counts
  | '\t' => { counts with width := counts.width / 8 * 8 + 8, isInWord := false }
  | ' ' => { counts with width := counts.width + 1, isInWord := false }
  | '\x0b' => { counts with isInWord := false }
  | _ =>
      if !isShown character then counts
      else
        { counts with
          width := counts.width + 1
          words := if counts.isInWord then counts.words else counts.words + 1
          isInWord := true }

def Counts.plus (counts others : Counts) : Counts :=
  { lines := counts.lines + others.lines
    words := counts.words + others.words
    bytes := counts.bytes + others.bytes
    widest := max counts.widest others.widest }

def countAll (descriptor : Nat) : Nat → Counts → Program (Option Cause × Counts)
  | 0, counts => return (none, counts)
  | rounds + 1, counts => do
      match ← Program.read descriptor blockSize with
      | .error cause => return (some cause, counts)
      | .ok bytes =>
          if bytes.isEmpty then
            return (none, { counts with widest := max counts.widest counts.width })
          countAll descriptor rounds ((Raw.ofBytes bytes.toList).foldl Counts.take counts)

/-- The size of a file as far as it is known beforehand: none if there is no file, and
nothing for what is no regular file. -/
def knownSize (name : String) : Program (Option (Option Nat)) := do
  if name = "-" then
    Program.ask fun system => (system.openFile? 0).map fun
      | (_, { stream := .file place identity, .. }) => some (system.content place identity).size
      | _ => none
  else
    match ← Program.askDisk fun disk => disk.entryAt? (Raw.toText name) with
    | .ok (.file _ content _) => return some (some content.size)
    | .ok _ => return some none
    | .error _ => return none

def countWidth (sizes : List (Option (Option Nat))) : Nat :=
  let total := (sizes.filterMap fun size => size.bind id).sum
  let least := if sizes.any fun size => size = some none then 7 else 1
  max least (Text.digits total).length

def countForms : List OptionForm :=
  [{ letter := 'c', word := "bytes" }, { letter := 'm', word := "chars" },
    { letter := 'l', word := "lines" }, { letter := 'w', word := "words" },
    { letter := 'L', word := "max-line-length" },
    { letter := '\x01', word := "total", taking := .required }]

/-- Count the lines, words and bytes of files. -/
def writeCounts (program : String) (arguments : List String) : Program Nat :=
  withOptions program 1 countForms arguments fun taken => do
    let names := taken.operands
    let asked := "lwmcL".toList.filter taken.has
    let letters := if asked = [] then ['l', 'w', 'c'] else asked
    let occasions := [["auto"], ["always"], ["only"], ["never"]]
    let asked? := taken.argument? '\x01'
    if let some wrong := asked?.filter fun word => (choice? word occasions).isNone then
      return ← wrongChoice program "--total" wrong occasions
    let when' := (asked?.bind fun word => choice? word occasions).getD "auto"
    let isTotalAlone := when' = "only"
    let width ← if isTotalAlone then pure 1
      else if names.length ≤ 1 && letters.length = 1 then pure 1
      else countWidth <$> (if names = [] then ["-"] else names).mapM knownSize
    let shown (counts : Counts) (name : Option String) : String :=
      let numbers := letters.map fun letter => Text.decimal (match letter with
        | 'l' => counts.lines
        | 'w' => counts.words
        | 'L' => counts.widest
        | _ => counts.bytes)
      let padded := numbers.map fun number =>
        String.ofList (List.replicate (width - number.length) ' ') ++ number
      " ".intercalate (padded ++ name.toList) ++ "\n"
    let isTotalShown := match when' with
      | "always" | "only" => true
      | "never" => false
      | _ => 1 < names.length
    Work.finish program 1 do
      let mut total : Counts := {}
      for name in if names = [] then ["-"] else names do
        let opened ← if name = "" then pure none else some <$> openInput name
        match opened with
        | none => Work.refuse program "invalid zero-length file name" 1
        | some (.error cause) =>
            Work.refuse program (labelName name ++ ": " ++ describeCause cause) 1
        | some (.ok descriptor) =>
            let (problem, counts) ← countAll descriptor Program.manyRounds {}
            if let some cause := problem then
              let label := if names = [] then "'standard input'" else labelName name
              Work.refuse program (label ++ ": " ++ describeCause cause) 1
            let label := if names = [] then none else some (labelName name)
            if !isTotalAlone then Work.say (shown counts label)
            total := total.plus counts
            closeInput name descriptor
      if isTotalShown then
        Work.say (shown total (if isTotalAlone then none else some "total"))
      closeReadInput program "-" (if names = [] then ["-"] else names)

end SnippetSandbox.Utility
