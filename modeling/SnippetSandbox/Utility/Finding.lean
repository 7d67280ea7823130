import SnippetSandbox.Shell.Pattern
import SnippetSandbox.Utility.PathName
import SnippetSandbox.Utility.Removal
import SnippetSandbox.Utility.Wording

/-!
# Finding lines

The lines of files are selected that match one of some expressions.  They are written,
maybe with others around them, or counted, or only the names of their files are told.
-/

namespace SnippetSandbox.Utility

open FileSystem Kernel Text

/-- What is told about selected lines. -/
inductive Telling
  | lines
  | parts
  | count
  | names
  | otherNames
  | nothing
  deriving DecidableEq, Repr

/-- What is done with directories. -/
inductive Descending
  | read
  | skip
  | recurse
  deriving DecidableEq, Repr

/-- Where lines are to match. -/
inductive Extent
  | anywhere
  | words
  | whole
  deriving DecidableEq, Repr

/-- How lines are found. -/
structure Finding where
  program : String
  expressions : List Expression
  wording : Wording
  extent : Extent := .anywhere
  isInverted : Bool := false
  telling : Telling := .lines
  isSilent : Bool := false
  limit : Option Nat := none
  numbersLines : Bool := false
  tellsOffsets : Bool := false
  before : Option Nat := none
  after : Option Nat := none
  takesBinary : Bool := false
  skipsBinary : Bool := false
  endsInNul : Bool := false
  /-- A byte that is zero stands behind the names of files. -/
  marksNames : Bool := false
  descending : Descending := .read
  /-- Names are told in front of lines: always, never, or when it matters. -/
  naming : Option Bool := none
  inputName : String := "(standard input)"
  included : List String := []
  excluded : List String := []
  excludedDirectories : List String := []

namespace Finding

def isWanted (finding : Finding) (text : Array Char) (first last : Nat) : Bool :=
  match finding.extent with
  | .anywhere => true
  | .words => !Expression.isAfterWord text first && !Expression.isBeforeWord text last
  | .whole => first = 0 && last = text.size

/-- The first match from a position on: of those that begin at the same place the longest
one. -/
def firstMatch? (finding : Finding) (text : Array Char) (from' : Nat) : Option (Nat × Nat) :=
  let found := finding.expressions.filterMap fun expression =>
    expression.firstMatch? finding.wording.same text (finding.isWanted text) from'
  found.foldl
    (fun best (first, last) =>
      match best with
      | none => some (first, last)
      | some (start, finish) =>
          if first < start || (first = start && finish < last) then some (first, last) else best)
    none

def selects (finding : Finding) (text : Array Char) : Bool :=
  let isMatched :=
    if finding.extent = .anywhere then
      finding.expressions.any fun expression => expression.isIn finding.wording.same text
    else (finding.firstMatch? text 0).isSome
  isMatched != finding.isInverted

/-- The matches in a line that are not empty.  `count` bounds their number. -/
def partsOf (finding : Finding) (text : Array Char) : Nat → Nat → List (Nat × Nat)
  | 0, _ => []
  | count + 1, position =>
      match finding.firstMatch? text position with
      | none => []
      | some (first, last) =>
          if first = last then
            if first < text.size then finding.partsOf text count (first + 1) else []
          else (first, last) :: finding.partsOf text count last

end Finding

/-- A line with its place in a file. -/
structure FoundLine where
  number : Nat
  offset : Nat
  text : List Char

/-- How far a file has been looked through. -/
structure Scan where
  label : String
  isNamed : Bool
  number : Nat := 0
  offset : Nat := 0
  count : Nat := 0
  /-- The lines in front that may be told, the last one first. -/
  recent : List FoundLine := []
  /-- How many lines are still told behind a selected one. -/
  pending : Nat := 0
  told : Nat := 0
  isBinary : Bool := false
  isDone : Bool := false
  hasTold : Bool := false
  output : String := ""

namespace Scan

def heading (finding : Finding) (scan : Scan) (mark : String) (number offset : Nat) : String :=
  (if scan.isNamed then scan.label ++ (if finding.marksNames then "\x00" else mark) else "") ++
    (if finding.numbersLines then decimal number ++ mark else "") ++
    (if finding.tellsOffsets then decimal offset ++ mark else "")

def ending (finding : Finding) : String := if finding.endsInNul then "\x00" else "\n"

def tell (finding : Finding) (isSelected : Bool) (line : FoundLine) (scan : Scan) : Scan :=
  let hasContext := finding.before.isSome || finding.after.isSome
  let separator :=
    if hasContext && scan.hasTold && (scan.told = 0 || scan.told + 1 ≠ line.number) then "--\n"
    else ""
  let heading := scan.heading finding (if isSelected then ":" else "-") line.number
  let text := match finding.telling with
    | .parts =>
        if !isSelected || finding.isInverted then ""
        else
          let characters := line.text.toArray
          String.join ((finding.partsOf characters (characters.size + 1) 0).map
            fun (first, last) =>
              heading (line.offset + first) ++
                String.ofList ((line.text.drop first).take (last - first)) ++ ending finding)
    | _ => heading line.offset ++ String.ofList line.text ++ ending finding
  { scan with output := scan.output ++ separator ++ text, told := line.number, hasTold := true }

def take (finding : Finding) (text : List Char) (scan : Scan) : Scan :=
  if scan.isDone then scan
  else
    let line : FoundLine := ⟨scan.number + 1, scan.offset, text⟩
    let scan := { scan with number := line.number, offset := line.offset + text.length + 1 }
    let isFull := finding.limit.any fun limit => limit ≤ scan.count
    let isSelected := finding.selects text.toArray
    if isFull then
      if isSelected || scan.pending = 0 then { scan with isDone := true }
      else
        let scan := scan.tell finding false line
        { scan with pending := scan.pending - 1, isDone := scan.pending ≤ 1 }
    else if isSelected then
      let scan := { scan with count := scan.count + 1 }
      let isFull := finding.limit = some scan.count
      match finding.telling with
      | .nothing | .names | .otherNames => { scan with isDone := true }
      | .count => { scan with isDone := isFull }
      | .lines | .parts =>
          if scan.isBinary then
            { scan with
              isDone := true
              output := scan.output ++ finding.program ++ ": " ++ scan.label ++
                ": binary file matches\n" }
          else
            let told := scan.recent.reverse.foldl (fun scan line => scan.tell finding false line)
              scan
            let told := told.tell finding true line
            let pending := finding.after.getD 0
            { told with recent := [], pending, isDone := isFull && pending = 0 }
    else if 0 < scan.pending then
      let scan := scan.tell finding false line
      { scan with pending := scan.pending - 1 }
    else { scan with recent := (line :: scan.recent).take (finding.before.getD 0) }

/-- Look at the lines of a text that end in it; the result holds what is left too. -/
def takeLines (finding : Finding) (mark : Char) : Nat → List Char → Scan → List Char × Scan
  | 0, text, scan => (text, scan)
  | count + 1, text, scan =>
      if scan.isDone then (text, scan)
      else
        let line := text.takeWhile (· ≠ mark)
        match text.drop line.length with
        | [] => (text, scan)
        | _ :: rest => takeLines finding mark count rest (scan.take finding line)

end Scan

def flushFound (report : String) (least : Nat) : Program (Except Cause String) := do
  if report.length < least then return .ok report
  match ← writeOut report with
  | none => return .ok ""
  | some cause => return .error cause

/-- Look through what a descriptor leads to.  `left` has been read but does not end in a
line end. -/
def scanInput (finding : Finding) (descriptor : Nat) : Nat → List Char → Scan →
    Program (Except Cause Scan)
  | 0, _, scan => return .ok scan
  | rounds + 1, left, scan => do
      match ← Program.read descriptor blockSize with
      | .error cause => return .error cause
      | .ok bytes =>
          let mark := if finding.endsInNul then '\x00' else '\n'
          if bytes.isEmpty then
            return .ok (if left = [] then scan else scan.take finding left)
          let more := Raw.ofBytes bytes.toList
          let isBinary := scan.isBinary ||
            (!finding.takesBinary && !finding.endsInNul && more.contains '\x00')
          if isBinary && finding.skipsBinary then return .ok { scan with isDone := true }
          let text := left ++ more
          let (left, scan) := ({ scan with isBinary } : Scan).takeLines finding mark text.length text
          if scan.isDone then
            if finding.limit.isSome then Program.stepBack descriptor left.length
            return .ok scan
          match ← flushFound scan.output 4096 with
          | .ok output => scanInput finding descriptor rounds left { scan with output }
          | .error cause => return .error cause

/-- What was found in all files so far. -/
structure Found where
  output : String := ""
  unwritten : Option Cause := none
  hasSelected : Bool := false
  hasFailed : Bool := false
  hasTold : Bool := false
  isOver : Bool := false

/-- Looks for lines in several files. -/
abbrev Search := StateT Found Program

namespace Search

def refuse (finding : Finding) (message : String) (isSilent : Bool) : Search Unit := do
  if !isSilent then
    let report ← ({ output := (← get).output } : Report).flush
    modify fun found => { found with output := "", unwritten := found.unwritten.or report.unwritten }
    complain finding.program message
  modify fun found => { found with hasFailed := true }

def file (finding : Finding) (label : String) (isNamed : Bool) (descriptor : Nat) :
    Search Unit := do
  let isOutput ← Program.ask fun system =>
    match system.openFile? descriptor, system.openFile? 1 with
    | some (_, { stream := .file _ identity, .. }), some (_, { stream := .file _ written, .. }) =>
        identity = written
    | _, _ => false
  let writesLines := finding.telling = .lines || finding.telling = .parts
  if isOutput && writesLines && finding.limit ≠ some 1 then
    refuse finding (label ++ ": input file is also the output") false
  else
    let found ← get
    let scan : Scan :=
      { label, isNamed, hasTold := found.hasTold, output := found.output
        isDone := finding.limit = some 0 }
    match ← scanInput finding descriptor Program.manyRounds [] scan with
    | .error cause => refuse finding (label ++ ": " ++ describeCause cause) finding.isSilent
    | .ok scan =>
        let isSelected := 0 < scan.count
        let name := label ++ if finding.marksNames then "\x00" else "\n"
        let told := match finding.telling with
          | .count =>
              (if isNamed then label ++ (if finding.marksNames then "\x00" else ":") else "") ++
                decimal scan.count ++ "\n"
          | .names => if isSelected then name else ""
          | .otherNames => if isSelected then "" else name
          | _ => ""
        modify fun found =>
          { found with
            output := scan.output ++ told
            hasTold := scan.hasTold
            hasSelected := found.hasSelected || isSelected
            isOver := isSelected && finding.telling = .nothing }

def isListed (patterns : List String) (path : String) : Bool :=
  let matches' (pattern text : String) : Bool :=
    (Shell.Pattern.ofGlyphs (Shell.glyphs false pattern.toList)).matches text.toList
  patterns.any fun pattern => matches' pattern (lastName path) || matches' pattern path

/-- A file is left out because of its name. -/
def leavesOut (finding : Finding) (path : String) : Bool :=
  isListed finding.excluded path ||
    (finding.included ≠ [] && !isListed finding.included path)

/-- Look through the file at a path, or through all in a directory.  `levels` bounds how
deep directories are nested. -/
def path (finding : Finding) (isOperand isNamed : Bool) (shown : String) :
    Nat → String → Search Unit
  | 0, _ => return ()
  | levels + 1, path => do
      if (← get).isOver then return ()
      if path = "-" && isOperand then
        file finding finding.inputName isNamed 0
      else
        let found ← Program.askDisk fun disk => disk.find (Raw.toText path)
        let isDirectory := found matches .ok (.present _ .directory)
        if isDirectory && finding.descending = .recurse then
          if isListed finding.excludedDirectories path then return ()
          let names ← Program.askDisk fun disk => match disk.find (Raw.toText path) with
            | .ok (.present place .directory) =>
                (disk.tree.names place).filter fun name => match disk.tree.lookup (name :: place) with
                  | some (.link _) => false
                  | _ => true
            | _ => []
          for name in names do
            let name := Raw.ofText name
            let inner := if shown = "" then name else shown ++ "/" ++ name
            Search.path finding false (finding.naming.getD true) inner levels (path ++ "/" ++ name)
        else if isDirectory && finding.descending = .skip then return ()
        else if !isDirectory && leavesOut finding path then return ()
        else
          match ← Program.openToRead path false with
          | .error cause => refuse finding (shown ++ ": " ++ describeCause cause) finding.isSilent
          | .ok found =>
              let descriptor ← Program.moveAside found
              file finding shown isNamed descriptor
              Program.close descriptor

end Search

def findingForms : List OptionForm :=
  letterForms "0123456789" ++
  [{ letter := 'E', word := "extended-regexp" }, { letter := 'F', word := "fixed-strings" },
    { letter := 'F', word := "fixed-regexp" }, { letter := 'G', word := "basic-regexp" },
    { letter := 'P', word := "perl-regexp" },
    { letter := 'e', word := "regexp", taking := .required },
    { letter := 'f', word := "file", taking := .required }, { letter := 'i', word := "ignore-case" },
    { letter := 'y' }, { letter := '\x01', word := "no-ignore-case" },
    { letter := 'v', word := "invert-match" }, { letter := 'w', word := "word-regexp" },
    { letter := 'x', word := "line-regexp" }, { letter := 'z', word := "null-data" },
    { letter := 'c', word := "count" }, { letter := 'L', word := "files-without-match" },
    { letter := 'l', word := "files-with-matches" },
    { letter := 'm', word := "max-count", taking := .required },
    { letter := 'o', word := "only-matching" }, { letter := 'q', word := "quiet" },
    { letter := 'q', word := "silent" }, { letter := 's', word := "no-messages" },
    { letter := 'b', word := "byte-offset" }, { letter := 'H', word := "with-filename" },
    { letter := 'h', word := "no-filename" },
    { letter := '\x02', word := "label", taking := .required },
    { letter := 'n', word := "line-number" }, { letter := 'T', word := "initial-tab" },
    { letter := 'u', word := "unix-byte-offsets" }, { letter := 'Z', word := "null" },
    { letter := 'A', word := "after-context", taking := .required },
    { letter := 'B', word := "before-context", taking := .required },
    { letter := 'C', word := "context", taking := .required }, { letter := 'a', word := "text" },
    { letter := '\x03', word := "binary-files", taking := .required },
    { letter := 'D', word := "devices", taking := .required },
    { letter := 'd', word := "directories", taking := .required },
    { letter := '\x04', word := "exclude", taking := .required },
    { letter := '\x05', word := "exclude-dir", taking := .required },
    { letter := '\x06', word := "include", taking := .required },
    { letter := 'r', word := "recursive" },
    { letter := 'R', word := "dereference-recursive" }, { letter := 'U', word := "binary" },
    { letter := 'I' }, { letter := '\x07', word := "line-buffered" },
    { letter := '\x0b', word := "color", taking := .optional },
    { letter := '\x0b', word := "colour", taking := .optional }]

def findingUsage (program : String) : Program Nat := do
  let name := lastName program
  let _ ← Program.writeText 2 ("Usage: " ++ name ++ " [OPTION]... PATTERNS [FILE]...\n")
  pointToHelp name 2

def contextLength? (text : String) : Option Nat :=
  match text.toList with
  | '+' :: digits => digits? digits
  | digits => digits? digits

def patternTexts (program : String) (taken : TakenApart) :
    Program (Except Nat (List (List Char) × List String)) := do
  let mut texts : List (List Char) := []
  let mut isGiven := false
  for option in taken.options do
    let argument := option.argument.getD ""
    if option.letter = 'e' then
      isGiven := true
      texts := texts ++ splitOn '\n' argument.toList
    if option.letter = 'f' then
      isGiven := true
      match ← readInput argument with
      | .error cause =>
          complain program (argument ++ ": " ++ describeCause cause)
          return .error 2
      | .ok content =>
          let lines := splitOn '\n' content
          texts := texts ++ (if lines.getLast? = some [] then lines.dropLast else lines)
  match isGiven, taken.operands with
  | true, operands => return .ok (texts, operands)
  | false, first :: others => return .ok (splitOn '\n' first.toList, others)
  | false, [] => return .error (← findingUsage program)

def fixedExpression (wording : Wording) (text : List Char) : Expression :=
  text.foldr (fun character rest => .both (wording.exactly character) rest) .empty

def readExpressions (program : String) (isFixed : Bool) (wording : Wording)
    (texts : List (List Char)) : Program (Except Nat (List Expression)) := do
  let mut expressions : List Expression := []
  for text in texts do
    if isFixed then expressions := expressions ++ [fixedExpression wording text]
    else
      match wording.read text with
      | .error problem =>
          complain program problem.message
          return .error 2
      | .ok (expression, signs) =>
          for sign in signs do
            complain program ("warning: " ++ sign ++ " at start of expression")
          expressions := expressions ++ [expression]
  return .ok expressions

def Finding.with' (finding : Finding) (option : GivenOption) : Finding :=
  let argument := option.argument.getD ""
  match option.letter with
  | 'v' => { finding with isInverted := true }
  | 'w' => { finding with extent := if finding.extent = .whole then .whole else .words }
  | 'x' => { finding with extent := .whole }
  | 'z' => { finding with endsInNul := true }
  | 's' => { finding with isSilent := true }
  | 'b' => { finding with tellsOffsets := true }
  | 'H' => { finding with naming := some true }
  | 'h' => { finding with naming := some false }
  | 'n' => { finding with numbersLines := true }
  | 'Z' => { finding with marksNames := true }
  | 'a' => { finding with takesBinary := true }
  | 'I' => { finding with skipsBinary := true }
  | 'r' | 'R' => { finding with descending := .recurse }
  | 'd' =>
      { finding with
        descending := match argument with
          | "recurse" => .recurse
          | "skip" => .skip
          | _ => .read }
  | '\x02' => { finding with inputName := argument }
  | '\x03' =>
      { finding with
        takesBinary := argument = "text", skipsBinary := argument = "without-match" }
  | '\x04' => { finding with excluded := argument :: finding.excluded }
  | '\x05' => { finding with excludedDirectories := argument :: finding.excludedDirectories }
  | '\x06' => { finding with included := argument :: finding.included }
  | _ => finding

def tellingFrom (taken : TakenApart) : Telling :=
  if taken.has 'q' then .nothing
  else
    match taken.last? ['l', 'L'] with
    | some 'l' => .names
    | some _ => .otherNames
    | none => if taken.has 'c' then .count else if taken.has 'o' then .parts else .lines

def findLines (program : String) (arguments : List String) : Program Nat := do
  match takeApart findingForms true (argumentSteps arguments) [] arguments with
  | .error problem =>
      complain program problem
      findingUsage program
  | .ok taken =>
  let kinds := (taken.options.filter fun option => "EFGP".toList.contains option.letter).map
    (·.letter)
  if 1 < kinds.eraseDups.length then
    complain program "conflicting matchers specified"
    return 2
  for option in taken.options do
    let argument := option.argument.getD ""
    if "ABC".toList.contains option.letter && (contextLength? argument).isNone then
      complain program (argument ++ ": invalid context length argument")
      return 2
    if option.letter = 'm' then
      let digits := if argument.startsWith "-" then argument.toList.tail else argument.toList
      if (digits? digits).isNone then
        complain program "invalid max count"
        return 2
  match ← patternTexts program taken with
  | .error status => return status
  | .ok (texts, operands) =>
  let kind := kinds.getLastD 'G'
  let wording : Wording :=
    { isExtended := kind = 'E' || kind = 'P'
      foldsCase := (taken.last? ['i', 'y', '\x01']).any (· ≠ '\x01') }
  match ← readExpressions program (kind = 'F') wording texts with
  | .error status => return status
  | .ok expressions =>
  let digits := (taken.options.map (·.letter)).filter Char.isDigit
  let shortContext := if digits = [] then none else some (number digits)
  let context (letter : Char) : Option Nat :=
    (((taken.argument? letter).or (taken.argument? 'C')).bind contextLength?).or shortContext
  let usual : Finding := { program, expressions, wording }
  let limit := (taken.argument? 'm').bind fun text =>
    if text.startsWith "-" then none else digits? text.toList
  let finding :=
    { taken.options.foldl Finding.with' usual with
      telling := tellingFrom taken, limit, before := context 'B', after := context 'A' }
  let isRecursive := finding.descending = .recurse
  let paths := if operands ≠ [] then operands else if isRecursive then ["."] else ["-"]
  let isNamed := finding.naming.getD (1 < operands.length)
  let (_, found) ← StateT.run (s := ({} : Found)) do
    for path in paths do
      Search.path finding true isNamed (if operands = [] && isRecursive then "" else path) deepest
        path
  let status :=
    if found.isOver then 0 else if found.hasFailed then 2 else if found.hasSelected then 0 else 1
  Report.finish program 2 { output := found.output, status, unwritten := found.unwritten }

end SnippetSandbox.Utility
