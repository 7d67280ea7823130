import SnippetSandbox.Shell.Pattern
import SnippetSandbox.Utility.Copying
import SnippetSandbox.Utility.Dates
import SnippetSandbox.Utility.Mode
import SnippetSandbox.Utility.Version

/-!
# Listing directories

The names in directories are listed in some order, a name a line or in columns, and
maybe with what else is known of the files.
-/

namespace SnippetSandbox.Utility

open FileSystem Kernel

/-- What is told beside names. -/
inductive Detail
  | names
  | lines
  | commas
  | columns (across : Bool)
  | long
  deriving DecidableEq, Repr

/-- What marks are put behind names. -/
inductive Marking
  | none
  | directories
  | types
  | all
  deriving DecidableEq, Repr

/-- The order of names. -/
inductive Order
  | name
  | moment
  | size
  | ending
  | version
  | width
  | none
  deriving DecidableEq, Repr

/-- How names are written. -/
inductive NameStyle
  | plain
  | quoted
  | escaped
  /-- In single quotes, if that is needed in scripts or always. -/
  | scripted (always : Bool)
  deriving DecidableEq, Repr

/-- Which names are left out. -/
inductive Hiding
  | hidden
  | ways
  | nothing
  deriving DecidableEq, Repr

/-- How directories are listed. -/
structure Listing where
  program : String
  detail : Detail := .names
  marking : Marking := .none
  order : Order := .name
  leavesOut : Hiding := .hidden
  isReversed : Bool := false
  isRecursive : Bool := false
  isPlain : Bool := false
  following : Option Following := .none
  style : NameStyle := .plain
  masksOthers : Bool := false
  directoriesFirst : Bool := false
  tellsBlocks : Bool := false
  tellsIdentity : Bool := false
  isNumeric : Bool := false
  hidesOwner : Bool := false
  hidesGroup : Bool := false
  isReadable : Bool := false
  endsInNul : Bool := false
  width : Nat := 80
  ignored : List String := []
  /-- The patterns of names that are left out unless hidden ones are listed. -/
  ignoredUsually : List String := []

/-- A name with what is known of the entry. -/
structure Listed where
  name : String
  entry : Entry
  target : Option Entry := none
  size : Nat := 0
  moment : Nat := 0
  mode : Nat := 0
  /-- How many directories are in it. -/
  inner : Nat := 0

namespace Listing

def listedOf (system : System) (disk : Disk) (name : String) (place : Place) (entry : Entry) :
    Listed :=
  match entry with
  | .file identity content executable =>
      { name, entry
        size := content.size
        moment := system.changeOf identity
        mode := system.modeOf identity executable }
  | .directory =>
      let inner := (disk.tree.names place).filter fun inner =>
        disk.tree.lookup (inner :: place) = some .directory
      { name, entry, size := 4096, moment := System.beginning - 1, mode := 0o755
        inner := inner.length }
  | .link target =>
      { name, entry, size := target.utf8ByteSize, moment := System.beginning - 1, mode := 0o777
        target := (disk.tree.find place.tail .content target).toOption.bind fun
          | .present _ entry => some entry
          | .absent _ _ => none }
  | .device _ => { name, entry, moment := System.beginning - 1, mode := 0o666 }

def hides (listing : Listing) (name : String) : Bool :=
  let isMatched (pattern : String) : Bool :=
    (Shell.Pattern.ofGlyphs (Shell.glyphs false pattern.toList)).matches name.toList &&
      !(name.startsWith "." && !pattern.startsWith ".")
  (listing.leavesOut = .hidden && name.startsWith ".") || listing.ignored.any isMatched ||
    (listing.leavesOut = .hidden && listing.ignoredUsually.any isMatched)

def endingOf (name : String) : String :=
  let letters := name.toList
  if letters.contains '.' then
    String.ofList ('.' :: (letters.reverse.takeWhile (· ≠ '.')).reverse)
  else ""

def isBefore (order : Order) (first second : Listed) : Bool :=
  match order with
  | .name | .none => first.name ≤ second.name
  | .moment =>
      second.moment < first.moment ||
        (first.moment = second.moment && first.name ≤ second.name)
  | .size =>
      second.size < first.size || (first.size = second.size && first.name ≤ second.name)
  | .ending =>
      endingOf first.name < endingOf second.name ||
        (endingOf first.name = endingOf second.name && first.name ≤ second.name)
  | .version => compareNames first.name.toList second.name.toList ≠ .gt
  | .width =>
      first.name.length < second.name.length ||
        (first.name.length = second.name.length && first.name ≤ second.name)

def sorted (listing : Listing) (items : List Listed) : List Listed :=
  let byOrder := items.mergeSort (isBefore listing.order)
  let inOrder := if listing.isReversed && listing.order ≠ .none then byOrder.reverse else byOrder
  if listing.directoriesFirst && listing.order ≠ .none then
    let (directories, others) := inOrder.partition fun item =>
      item.entry = .directory || item.target = some .directory
    directories ++ others
  else inOrder

def mark (marking : Marking) (entry : Entry) (mode : Nat) : String :=
  match entry with
  | .directory => if marking = .none then "" else "/"
  | .link _ => if marking = .types || marking = .all then "@" else ""
  | .file _ _ _ => if marking = .all && mode &&& 0o111 ≠ 0 then "*" else ""
  | .device _ => ""

def escapedName (marked : List Char) (name : String) : String :=
  String.ofList <| name.toList.flatMap fun character =>
    if character = '\\' || marked.contains character then ['\\', character]
    else if isShown character then [character] else escape character

def shownName (listing : Listing) (name : String) : String :=
  match listing.style with
  | .plain =>
      if listing.masksOthers then
        name.map fun character => if isShown character then character else '?'
      else name
  | .quoted => "\"" ++ escapedName ['"'] name ++ "\""
  | .escaped => escapedName [' '] name
  | .scripted always => if always then quoteName name else showName name

def label (listing : Listing) (item : Listed) : String :=
  listing.shownName item.name ++ mark listing.marking item.entry item.mode

/-- How many blocks of a kibibyte the content of an entry takes. -/
def blocks (item : Listed) : Nat :=
  match item.entry with
  | .directory => 4
  | .file _ content _ => (content.size + 4095) / 4096 * 4
  | _ => 0

def months : Array String :=
  #["Jan", "Feb", "Mar", "Apr", "May", "Jun", "Jul", "Aug", "Sep", "Oct", "Nov", "Dec"]

def padded (width : Nat) (text : String) : String :=
  String.ofList (List.replicate (width - text.length) ' ') ++ text

def filled (width : Nat) (text : String) : String :=
  text ++ String.ofList (List.replicate (width - text.length) ' ')

/-- The date of some days after the beginning of 1970, found from a year on. -/
def dateFrom (days : Nat) : Nat → Nat → Nat × Nat × Nat
  | 0, year => (year, 1, 1)
  | count + 1, year =>
      let length := if isLeapYear year then 366 else 365
      if daysOf year 1 1 + length ≤ days then dateFrom days count (year + 1)
      else
        let month := ((List.range 12).filter fun month => daysOf year (month + 1) 1 ≤ days).length
        (year, month, days - daysOf year month 1 + 1)

def shownMoment (ticks : Nat) : String :=
  let seconds := ticks / (Time.Span.perSecond / System.tick)
  let now := System.beginning / (Time.Span.perSecond / System.tick)
  let (year, month, day) := dateFrom (seconds / 86400) 1000 1970
  let date := months.getD (month - 1) "" ++ " " ++ padded 2 (Text.decimal day)
  let two (number : Nat) : String := (if number < 10 then "0" else "") ++ Text.decimal number
  if seconds + 15778476 < now || now + 3600 < seconds then
    date ++ "  " ++ Text.decimal year
  else date ++ " " ++ two (seconds / 3600 % 24) ++ ":" ++ two (seconds / 60 % 60)

def shownSize (listing : Listing) (size : Nat) : String :=
  if !listing.isReadable || size < 1024 then Text.decimal size
  else
    let scaled (unit : Nat) (letter : String) : String :=
      if size < 10 * unit then
        let tenths := (size * 10 + unit - 1) / unit
        Text.decimal (tenths / 10) ++ "." ++ Text.decimal (tenths % 10) ++ letter
      else Text.decimal ((size + unit - 1) / unit) ++ letter
    if size < 1024 * 1024 then scaled 1024 "K" else scaled (1024 * 1024) "M"

def longLines (listing : Listing) (items : List Listed) : List String :=
  let owner := if listing.isNumeric then "0" else "root"
  let linkCount (item : Listed) : String :=
    Text.decimal (if item.entry = .directory then item.inner + 2 else 1)
  let size (item : Listed) : String := match item.entry with
    | .device .null => "1, 3"
    | .device .full => "1, 7"
    | _ => listing.shownSize item.size
  let widest (shown : Listed → String) : Nat :=
    items.foldl (fun widest item => max widest (shown item).length) 0
  let blockText (item : Listed) : String := Text.decimal (blocks item)
  items.map fun item =>
    let kind := match item.entry with
      | .directory => "d"
      | .link _ => "l"
      | .device _ => "c"
      | .file .. => "-"
    let target := match item.entry with
      | .link text => " -> " ++ listing.shownName (Raw.ofText text) ++
          (match item.target with
          | some entry => mark listing.marking entry 0
          | none => "")
      | _ => ""
    let name := match item.entry with
      | .link _ => listing.shownName item.name
      | _ => listing.label item
    let owners := (if listing.hidesOwner then [] else [owner]) ++
      (if listing.hidesGroup then [] else [owner])
    let front := if listing.tellsBlocks then [padded (widest blockText) (blockText item)] else []
    " ".intercalate
      (front ++ [kind ++ Mode.letters item.mode, padded (widest linkCount) (linkCount item)] ++ owners ++
        [padded (widest size) (size item), shownMoment item.moment, name ++ target])

/-- The widths of the columns when there are so many, each with the space behind it. -/
def columnWidths (across : Bool) (lengths : List Nat) (count : Nat) : List Nat :=
  let rows := (lengths.length + count - 1) / count
  let column (place : Nat) : Nat := if across then place % count else place / rows
  let numbered := lengths.zipIdx
  (List.range count).map fun wanted =>
    numbered.foldl
      (fun widest (length, place) =>
        if column place = wanted then max widest (length + if wanted + 1 = count then 0 else 2)
        else widest)
      3

def indent (start goal : Nat) : Nat → List Char
  | 0 => []
  | steps + 1 =>
      if goal ≤ start then []
      else if (start + 1) / 8 < goal / 8 then '\t' :: indent (start + 8 - start % 8) goal steps
      else ' ' :: indent (start + 1) goal steps

def inColumns (width : Nat) (across : Bool) (texts : List String) : String :=
  let lengths := texts.map String.length
  let fits (count : Nat) : Bool := (columnWidths across lengths count).sum < width
  let most := min (max 1 (width / 3)) texts.length
  let count := (((List.range most).map (· + 1)).reverse.find? fits).getD 1
  let widths := columnWidths across lengths count
  let rows := (texts.length + count - 1) / count
  let lines := (List.range rows).map fun row =>
    let places := (List.range count).map fun column =>
      if across then row * count + column else column * rows + row
    let shown := (places.filterMap fun place => texts[place]?)
    let (line, _) := shown.zipIdx.foldl
      (fun (line, position) (text, column) =>
        let start := (widths.take column).sum
        (line ++ String.ofList (indent position start start) ++ text, start + text.length))
      ("", 0)
    line ++ "\n"
  String.join lines

def withCommas (width : Nat) : Nat → List String → String
  | _, [] => "\n"
  | 0, text :: others => text ++ withCommas width text.length others
  | position, text :: others =>
      if position + text.length + 2 < width then
        ", " ++ text ++ withCommas width (position + text.length + 2) others
      else ",\n" ++ text ++ withCommas width text.length others

def shown (listing : Listing) (items : List Listed) : String :=
  let widest := items.foldl (fun widest item => max widest (Text.digits (blocks item)).length) 0
  let label (item : Listed) : String :=
    (if listing.tellsIdentity then "1 " else "") ++
    (if listing.tellsBlocks then padded widest (Text.decimal (blocks item)) ++ " " else "") ++
      listing.label item
  let ending := if listing.endsInNul then "\x00" else "\n"
  match items, listing.detail with
  | [], _ => ""
  | _, .names | _, .lines => String.join (items.map fun item => label item ++ ending)
  | _, .long => String.join ((listing.longLines items).map (· ++ ending))
  | _, .commas => withCommas listing.width 0 (items.map label)
  | _, .columns across =>
      if listing.width = 0 then "  ".intercalate (items.map label) ++ "\n"
      else inColumns listing.width across (items.map label)

/-- List a directory; `path` is how it was named.  `levels` bounds how deep directories
are nested.  The result tells whether something was written before. -/
def directory (listing : Listing) (isHeaded : Bool) : Nat → Bool → String → Work Bool
  | 0, isAfter, _ => return isAfter
  | levels + 1, isAfter, path => do
      match ← Program.askDisk fun disk => disk.find (Raw.toText path) with
      | .ok (.present place .directory) =>
          let items ← Program.ask fun system =>
            let disk := system.seen
            let named := (disk.tree.names place).filterMap fun name =>
              if listing.hides name then none
              else
                (disk.tree.lookup (name :: place)).map fun entry =>
                  listedOf system disk (Raw.ofText name) (name :: place) entry
            let ways := if listing.leavesOut = .nothing then
                [listedOf system disk "." place .directory,
                  listedOf system disk ".." place.tail .directory]
              else []
            listing.sorted (ways ++ named)
          if isHeaded then
            Work.say ((if isAfter then "\n" else "") ++ listing.shownName path ++ ":\n")
          if listing.detail = .long || listing.tellsBlocks then
            Work.say ("total " ++ Text.decimal (items.map blocks).sum ++ "\n")
          Work.say (listing.shown items)
          if listing.isRecursive then
            let mut isAfter := true
            for item in items do
              if item.entry = .directory && item.name ≠ "." && item.name ≠ ".." then
                isAfter ← listing.directory isHeaded levels isAfter (pathInside path item.name)
            return isAfter
          else return true
      | found =>
          let cause := match found with
            | .error cause => cause
            | _ => .notFound
          Work.refuse listing.program
            ("cannot open directory " ++ quoteName path ++ ": " ++ describeCause cause) 2
          return isAfter

def orderWords : List (List String) :=
  [["none"], ["time"], ["size"], ["extension"], ["version"], ["width"]]

def detailWords : List (List String) :=
  [["verbose", "long"], ["commas"], ["horizontal", "across"], ["vertical"], ["single-column"]]

def styleWords : List (List String) :=
  [["literal"], ["shell"], ["shell-always"], ["shell-escape"], ["shell-escape-always"], ["c"],
    ["c-maybe"], ["escape"], ["locale"], ["clocale"]]

def markingWords : List (List String) :=
  [["none"], ["slash"], ["file-type"], ["classify"]]

def occasionWords : List (List String) :=
  [["always", "yes", "force"], ["never", "no", "none"], ["auto", "tty", "if-tty"]]

def momentWords : List (List String) :=
  [["atime", "access", "use"], ["ctime", "status"], ["mtime", "modification"],
    ["birth", "creation"]]

def wordOptions : List (Char × String × List (List String)) :=
  [('F', "--classify", occasionWords), ('\x03', "--sort", orderWords),
    ('\x05', "--color", occasionWords), ('\x06', "--time", momentWords),
    ('\x0c', "--format", detailWords), ('\x0e', "--quoting-style", styleWords),
    ('\x0f', "--indicator-style", markingWords)]

def with' (listing : Listing) (option : GivenOption) : Listing :=
  let argument := option.argument.getD ""
  match option.letter with
  | 'a' => { listing with leavesOut := .nothing }
  | 'A' => { listing with leavesOut := .ways }
  | 'B' => { listing with ignored := "*~" :: ".*~" :: listing.ignored }
  | 'C' => { listing with detail := .columns false }
  | 'x' => { listing with detail := .columns true }
  | 'm' => { listing with detail := .commas }
  | 'd' => { listing with isPlain := true }
  | 'f' => { listing with leavesOut := .nothing, order := .none }
  | 'F' => { listing with marking := if argument = "never" then .none else .all }
  | 'p' => { listing with marking := .directories }
  | '\x01' => { listing with marking := .types }
  | 'g' => { listing with detail := .long, hidesOwner := true }
  | 'G' => { listing with hidesGroup := true }
  | 'h' => { listing with isReadable := true }
  | 'H' => { listing with following := some .named }
  | 'L' => { listing with following := some .every }
  | 'i' => { listing with tellsIdentity := true }
  | 'I' => { listing with ignored := argument :: listing.ignored }
  | '\x02' => { listing with ignoredUsually := argument :: listing.ignoredUsually }
  | 'l' => { listing with detail := .long }
  | 'n' => { listing with detail := .long, isNumeric := true }
  | 'o' => { listing with detail := .long, hidesGroup := true }
  | 'Q' => { listing with style := .quoted }
  | 'b' => { listing with style := .escaped }
  | 'N' => { listing with style := .plain }
  | 'q' => { listing with masksOthers := true }
  | 'r' => { listing with isReversed := true }
  | 'R' => { listing with isRecursive := true }
  | 's' => { listing with tellsBlocks := true }
  | 'S' => { listing with order := .size }
  | 't' => { listing with order := .moment }
  | 'U' => { listing with order := .none }
  | 'X' => { listing with order := .ending }
  | 'v' => { listing with order := .version }
  | 'w' => { listing with width := Text.number (argument.toList.filter Char.isDigit) }
  | '1' => { listing with detail := if listing.detail = .long then .long else .lines }
  | '\x03' =>
      { listing with
        order := match choice? argument orderWords with
          | some "size" => .size
          | some "time" => .moment
          | some "none" => .none
          | some "extension" => .ending
          | some "version" => .version
          | some "width" => .width
          | _ => .name }
  | '\x04' => { listing with endsInNul := true }
  | '\x07' => { listing with directoriesFirst := true }
  | '\x0c' =>
      { listing with
        detail := match choice? argument detailWords with
          | some "verbose" => .long
          | some "commas" => .commas
          | some "horizontal" => .columns true
          | some "vertical" => .columns false
          | _ => .lines }
  | '\x0e' =>
      { listing with
        style := match choice? argument styleWords with
          | some "c" | some "c-maybe" => .quoted
          | some "escape" => .escaped
          | some "shell" | some "shell-escape" => .scripted false
          | some "shell-always" | some "shell-escape-always" => .scripted true
          | some "locale" | some "clocale" => .scripted true
          | _ => .plain }
  | '\x0f' =>
      { listing with
        marking := match choice? argument markingWords with
          | some "slash" => .directories
          | some "file-type" => .types
          | some "classify" => .all
          | _ => .none }
  | _ => listing

end Listing

def listForms : List OptionForm :=
  letterForms "bcCDfgGikNoquvxZ" ++
  [{ letter := 'a', word := "all" }, { letter := 'A', word := "almost-all" },
    { letter := 'B', word := "ignore-backups" }, { letter := 'd', word := "directory" },
    { letter := 'F' }, { letter := 'F', word := "classify", taking := .optional },
    { letter := '\x01', word := "file-type" }, { letter := 'h', word := "human-readable" },
    { letter := 'H', word := "dereference-command-line" },
    { letter := 'L', word := "dereference" }, { letter := 'l' }, { letter := 'm' },
    { letter := 'n', word := "numeric-uid-gid" }, { letter := 'p' }, { letter := 'p', word := "p" },
    { letter := 'Q', word := "quote-name" }, { letter := 'r', word := "reverse" },
    { letter := 'R', word := "recursive" }, { letter := 's', word := "size" }, { letter := 'S' },
    { letter := 't' }, { letter := 'U' }, { letter := 'X' }, { letter := '1' },
    { letter := 'I', word := "ignore", taking := .required },
    { letter := '\x02', word := "hide", taking := .required },
    { letter := 'w', word := "width", taking := .required },
    { letter := 'T', word := "tabsize", taking := .required },
    { letter := '\x03', word := "sort", taking := .required },
    { letter := '\x04', word := "zero" }, { letter := '\x05', word := "color", taking := .optional },
    { letter := '\x06', word := "time", taking := .required },
    { letter := '\x07', word := "group-directories-first" },
    { letter := '\x08', word := "full-time" },
    { letter := '\x0b', word := "time-style", taking := .required },
    { letter := '\x0c', word := "format", taking := .required },
    { letter := '\x0e', word := "quoting-style", taking := .required },
    { letter := '\x0f', word := "indicator-style", taking := .required }]

def listFiles (program : String) (arguments : List String) : Program Nat :=
  withOptions program 2 listForms arguments fun taken => do
    for option in taken.options do
      if let some argument := option.argument then
        if let some (name, words) := Listing.wordOptions.lookup option.letter then
          if (choice? argument words).isNone then
            return ← wrongChoice program name argument words
        if (option.letter = 'w' || option.letter = 'T') && (digits? argument.toList).isNone then
          let size := if option.letter = 'w' then "line width" else "tab size"
          complain program ("invalid " ++ size ++ ": " ++ quoteText argument)
          return 2
    let usual : Listing := { program }
    let listing := taken.options.foldl Listing.with' usual
    let staysAtLinks := listing.isPlain || listing.marking = .all || listing.detail = .long
    let operands := if taken.operands = [] then ["."] else taken.operands
    Work.finish program 2 do
      let mut files : List Listed := []
      let mut directories : List Listed := []
      for path in operands do
        let found : Except Cause Listed ← Program.ask fun system =>
          let disk := system.seen
          let text := Raw.toText path
          let followed := disk.find text
          let kept := disk.findLink text
          let found := match listing.following with
            | some .every => followed
            | some _ => match followed with
                | .ok (.present _ _) => followed
                | _ => kept
            | none =>
                if staysAtLinks then kept
                else match followed with
                  | .ok (.present _ .directory) => followed
                  | _ => kept
          match found with
          | .ok (.present place entry) =>
              .ok (Listing.listedOf system disk path place entry)
          | .ok (.absent _ _) => .error Cause.notFound
          | .error cause => .error cause
        match found with
        | .error cause =>
            Work.refuse program
              ("cannot access " ++ quoteName path ++ ": " ++ describeCause cause) 2
        | .ok item =>
            if item.entry = .directory && !listing.isPlain then
              directories := directories ++ [item]
            else files := files ++ [item]
      let shown := listing.shown (listing.sorted files)
      Work.say shown
      let isHeaded := 1 < operands.length || listing.isRecursive
      let mut isAfter := !files.isEmpty
      for item in listing.sorted directories do
        isAfter ← listing.directory isHeaded deepest isAfter item.name

end SnippetSandbox.Utility
