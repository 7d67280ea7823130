import SnippetSandbox.Utility.Report

/-!
# When files were changed

A file can be given another moment of its last change, and is made if it is not there.
Moments are written as dates or said in words.
-/

namespace SnippetSandbox.Utility

open FileSystem Kernel

/-! ## Dates -/

/-- The days of a year before each month, in a year without a leap day. -/
def daysBeforeMonth : Array Nat := #[0, 31, 59, 90, 120, 151, 181, 212, 243, 273, 304, 334]

def isLeapYear (year : Nat) : Bool :=
  year % 4 = 0 && (year % 100 ≠ 0 || year % 400 = 0)

/-- How many leap days there were before a year. -/
def leapDaysBefore (year : Nat) : Nat :=
  (year - 1) / 4 - (year - 1) / 100 + (year - 1) / 400

def daysOf (year month day : Nat) : Nat :=
  (year - 1970) * 365 + (leapDaysBefore year - leapDaysBefore 1970) +
    daysBeforeMonth.getD (month - 1) 0 +
    (if isLeapYear year && 2 < month then 1 else 0) + (day - 1)

def daysInMonth (year month : Nat) : Nat :=
  match month with
  | 2 => if isLeapYear year then 29 else 28
  | 4 | 6 | 9 | 11 => 30
  | _ => 31

/-- The seconds since 1970 of a date with a time, if there is such a date. -/
def secondsOf? (year month day hour minute second : Nat) : Option Nat :=
  if 1970 ≤ year && 1 ≤ month && month ≤ 12 && 1 ≤ day && day ≤ daysInMonth year month &&
      hour < 24 && minute < 60 && second ≤ 60 then
    some (((daysOf year month day * 24 + hour) * 60 + minute) * 60 + second)
  else none

def presentYear : Nat := 2025

def pairs : List Char → List Nat
  | first :: second :: rest => Text.number [first, second] :: pairs rest
  | _ => []

/-- The seconds since 1970 of a date as a row of digits: century, year, month, day, hour,
minute, of which the first two may be missing, and maybe a point and the second. -/
def readStamp? (text : String) : Option Nat :=
  let digits := text.toList.takeWhile (· ≠ '.')
  let second := match text.toList.drop digits.length with
    | [] => some 0
    | ['.', first, last] =>
        if first.isDigit && last.isDigit then some (Text.number [first, last]) else none
    | _ => none
  if !digits.all Char.isDigit then none
  else
    match digits.length, pairs digits, second with
    | 8, [month, day, hour, minute], some second =>
        secondsOf? presentYear month day hour minute second
    | 10, [short, month, day, hour, minute], some second =>
        secondsOf? (if short < 69 then 2000 + short else 1900 + short) month day hour minute second
    | 12, [century, short, month, day, hour, minute], some second =>
        secondsOf? (century * 100 + short) month day hour minute second
    | _, _, _ => none

def wordsOf (text : String) : List String :=
  ((Text.splitOn ' ' text.toList).filter (· ≠ [])).map String.ofList

def numbersBetween? (mark : Char) (text : List Char) : Option (List Nat) :=
  (Text.splitOn mark text).mapM digits?

def readTime? (text : List Char) : Option (Nat × Nat × Nat) :=
  let plain := if text.getLast? = some 'Z' then text.dropLast else text
  match numbersBetween? ':' plain with
  | some [hour, minute] => some (hour, minute, 0)
  | some [hour, minute, second] => some (hour, minute, second)
  | _ => none

def unitSeconds? (unit : String) : Option Nat :=
  let single := if unit.endsWith "s" then String.ofList unit.toList.dropLast else unit
  match single with
  | "second" | "sec" => some 1
  | "minute" | "min" => some 60
  | "hour" => some 3600
  | "day" => some 86400
  | "week" => some 604800
  | "month" => some 2592000
  | "year" => some 31536000
  | _ => none

/-- The seconds since 1970 of a date or of words for one, seen from the present. -/
def readDate? (now : Nat) (text : String) : Option Nat :=
  let ofDay (date : List Char) (time : Nat × Nat × Nat) : Option Nat :=
    match numbersBetween? '-' date with
    | some [year, month, day] => secondsOf? year month day time.1 time.2.1 time.2.2
    | _ => none
  match wordsOf (text.map fun letter => if letter = 'T' then ' ' else letter.toLower) with
  | ["now"] | ["today"] => some now
  | ["yesterday"] => some (now - 86400)
  | ["tomorrow"] => some (now + 86400)
  | [date] =>
      match date.toList with
      | '@' :: digits => digits? digits
      | date => ofDay date (0, 0, 0)
  | [count, unit, "ago"] =>
      match digits? count.toList, unitSeconds? unit with
      | some count, some seconds => some (now - count * seconds)
      | _, _ => none
  | date :: time :: zone =>
      match unitSeconds? time, date.toList with
      | some seconds, '-' :: digits => (digits? digits).map fun count => now - count * seconds
      | some seconds, '+' :: digits => (digits? digits).map fun count => now + count * seconds
      | some seconds, digits => (digits? digits).map fun count => now + count * seconds
      | none, date =>
          if zone = [] || zone = ["utc"] || zone = ["z"] then
            (readTime? time.toList).bind (ofDay date)
          else none
  | [] => some now

/-! ## Changing moments -/

def dateForms : List OptionForm :=
  [{ letter := 'a' }, { letter := 'c', word := "no-create" },
    { letter := 'd', word := "date", taking := .required }, { letter := 'f' },
    { letter := 'h', word := "no-dereference" }, { letter := 'm' },
    { letter := 'r', word := "reference", taking := .required },
    { letter := 't', taking := .required },
    { letter := '\x01', word := "time", taking := .required }]

/-- Let a file look as if it had been changed at some moment, in ticks since 1970, or
just now. -/
def setMoment (moment : Option Nat) (identity : Nat) : Program Unit :=
  Program.modify fun system => match moment with
    | none => system.touch identity
    | some ticks =>
        { system with
          changed := (identity, ticks) :: system.changed.filter (·.1 ≠ identity) }

/-- Give a file a moment; it is made if it is not there. -/
def touchFile (program : String) (makes : Bool) (moment : Option Nat) (path : String) :
    Work Unit := do
  let refuse (cause : Cause) (verb : String) : Work Unit :=
    Work.refuse program (verb ++ quoteName path ++ ": " ++ describeCause cause) 1
  match ← Program.askDisk fun disk => disk.find (Raw.toText path) with
  | .ok (.present _ (.file identity _ _)) => setMoment moment identity
  | .ok (.present _ _) => return ()
  | .ok (.absent _ asDirectory) =>
      if asDirectory then
        if makes then refuse .notFound "setting times of "
      else if makes then
        match ← Program.onDisk (openForWriting (Raw.toText path) false false) with
        | .ok (.file _ identity _) => if moment.isSome then setMoment moment identity
        | .ok (.device _) => return ()
        | .error cause => refuse cause "cannot touch "
  | .error cause =>
      if makes && !Path.endsInSlash path then refuse cause "cannot touch "
      else if makes || cause ≠ .notFound then refuse cause "setting times of "

/-- Give an entry a moment; a link gets it itself.  `isNeeded` tells that the entry has to
be there. -/
def touchLink (program : String) (isNeeded : Bool) (moment : Option Nat) (path : String) :
    Work Unit := do
  let refuse (cause : Cause) : Work Unit :=
    Work.refuse program ("setting times of " ++ quoteName path ++ ": " ++ describeCause cause) 1
  match ← Program.askDisk fun disk => disk.findLink (Raw.toText path) with
  | .ok (.present _ (.file identity _ _)) => setMoment moment identity
  | .ok (.present _ _) => return ()
  | .ok (.absent _ _) => if isNeeded then refuse .notFound
  | .error cause => if isNeeded || cause ≠ .notFound then refuse cause

/-- The moment that options ask for, in ticks since 1970; none stands for the present. -/
def momentFrom (taken : TakenApart) : Program (Except String (Option Nat)) := do
  let perSecond := Time.Span.perSecond / System.tick
  let now ← Program.ask fun system => System.beginning / perSecond + system.now / 1000000000
  let read (text : String) (seconds : Option Nat) : Except String (Option Nat) :=
    match seconds with
    | some seconds => .ok (some (seconds * perSecond))
    | none => .error ("invalid date format " ++ quoteText text)
  match taken.argument? 'r', taken.argument? 't', taken.argument? 'd' with
  | some path, _, _ =>
      match ← Program.askDisk fun disk => disk.entryAt? (Raw.toText path) with
      | .ok (.file identity _ _) =>
          return .ok (some (← Program.ask fun system => system.changeOf identity))
      | .ok _ => return .ok (some (System.beginning - 1))
      | .error cause =>
          return .error ("failed to get attributes of " ++ quoteName path ++ ": " ++
            describeCause cause)
  | none, some stamp, _ => return read stamp (readStamp? stamp)
  | none, none, some date => return read date (readDate? now date)
  | none, none, none => return .ok none

/-- Let files look as if they had been changed, just now or at some moment. -/
def touchFiles (program : String) (arguments : List String) : Program Nat :=
  withOptions program 1 dateForms arguments fun taken => do
    match ← momentFrom taken with
    | .error problem =>
        complain program problem
        return 1
    | .ok moment =>
        if taken.operands = [] then return ← misuse program "missing file operand" 1
        Work.finish program 1 do
          for path in taken.operands do
            if path ≠ "-" then
              if taken.has 'h' then touchLink program (!taken.has 'c') moment path
              else touchFile program (!taken.has 'c') moment path

end SnippetSandbox.Utility
