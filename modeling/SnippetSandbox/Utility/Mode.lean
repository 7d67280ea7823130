import SnippetSandbox.Shell.Number

/-!
# Permissions

What may be done with a file is a number of bits, three for the owner, three for the
group and three for all others.  A change of permissions is an octal number, or says
for whom something is added, taken away or set.
-/

namespace SnippetSandbox.Utility.Mode

/-- What a clause is about, besides single permissions. -/
inductive Asked
  /-- Bits, and whether a file can be executed if somebody already can. -/
  | bits (bits : Nat) (executesAgain : Bool)
  | copied (from' : Nat)
  deriving DecidableEq, Repr

/-- Part of a change: for whom, what to do, and what it is about.  Nobody is named when
the mask of the process counts. -/
structure Clause where
  whom : Option Nat
  sign : Char
  asked : Asked
  deriving DecidableEq, Repr

/-- A change of permissions. -/
inductive Change
  | all (bits : Nat)
  | clauses (clauses : List Clause)
  deriving DecidableEq, Repr

def bitsOf? : Char → Option Nat
  | 'u' => some 0o4700
  | 'g' => some 0o2070
  | 'o' => some 0o1007
  | 'a' => some 0o7777
  | _ => none

def sharesOf? : Char → Option Nat
  | 'u' => some 6
  | 'g' => some 3
  | 'o' => some 0
  | _ => none

def readPermissions : List Char → Nat → Bool → Asked × List Char
  | 'r' :: rest, bits, again => readPermissions rest (bits ||| 0o444) again
  | 'w' :: rest, bits, again => readPermissions rest (bits ||| 0o222) again
  | 'x' :: rest, bits, again => readPermissions rest (bits ||| 0o111) again
  | 'X' :: rest, bits, _ => readPermissions rest bits true
  | 's' :: rest, bits, again => readPermissions rest (bits ||| 0o6000) again
  | 't' :: rest, bits, again => readPermissions rest (bits ||| 0o1000) again
  | rest, bits, again => (.bits bits again, rest)

def readAsked : List Char → Asked × List Char
  | letter :: rest =>
      match sharesOf? letter with
      | some share => (.copied share, rest)
      | none => readPermissions (letter :: rest) 0 false
  | [] => (.bits 0 false, [])

def readClauses (whom : Option Nat) : Nat → List Char → Option (List Clause)
  | 0, _ => none
  | count + 1, sign :: rest =>
      if sign = '+' || sign = '-' || sign = '=' then
        let octal := rest.takeWhile Shell.isOctal
        let (asked, behind) :=
          if octal = [] then readAsked rest
          else (.bits (Shell.octalValue octal) false, rest.drop octal.length)
        let isWhole := whom.isNone && behind = []
        if octal ≠ [] && !(isWhole && Shell.octalValue octal ≤ 0o7777) then none
        else
        let clause : Clause := { whom := if octal = [] then whom else some 0o7777, sign, asked }
        match behind with
        | [] => some [clause]
        | _ => (readClauses whom count behind).map (clause :: ·)
      else none
  | _, [] => none

def readPart (text : List Char) : Option (List Clause) :=
  let named := text.takeWhile fun letter => (bitsOf? letter).isSome
  let whom := if named = [] then none
    else some ((named.filterMap bitsOf?).foldl (· ||| ·) 0)
  readClauses whom (text.length + 1) (text.drop named.length)

def parts : List Char → List (List Char)
  | [] => [[]]
  | ',' :: rest => [] :: parts rest
  | character :: rest =>
      match parts rest with
      | first :: others => (character :: first) :: others
      | [] => [[character]]

def read? (text : String) : Option Change :=
  match text.toList with
  | [] => none
  | characters =>
      if characters.all Shell.isOctal then
        let bits := Shell.octalValue characters
        if bits ≤ 0o7777 then some (.all bits) else none
      else ((parts characters).mapM readPart).map fun given => .clauses given.flatten

def Clause.apply (isDirectory : Bool) (mask bits : Nat) (clause : Clause) : Nat :=
  let value := match clause.asked with
    | .bits value again =>
        if again && (isDirectory || bits &&& 0o111 ≠ 0) then value ||| 0o111 else value
    | .copied share => ((bits >>> share) &&& 7) * 0o111
  let whom := clause.whom.getD 0o7777
  let kept := match clause.whom with
    | some _ => value &&& whom
    | none => value - (value &&& mask)
  match clause.sign with
  | '+' => bits ||| kept
  | '-' => bits - (bits &&& kept)
  | _ => (bits - (bits &&& whom)) ||| kept

def Change.apply (isDirectory : Bool) (mask bits : Nat) : Change → Nat
  | .all value => value
  | .clauses given => given.foldl (fun bits clause => clause.apply isDirectory mask bits) bits

def letters (bits : Nat) : String :=
  let triple (share : Nat) (special : Bool) (sign : Char) : List Char :=
    let own := bits >>> share
    [if own &&& 4 ≠ 0 then 'r' else '-', if own &&& 2 ≠ 0 then 'w' else '-',
      if special then (if own &&& 1 ≠ 0 then sign else sign.toUpper)
      else if own &&& 1 ≠ 0 then 'x' else '-']
  String.ofList (triple 6 (bits &&& 0o4000 ≠ 0) 's' ++ triple 3 (bits &&& 0o2000 ≠ 0) 's' ++
    triple 0 (bits &&& 0o1000 ≠ 0) 't')

def octal (bits : Nat) : String :=
  let digits := Nat.toDigits 8 bits
  String.ofList (List.replicate (4 - digits.length) '0' ++ digits)

end SnippetSandbox.Utility.Mode
