import SnippetSandbox.Shell.Pattern
import SnippetSandbox.Text.Digits
import SnippetSandbox.Text.Expression

/-!
# How expressions are written

There are two ways to write expressions.  In the plain one most signs stand for
themselves unless a backslash is in front of them; in the extended one it is the other
way round.
-/

namespace SnippetSandbox.Utility

open Text

/-- What is wrong with a written expression. -/
inductive WordingProblem
  | unmatchedBracket
  | unmatchedGroup
  | unmatchedGroupEnd
  | unmatchedInterval
  | badInterval
  | badRange
  | badClass
  | badCollation
  | bareClass
  | trailingBackslash
  | badReference
  | tooBig
  | incomplete
  deriving DecidableEq, Repr

def WordingProblem.message : WordingProblem → String
  | .unmatchedBracket => "Unmatched [, [^, [:, [., or [="
  | .unmatchedGroup => "Unmatched ( or \\("
  | .unmatchedGroupEnd => "Unmatched ) or \\)"
  | .unmatchedInterval => "Unmatched \\\x7b"
  | .badInterval => "Invalid content of \\\x7b\\\x7d"
  | .badRange => "Invalid range end"
  | .badClass => "Invalid character class name"
  | .badCollation => "Invalid collation character"
  | .bareClass => "character class syntax is [[:space:]], not [:space:]"
  | .trailingBackslash => "Trailing backslash"
  | .badReference => "Invalid back reference"
  | .tooBig => "Regular expression too big"
  | .incomplete => "Invalid regular expression"

/-- How an expression is written. -/
structure Wording where
  isExtended : Bool
  foldsCase : Bool

/-- How far an expression has been read. -/
structure WordingState where
  rest : List Char
  groups : Nat := 0
  depth : Nat := 0
  /-- The signs with nothing in front of them that they could repeat, the last first. -/
  startSigns : List String := []

/-- Reads a part of an expression. -/
abbrev Worded := StateT WordingState (Except WordingProblem)

namespace Wording

def eitherCase (character : Char) : List Char :=
  [character, character.toLower, character.toUpper]

def same (wording : Wording) (first second : Char) : Bool :=
  if wording.foldsCase then first.toLower = second.toLower else first = second

def oneOf (wording : Wording) (accepts : Char → Bool) : Expression :=
  .one fun character =>
    if wording.foldsCase then (eitherCase character).any accepts else accepts character

def exactly (wording : Wording) (character : Char) : Expression :=
  wording.oneOf (· = character)

/-! ## Sets in brackets -/

/-- A member of a set. -/
inductive SetMember
  | range (low high : Char)
  | named (name : String)
  deriving DecidableEq, Repr

def SetMember.has (character : Char) : SetMember → Bool
  | .range low high => low ≤ character && character ≤ high
  | .named name =>
      ((Shell.characterClasses.lookup name).map fun test => test character).getD false

/-- What stands in front of a mark with a bracket behind it, and what follows. -/
def upToMark (mark : Char) : List Char → Option (List Char × List Char)
  | first :: second :: rest =>
      if first = mark && second = ']' then some ([], rest)
      else (upToMark mark (second :: rest)).map fun (inner, behind) => (first :: inner, behind)
  | _ => none

def takeEnd : List Char → Except WordingProblem (Char × List Char)
  | [] => .error .unmatchedBracket
  | '[' :: '.' :: rest | '[' :: '=' :: rest =>
      match upToMark '.' rest, upToMark '=' rest with
      | some ([character], behind), _ | none, some ([character], behind) => .ok (character, behind)
      | none, none => .error .unmatchedBracket
      | _, _ => .error .badCollation
  | character :: rest => .ok (character, rest)

/-- The members of a set up to its bracket, and what follows.  `count` bounds the number
of steps. -/
def takeMembers : Nat → Bool → List Char → Except WordingProblem (List SetMember × List Char)
  | 0, _, _ | _, _, [] => .error .unmatchedBracket
  | count + 1, isFirst, text => do
      let goOn (member : SetMember) (rest : List Char) := do
        let (others, behind) ← takeMembers count false rest
        return (member :: others, behind)
      match text with
      | ']' :: rest => if isFirst then range goOn text else return ([], rest)
      | '[' :: ':' :: rest =>
          match upToMark ':' rest with
          | none => throw .unmatchedBracket
          | some (name, behind) =>
              if (Shell.characterClasses.lookup (String.ofList name)).isSome then
                goOn (.named (String.ofList name)) behind
              else throw .badClass
      | _ => range goOn text
where
  range (goOn : SetMember → List Char → Except WordingProblem (List SetMember × List Char))
      (text : List Char) : Except WordingProblem (List SetMember × List Char) := do
    let (low, rest) ← takeEnd text
    match rest with
    | '-' :: ']' :: _ => goOn (.range low low) rest
    | '-' :: behind =>
        let (high, behind) ← takeEnd behind
        if high < low then throw .badRange
        match behind with
        | '-' :: next :: _ => if next ≠ ']' then throw .badRange else goOn (.range low high) behind
        | _ => goOn (.range low high) behind
    | _ => goOn (.range low low) rest

def takeSet (wording : Wording) : Worded Expression := do
  let state ← get
  let (negated, inner) := match state.rest with
    | '^' :: rest => (true, rest)
    | rest => (false, rest)
  if inner = [] then throw .incomplete
  let (members, behind) ← takeMembers (inner.length + 1) true inner
  let written := inner.take (inner.length - behind.length - 1)
  let isBare := !negated && 3 ≤ written.length && written.head? = some ':' &&
    written.getLast? = some ':' && members.all fun member => match member with
      | .range low high => low = high
      | .named _ => false
  if isBare then throw .bareClass
  set { state with rest := behind }
  let has (character : Char) : Bool := members.any (SetMember.has character)
  if negated then
    return .one fun character =>
      !(if wording.foldsCase then (eitherCase character).any has else has character)
  else return wording.oneOf has

/-! ## Intervals -/

/-- How often something is repeated, or why that is not said. -/
inductive Interval
  | times (least : Nat) (most : Option Nat) (rest : List Char)
  | bad (problem : WordingProblem)
  | plain

def mostTimes : Nat := 32767

def interval (isExtended : Bool) (text : List Char) : Interval :=
  let digits := text.takeWhile Char.isDigit
  let behind := text.drop digits.length
  let (most, rest) : Option (List Char) × List Char := match behind with
    | ',' :: rest =>
        let most := rest.takeWhile Char.isDigit
        (some most, rest.drop most.length)
    | rest => (none, rest)
  let closed : Option (List Char) := match isExtended, rest with
    | true, '\x7d' :: behind => some behind
    | false, '\\' :: '\x7d' :: behind => some behind
    | _, _ => none
  let isEmpty := digits = [] && most.isNone
  match closed with
  | none =>
      if isExtended then .plain
      else
        let isOpen := (Wording.hasEnd rest) = false
        .bad (if isOpen then .unmatchedInterval else .badInterval)
  | some behind =>
      if isEmpty then .bad .badInterval
      else
        let least := number digits
        let upper : Option Nat := match most with
          | none => some least
          | some [] => none
          | some digits => some (number digits)
        if upper.any fun upper => upper < least then .bad .badInterval
        else if mostTimes < max least (upper.getD 0) then .bad .tooBig
        else .times least upper behind
where
  Wording.hasEnd : List Char → Bool
    | '\\' :: '\x7d' :: _ => true
    | _ :: rest => Wording.hasEnd rest
    | [] => false

/-! ## Expressions -/

def isBar (wording : Wording) : List Char → Bool
  | '|' :: _ => wording.isExtended
  | '\\' :: '|' :: _ => !wording.isExtended
  | _ => false

def isGroupEnd (wording : Wording) : List Char → Bool
  | ')' :: _ => wording.isExtended
  | '\\' :: ')' :: _ => !wording.isExtended
  | _ => false

/-- A repetition, with what follows its sign; none if there is no sign for one. -/
def repetition? (wording : Wording) (text : List Char) :
    Except WordingProblem (Option (Nat × Option Nat × String × List Char)) :=
  let ofInterval (rest : List Char) :=
    match interval wording.isExtended rest with
    | .times least most behind => .ok (some (least, most, "\x7b...\x7d", behind))
    | .bad problem => .error problem
    | .plain => .ok none
  match wording.isExtended, text with
  | _, '*' :: rest => .ok (some (0, none, "*", rest))
  | true, '+' :: rest => .ok (some (1, none, "+", rest))
  | true, '?' :: rest => .ok (some (0, some 1, "?", rest))
  | true, '\x7b' :: rest => ofInterval rest
  | false, '\\' :: '+' :: rest => .ok (some (1, none, "+", rest))
  | false, '\\' :: '?' :: rest => .ok (some (0, some 1, "?", rest))
  | false, '\\' :: '\x7b' :: rest => ofInterval rest
  | _, _ => .ok none

/-- An expression with the repetitions that follow it.  `count` bounds their number. -/
def withRepetitions (wording : Wording) : Nat → Expression → Worded Expression
  | 0, expression => return expression
  | count + 1, expression => do
      match ← (wording.repetition? (← get).rest : Except WordingProblem _) with
      | none => return expression
      | some (least, most, _, behind) =>
          modify fun state => { state with rest := behind }
          withRepetitions wording count (.repeated expression least most)

def escaped (wording : Wording) (letter : Char) : Expression :=
  let isBlank (character : Char) : Bool :=
    character = ' ' || ('\t' ≤ character && character ≤ '\r')
  match letter with
  | 'w' => .one Expression.isWordCharacter
  | 'W' => .one fun character => !Expression.isWordCharacter character
  | 's' => .one isBlank
  | 'S' => .one fun character => !isBlank character
  | 'b' => .edge true
  | 'B' => .edge false
  | '<' => .wordStart
  | '>' => .wordFinish
  | '\x60' => .start
  | '\'' => .finish
  | letter => wording.exactly letter

def goTo (rest : List Char) : Worded Unit := modify fun state => { state with rest }

mutual

/-- Read alternatives.  `count` bounds the number of steps. -/
def alternatives (wording : Wording) : Nat → Worded Expression
  | 0 => throw .tooBig
  | count + 1 => do
      let first ← wording.pieces true count .empty
      let rest := (← get).rest
      if wording.isBar rest then
        goTo (rest.drop (if wording.isExtended then 1 else 2))
        return .either first (← wording.alternatives count)
      else return first

/-- Read what stands behind one another.  `isStart` tells that nothing stands in front
that could be repeated. -/
def pieces (wording : Wording) (isStart : Bool) : Nat → Expression → Worded Expression
  | 0, _ => throw .tooBig
  | count + 1, before => do
      let state ← get
      if state.rest = [] || wording.isBar state.rest ||
          (wording.isGroupEnd state.rest && 0 < state.depth) then
        return before
      let (isStillStart, piece) ← wording.piece isStart count
      wording.pieces isStillStart count (.both before piece)

/-- Read one piece with its repetitions; the result tells too whether nothing stands in
front of the next piece that could be repeated. -/
def piece (wording : Wording) (isStart : Bool) : Nat → Worded (Bool × Expression)
  | 0 => throw .tooBig
  | count + 1 => do
      let state ← get
      let repeated (expression : Expression) : Worded (Bool × Expression) := do
        return (false, ← wording.withRepetitions (state.rest.length + 1) expression)
      let plain (character : Char) (rest : List Char) : Worded (Bool × Expression) := do
        goTo rest
        repeated (wording.exactly character)
      let grouped (rest : List Char) : Worded (Bool × Expression) := do
        let number := state.groups + 1
        set { state with rest, groups := number, depth := state.depth + 1 }
        let inner ← wording.alternatives count
        let state ← get
        if !wording.isGroupEnd state.rest then throw .unmatchedGroup
        let behind := state.rest.drop (if wording.isExtended then 1 else 2)
        set { state with rest := behind, depth := state.depth - 1 }
        repeated (.group number inner)
      if wording.isExtended && isStart then
        if let some (_, _, sign, _) ← (wording.repetition? state.rest : Except WordingProblem _) then
          set { state with startSigns := sign :: state.startSigns }
          return ← repeated .empty
      match wording.isExtended, state.rest with
      | _, [] => return (isStart, .empty)
      | _, '.' :: rest =>
          goTo rest
          repeated (.one fun _ => true)
      | _, '[' :: rest =>
          goTo rest
          repeated (← wording.takeSet)
      | true, '(' :: rest => grouped rest
      | true, '^' :: rest =>
          goTo rest
          return (true, .start)
      | true, '$' :: rest =>
          goTo rest
          repeated .finish
      | false, '^' :: rest =>
          if isStart then
            goTo rest
            return (true, .start)
          else plain '^' rest
      | false, '$' :: rest =>
          if rest = [] || wording.isBar rest || wording.isGroupEnd rest then
            goTo rest
            repeated .finish
          else plain '$' rest
      | _, ['\\'] => throw .trailingBackslash
      | isExtended, '\\' :: letter :: rest =>
          if !isExtended && letter = '(' then grouped rest
          else if !isExtended && letter = ')' then throw .unmatchedGroupEnd
          else if '1' ≤ letter && letter ≤ '9' then
            let number := letter.toNat - 48
            if state.groups < number then throw .badReference
            goTo rest
            repeated (.again number)
          else
            goTo rest
            repeated (wording.escaped letter)
      | _, character :: rest => plain character rest

end

/-- Read an expression; the result holds the signs too that have nothing to repeat. -/
def read (wording : Wording) (text : List Char) :
    Except WordingProblem (Expression × List String) := do
  let count := 4 * text.length + 16
  let (expression, state) ← (wording.alternatives count).run { rest := text }
  return (expression, state.startSigns.reverse)

end Wording

end SnippetSandbox.Utility
