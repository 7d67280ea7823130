import SnippetSandbox.Shell.Condition
import SnippetSandbox.Utility.Report

/-!
# A program for conditions

The program tells by its status whether a condition holds that its arguments spell.  How
they are read depends on how many there are, so that an operand may look like an operator.
-/

namespace SnippetSandbox.Utility

open FileSystem Kernel Shell

namespace Truth

def comparisons : List String :=
  ["=", "==", "!=", "-eq", "-ne", "-lt", "-le", "-gt", "-ge", "-nt", "-ot", "-ef"]

def fileTests : List Char := "ebcdfgGhkLNOprsStuwx".toList

/-- What is asked about, and the arguments seen from their end. -/
structure Question where
  view : Condition.View
  last : String
  behind : Option String

/-- The reading of a condition, which uses up arguments until something is wrong with
them. -/
abbrev Reading := StateT (List String) (Except String)

def Question.fallShort {Value : Type} (question : Question) : Reading Value :=
  throw ("missing argument after " ++ quoteText question.last)

/-- Use up an argument; more may have to follow. -/
def Question.advance (question : Question) (isMoreNeeded : Bool) : Reading Unit := do
  modify List.tail
  if isMoreNeeded && (← get).isEmpty then question.fallShort

def Question.next (question : Question) : Reading String := do
  match ← get with
  | [] => question.fallShort
  | argument :: rest =>
      set rest
      return argument

def integer (text : String) : Except String Int :=
  let (sign, written) := takeSign (text.toList.dropWhile isSpace)
  let digits := written.takeWhile Char.isDigit
  let rest := (written.drop digits.length).dropWhile fun letter => letter = ' ' || letter = '\t'
  if digits = [] || rest ≠ [] then .error ("invalid integer " ++ quoteText text)
  else .ok (sign * Int.ofNat (Text.number digits))

def compare (view : Condition.View) (leftIsLength rightIsLength : Bool)
    (left operator right : String) : Except String Bool := do
  let number (isLength : Bool) (text : String) : Except String Int :=
    if isLength then .ok text.length else integer text
  let numbers (holds : Int → Int → Bool) : Except String Bool := do
    return holds (← number leftIsLength left) (← number rightIsLength right)
  let moments (holds : Option Nat → Option Nat → Bool) : Except String Bool :=
    if leftIsLength || rightIsLength then .error (operator ++ " does not accept -l")
    else .ok (holds (view.moment? left) (view.moment? right))
  match operator with
  | "=" | "==" => return left = right
  | "!=" => return left ≠ right
  | "-eq" => numbers (· = ·)
  | "-ne" => numbers (· ≠ ·)
  | "-lt" => numbers (· < ·)
  | "-le" => numbers (· ≤ ·)
  | "-gt" => numbers fun first second => second < first
  | "-ge" => numbers fun first second => second ≤ first
  | "-nt" => moments fun first second => first.any fun moment => second.all (· < moment)
  | "-ot" => moments fun first second => second.any fun moment => first.all (· < moment)
  | _ => return (Condition.testTwo view left operator right).toOption.getD false

namespace Question

def text (question : Question) : Reading Bool := do
  return (← question.next) ≠ ""

def binary (question : Question) (leftIsLength : Bool) : Reading Bool := do
  if leftIsLength then question.advance false
  let left ← question.next
  let operator ← question.next
  let rightIsLength := match ← get with
    | "-l" :: _ :: _ => true
    | _ => false
  if rightIsLength then question.advance false
  compare question.view leftIsLength rightIsLength left operator (← question.next)

def isUnary (argument : String) : Bool :=
  match argument.toList with
  | ['-', _] => true
  | _ => false

def unary (question : Question) : Reading Bool := do
  let operator := (← get).headD ""
  let letter := operator.toList.getLastD ' '
  if !(fileTests.contains letter || letter = 'n' || letter = 'z') then
    throw (quoteText operator ++ ": unary operator expected")
  question.advance true
  let operand ← question.next
  if letter = 't' then
    let _ ← (integer operand : Except String Int)
    return false
  else
    match Condition.testOne question.view operator operand with
    | .ok holds => return holds
    | .error _ => return false

def two (question : Question) : Reading Bool := do
  match ← get with
  | "!" :: _ =>
      question.advance false
      return !(← question.text)
  | first :: _ => if isUnary first then question.unary else question.fallShort
  | [] => question.fallShort

mutual

def three (question : Question) : Nat → Reading Bool
  | 0 => question.fallShort
  | steps + 1 => do
      match ← get with
      | first :: second :: others =>
          if comparisons.contains second then question.binary false
          else if first = "!" then
            question.advance true
            return !(← question.two)
          else if first = "(" && others.head? = some ")" then
            question.advance false
            let holds ← question.text
            question.advance false
            return holds
          else if second = "-a" || second = "-o" then question.oneOf steps
          else throw (quoteText second ++ ": binary operator expected")
      | _ => question.fallShort

def counted (question : Question) : Nat → Nat → Reading Bool
  | 0, _ => question.fallShort
  | steps + 1, count => do
      match count, ← get with
      | 1, _ => question.text
      | 2, _ => question.two
      | 3, _ => question.three steps
      | 4, "!" :: _ => do
          question.advance true
          return !(← question.three steps)
      | 4, "(" :: _ :: _ :: ")" :: _ => do
          question.advance false
          let holds ← question.two
          question.advance false
          return holds
      | _, _ => question.oneOf steps

/-- Parts of which one has to hold.  `steps` bounds how deep parts are nested. -/
def oneOf (question : Question) : Nat → Reading Bool
  | 0 => question.fallShort
  | steps + 1 => do
      let first ← question.allOf steps
      match ← get with
      | "-o" :: _ =>
          question.advance false
          return (← question.oneOf steps) || first
      | _ => return first

def allOf (question : Question) : Nat → Reading Bool
  | 0 => question.fallShort
  | steps + 1 => do
      let first ← question.part steps
      match ← get with
      | "-a" :: _ =>
          question.advance false
          return (← question.allOf steps) && first
      | _ => return first

def part (question : Question) : Nat → Reading Bool
  | 0 => question.fallShort
  | steps + 1 => do
      match ← get with
      | [] => question.fallShort
      | "!" :: _ => do
          question.advance true
          return !(← question.part steps)
      | "(" :: _ => do
          question.advance true
          let arguments ← get
          let inner := 1 + (arguments.tail.takeWhile (· ≠ ")")).length
          let holds ← question.counted steps (if inner < 4 then inner else arguments.length)
          match (← get).head?.or question.behind with
          | none => throw "')' expected"
          | some ")" =>
              question.advance false
              return holds
          | some found => throw ("')' expected, found " ++ quoteText found)
      | "-l" :: _ :: operator :: _ :: _ =>
          if comparisons.contains operator then question.binary true else question.unary
      | first :: operator :: _ :: _ =>
          if comparisons.contains operator then question.binary false
          else if isUnary first then question.unary
          else question.text
      | first :: _ => if isUnary first then question.unary else question.text

end

end Question

def answer (view : Condition.View) (behind : Option String) (arguments : List String) :
    Except String Bool := do
  if arguments = [] then return false
  let question : Question := { view, last := arguments.getLastD "", behind }
  let (holds, rest) ← (question.counted (8 * arguments.length + 8) arguments.length).run arguments
  match rest with
  | [] => return holds
  | extra :: _ => throw ("extra argument " ++ quoteText extra)

end Truth

def testWords (program : String) (isBracket : Bool) (arguments : List String) :
    Program Nat := do
  if isBracket && arguments.getLast? ≠ some "]" then
    complain program "missing ']'"
    return 2
  let view : Condition.View ← Program.ask fun system =>
    { disk := system.seen, changed := system.changeOf, beginning := System.beginning - 1 }
  let condition := if isBracket then arguments.dropLast else arguments
  match Truth.answer view (if isBracket then some "]" else none) condition with
  | .ok holds => return if holds then 0 else 1
  | .error problem =>
      complain program problem
      return 2

end SnippetSandbox.Utility
