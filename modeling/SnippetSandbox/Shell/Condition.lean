import SnippetSandbox.FileSystem.Rearrange
import SnippetSandbox.Shell.Number
import SnippetSandbox.Text.Raw

/-!
# Conditions

A condition is spelt by arguments: texts, tests of one and of two operands, and
connectives between them.  Whether a word is an operator or an operand depends
on what stands behind it.
-/

namespace SnippetSandbox.Shell.Condition

open FileSystem

/-- What conditions ask about: the files, and when each of them was changed. -/
structure View where
  disk : Disk
  changed : Nat → Nat
  beginning : Nat

def View.entryAt? (view : View) (path : String) : Option Entry :=
  (view.disk.entryAt? (Raw.toText path)).toOption

def View.moment? (view : View) (path : String) : Option Nat :=
  (view.entryAt? path).map fun
    | .file identity _ _ => view.changed identity
    | _ => view.beginning

/-- Why arguments spell no condition. -/
inductive Problem
  | unexpectedOperator (text : String)
  | missingOperand (operator : String)
  | missingParenthesis
  | badNumber (text : String)
  deriving DecidableEq, Repr

def Problem.message : Problem → String
  | .unexpectedOperator text => text ++ ": unexpected operator"
  | .missingOperand operator => operator ++ ": argument expected"
  | .missingParenthesis => "closing paren expected"
  | .badNumber text => "Illegal number: " ++ text

def single : List String :=
  ["-n", "-z", "-e", "-r", "-w", "-f", "-d", "-x", "-L", "-h", "-s", "-t", "-b", "-c", "-p", "-S",
    "-u", "-g", "-k", "-O", "-G"]

def double : List String :=
  ["=", "!=", "<", ">", "-eq", "-ne", "-lt", "-le", "-gt", "-ge", "-nt", "-ot", "-ef"]

def connectives : List String := ["!", "-a", "-o", "(", ")"]

/-- The first of some arguments stands for itself, though it is spelt like a test of
one operand. -/
def standsAlone : List String → Bool
  | [] | [_] => true
  | [_, _] => false
  | _ :: next :: _ => double.contains next

/-- What the first argument is: an operator, none if it is an operand or missing. -/
def operator? : List String → Option String
  | [] => none
  | text :: others =>
      if single.contains text then if standsAlone (text :: others) then none else some text
      else if text = "(" then if others = [] then none else some text
      else if double.contains text || connectives.contains text then some text
      else none

def testOne (view : View) (operator operand : String) : Except Problem Bool :=
  let entry := view.entryAt? operand
  match operator with
  | "-n" => return operand ≠ ""
  | "-z" => return operand = ""
  | "-e" | "-r" | "-w" | "-O" | "-G" => return entry.isSome
  | "-f" => return (entry matches some (.file ..))
  | "-d" => return (entry matches some .directory)
  | "-x" => return (entry matches some .directory | some (.file _ _ true))
  | "-L" | "-h" =>
      return (view.disk.findLink (Raw.toText operand) matches .ok (.present _ (.link _)))
  | "-s" => return match entry with
      | some (.file _ content _) => content.size ≠ 0
      | some .directory => true
      | _ => false
  | "-c" => return (entry matches some (.device _))
  | "-t" =>
      match integer? operand with
      | some _ => return false
      | none => throw (.badNumber operand)
  | _ => return false

def testTwo (view : View) (left operator right : String) : Except Problem Bool := do
  let numbers (test : Int → Int → Bool) : Except Problem Bool :=
    match integer? left, integer? right with
    | none, _ => throw (.badNumber left)
    | _, none => throw (.badNumber right)
    | some first, some second => return test first second
  match operator with
  | "=" => return left = right
  | "!=" => return left ≠ right
  | "<" => return decide (left < right)
  | ">" => return decide (right < left)
  | "-eq" => numbers (· = ·)
  | "-ne" => numbers (· ≠ ·)
  | "-lt" => numbers (· < ·)
  | "-le" => numbers (· ≤ ·)
  | "-gt" => numbers fun first second => second < first
  | "-ge" => numbers fun first second => second ≤ first
  | "-nt" => return match view.moment? left, view.moment? right with
      | some first, some second => second < first
      | _, _ => false
  | "-ot" => return match view.moment? left, view.moment? right with
      | some first, some second => first < second
      | _, _ => false
  | "-ef" =>
      return match view.disk.find (Raw.toText left), view.disk.find (Raw.toText right) with
      | .ok (.present first entry), .ok (.present second other) =>
          first = second || isSameFile entry other
      | _, _ => false
  | _ => return false

mutual

/-- The value of parts of which one has to hold, and the arguments behind them.
`count` bounds the number of steps. -/
def oneOf (view : View) : Nat → Option String → List String →
    Except Problem (Bool × List String)
  | 0, _, arguments => return (false, arguments)
  | count + 1, operator, arguments => do
      let (first, rest) ← allOf view count operator arguments
      match rest with
      | "-o" :: others =>
          let (second, remaining) ← oneOf view count (operator? others) others
          return (first || second, remaining)
      | _ => return (first, rest)

def allOf (view : View) : Nat → Option String → List String →
    Except Problem (Bool × List String)
  | 0, _, arguments => return (false, arguments)
  | count + 1, operator, arguments => do
      let (first, rest) ← negated view count operator arguments
      match rest with
      | "-a" :: others =>
          let (second, remaining) ← allOf view count (operator? others) others
          return (first && second, remaining)
      | _ => return (first, rest)

def negated (view : View) : Nat → Option String → List String →
    Except Problem (Bool × List String)
  | 0, _, arguments => return (false, arguments)
  | count + 1, some "!", _ :: others => do
      let (value, rest) ← negated view count (operator? others) others
      return (!value, rest)
  | count + 1, operator, arguments => basic view count operator arguments

/-- The value of a test, a text, or a part in parentheses.  `operator` tells what the
first argument is taken for. -/
def basic (view : View) : Nat → Option String → List String →
    Except Problem (Bool × List String)
  | 0, _, arguments => return (false, arguments)
  | _, _, [] => return (false, [])
  | count + 1, operator, first :: others => do
      if operator = some "(" then
        if operator? others = some ")" then return (false, others.tail)
        let (value, rest) ← oneOf view count (operator? others) others
        match rest with
        | ")" :: behind => return (value, behind)
        | _ => throw .missingParenthesis
      if operator.any single.contains then
        match others with
        | [] => throw (.missingOperand first)
        | operand :: behind => return (← testOne view first operand, behind)
      match operator? others, others with
      | some test, _ :: behind =>
          if !double.contains test then return (first ≠ "", others)
          match behind with
          | [] => throw (.missingOperand test)
          | right :: behind => return (← testTwo view first test right, behind)
      | _, _ => return (first ≠ "", others)

end

def valueFrom (view : View) (operator : Option String) (arguments : List String) :
    Except Problem Bool := do
  let (value, rest) ← oneOf view (4 * arguments.length + 8) operator arguments
  let behind := arguments.length - rest.length
  match rest, arguments[behind - 1]? with
  | _ :: _, some last => throw (.unexpectedOperator last)
  | _, _ => return value

def value (view : View) : List String → Except Problem Bool
  | [] => return false
  | [first, operator, second] =>
      if double.contains operator then valueFrom view none [first, operator, second]
      else if first = "(" && second = ")" then valueFrom view (operator? [operator]) [operator]
      else if first = "!" then (value view [operator, second]).map Bool.not
      else valueFrom view (operator? [first, operator, second]) [first, operator, second]
  | [first, second, third, fourth] =>
      if first = "(" && fourth = ")" then
        valueFrom view (operator? [second, third]) [second, third]
      else if first = "!" then (value view [second, third, fourth]).map Bool.not
      else
        valueFrom view (operator? [first, second, third, fourth]) [first, second, third, fourth]
  | arguments => valueFrom view (operator? arguments) arguments

end SnippetSandbox.Shell.Condition
