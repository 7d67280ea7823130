import SnippetSandbox.Shell.Number
import SnippetSandbox.Shell.Syntax

/-!
# Arithmetic expressions

An expression holds integers, variables, operators and parentheses.  Operators
that bind more tightly are carried out first, those of one level from the left.
Assignments take effect while the expression is worked out, but not in a part
whose value is not needed.
-/

namespace SnippetSandbox.Shell.Arithmetic

/-- A symbol of an expression. -/
inductive Symbol
  | number (value : Int)
  | name (text : String)
  | sign (text : String)
  | stray
  deriving DecidableEq, Repr

def signs : List (List Char) :=
  ["<<=", ">>=", "||", "&&", "==", "!=", "<=", ">=", "<<", ">>", "+=", "-=", "*=", "/=", "%=",
    "|=", "^=", "&=", "|", "^", "&", "<", ">", "+", "-", "*", "/", "%", "!", "~", "(", ")", "?",
    ":", "="].map String.toList

def wrap (value : Int) : Int := Int.bmod value (2 ^ 64)

def largest : Int := 2 ^ 63 - 1

/-- The symbols of a text.  `count` bounds the number of steps. -/
def symbols : Nat → List Char → List Symbol
  | 0, _ | _, [] => []
  | count + 1, first :: rest =>
      if first = ' ' || first = '\t' || first = '\n' then symbols count rest
      else if first.isDigit then
        let (value, remaining) := takeNumber (first :: rest)
        .number (min (Int.ofNat value) largest) :: symbols count remaining
      else if beginsName first then
        .name (String.ofList (first :: rest.takeWhile continuesName)) ::
          symbols count (rest.dropWhile continuesName)
      else
        match signs.find? fun sign => sign.isPrefixOf (first :: rest) with
        | some sign => .sign (String.ofList sign) :: symbols count (rest.drop (sign.length - 1))
        | none => .stray :: symbols count rest

/-- Why an expression has no value. -/
inductive Problem
  | expected (what : String)
  | divisionByZero
  | badNumber (text : String)
  | overflow
  deriving DecidableEq, Repr

def Problem.message (expression : List Char) : Problem → String
  | .badNumber text => "Illegal number: " ++ text
  | .overflow => "overflow"
  | .expected what =>
      "arithmetic expression: expecting " ++ what ++ ": \"" ++ String.ofList expression ++ "\""
  | .divisionByZero =>
      "arithmetic expression: division by zero: \"" ++ String.ofList expression ++ "\""

/-- What is still to be read, and the variables that were assigned. -/
structure State where
  rest : List Symbol
  assigned : List (String × Int) := []

/-- Working out a part of an expression. -/
abbrev Work := StateT State (Except Problem)

def levels : List (List String) :=
  [["||"], ["&&"], ["|"], ["^"], ["&"], ["==", "!="], ["<", ">", "<=", ">="], ["<<", ">>"],
    ["+", "-"], ["*", "/", "%"]]

def assignable : List String := ["<<", ">>", "+", "-", "*", "/", "%", "|", "^", "&"]

def truth (holds : Bool) : Int := if holds then 1 else 0

def bits (value : Int) : Nat := (value % 2 ^ 64).toNat

/-- The value of an operator applied to two values; none for a division by zero. -/
def apply (operator : String) (left right : Int) : Option Int :=
  match operator with
  | "||" => some (truth (left ≠ 0 || right ≠ 0))
  | "&&" => some (truth (left ≠ 0 && right ≠ 0))
  | "==" => some (truth (left = right))
  | "!=" => some (truth (left ≠ right))
  | "<=" => some (truth (left ≤ right))
  | ">=" => some (truth (right ≤ left))
  | "<" => some (truth (left < right))
  | ">" => some (truth (right < left))
  | "+" => some (wrap (left + right))
  | "-" => some (wrap (left - right))
  | "*" => some (wrap (left * right))
  | "/" => if right = 0 then none else some (wrap (Int.tdiv left right))
  | "%" => if right = 0 then none else some (Int.tmod left right)
  | "|" => some (wrap (Int.ofNat (bits left ||| bits right)))
  | "^" => some (wrap (Int.ofNat (bits left ^^^ bits right)))
  | "&" => some (wrap (Int.ofNat (bits left &&& bits right)))
  | "<<" => some (wrap (left * 2 ^ (right % 64).toNat))
  | ">>" => some (Int.fdiv left (2 ^ (right % 64).toNat))
  | _ => none

/-- Apply an operator, or tell why that is not possible.  Where the value is not
needed, nothing is applied. -/
def applied (needed : Bool) (operator : String) (left right : Int) : Work Int :=
  if !needed then return left
  else if (operator = "/" || operator = "%") && left = -(2 ^ 63) && right = -1 then throw .overflow
  else
    match apply operator left right with
    | some value => return value
    | none => throw .divisionByZero

def next : Work (Option Symbol) := do
  return (← get).rest.head?

def advance : Work Unit :=
  modify fun state => { state with rest := state.rest.tail }

def takeSign (text : String) : Work Bool := do
  if (← next) = some (.sign text) then
    advance
    return true
  return false

def valueOf (lookup : String → Except Problem Int) (name : String) : Work Int := do
  match (← get).assigned.lookup name with
  | some value => return value
  | none => lookup name

mutual

/-- The value of an assignment or of anything that binds more tightly.  `count` bounds
the number of steps; `needed` tells that the value counts. -/
def assignment (lookup : String → Except Problem Int) (needed : Bool) : Nat → Work Int
  | 0 => throw (.expected "primary")
  | count + 1 => do
      match (← get).rest with
      | .name name :: .sign sign :: rest =>
          match (none :: assignable.map some).find? fun operator =>
              operator.getD "" ++ "=" = sign with
          | some operator =>
              modify fun state => { state with rest }
              let right ← assignment lookup needed count
              let value ← match operator with
                | none => pure right
                | some operator => applied needed operator (← valueOf lookup name) right
              if needed then
                modify fun state => { state with assigned := (name, value) :: state.assigned }
              return value
          | none => choice lookup needed count
      | _ => choice lookup needed count

def choice (lookup : String → Except Problem Int) (needed : Bool) : Nat → Work Int
  | 0 => throw (.expected "primary")
  | count + 1 => do
      let condition ← operators lookup needed count levels
      if !(← takeSign "?") then return condition
      let yes ← assignment lookup (needed && condition ≠ 0) count
      if !(← takeSign ":") then throw (.expected "':'")
      let no ← choice lookup (needed && condition = 0) count
      return if condition ≠ 0 then yes else no

def operators (lookup : String → Except Problem Int) (needed : Bool) : Nat →
    List (List String) → Work Int
  | 0, _ => throw (.expected "primary")
  | count + 1, [] => operand lookup needed count
  | count + 1, level :: tighter => do
      let left ← operators lookup needed count tighter
      further lookup needed count level tighter left

def further (lookup : String → Except Problem Int) (needed : Bool) : Nat → List String →
    List (List String) → Int → Work Int
  | 0, _, _, _ => throw (.expected "primary")
  | count + 1, level, tighter, left => do
      match ← next with
      | some (.sign sign) =>
          if !level.contains sign then return left
          advance
          let decided := (sign = "||" && left ≠ 0) || (sign = "&&" && left = 0)
          let right ← operators lookup (needed && !decided) count tighter
          further lookup needed count level tighter (← applied needed sign left right)
      | _ => return left

/-- The value of a number, a variable, a signed operand or an expression in
parentheses. -/
def operand (lookup : String → Except Problem Int) (needed : Bool) : Nat → Work Int
  | 0 => throw (.expected "primary")
  | count + 1 => do
      match ← next with
      | some (.number value) =>
          advance
          return value
      | some (.name name) =>
          advance
          if needed then valueOf lookup name else return 0
      | some (.sign "(") =>
          advance
          let value ← assignment lookup needed count
          if !(← takeSign ")") then throw (.expected "')'")
          return value
      | some (.sign "-") =>
          advance
          return wrap (-(← operand lookup needed count))
      | some (.sign "+") =>
          advance
          operand lookup needed count
      | some (.sign "!") =>
          advance
          return truth ((← operand lookup needed count) = 0)
      | some (.sign "~") =>
          advance
          return -(← operand lookup needed count) - 1
      | _ => throw (.expected "primary")

end

def evaluate (lookup : String → Except Problem Int) (text : List Char) :
    Except Problem (Int × List (String × Int)) := do
  let found := symbols text.length text
  let (value, state) ← (assignment lookup true (16 * found.length + 32)).run { rest := found }
  if state.rest ≠ [] then throw (.expected "EOF")
  return (value, state.assigned)

end SnippetSandbox.Shell.Arithmetic
