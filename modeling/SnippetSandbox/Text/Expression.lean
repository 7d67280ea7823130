import SnippetSandbox.Instances

/-!
# Expressions for texts

An expression says how a part of a text may look: which characters stand in it, what
is repeated, and where it may begin and end.  The positions that an expression reaches
from others are found all at once, as the bits of a number.  Only an expression that
asks for something that was there before has to remember where its groups were.
-/

namespace SnippetSandbox.Text

/-- An expression.  Groups have numbers. -/
inductive Expression
  | empty
  | one (accepts : Char → Bool)
  | start
  | finish
  | edge (isEdge : Bool)
  | wordStart
  | wordFinish
  | both (first second : Expression)
  | either (first second : Expression)
  | repeated (inner : Expression) (least : Nat) (most : Option Nat)
  | group (number : Nat) (inner : Expression)
  | again (number : Nat)

namespace Expression

def isWordCharacter (character : Char) : Bool :=
  character.isAlphanum || character = '_'

def isAfterWord (text : Array Char) (position : Nat) : Bool :=
  position ≠ 0 && (text[position - 1]?).any isWordCharacter

def isBeforeWord (text : Array Char) (position : Nat) : Bool :=
  (text[position]?).any isWordCharacter

def remembers : Expression → Bool
  | both first second | either first second => first.remembers || second.remembers
  | repeated inner _ _ | group _ inner => inner.remembers
  | again _ => true
  | _ => false

/-! ## Positions as the bits of a number -/

def positionsWhere (text : Array Char) (holds : Nat → Bool) : Nat :=
  (List.range (text.size + 1)).foldl
    (fun positions position => if holds position then positions ||| (1 <<< position) else positions)
    0

def acceptedIn (text : Array Char) (accepts : Char → Bool) : Nat :=
  positionsWhere text fun position => (text[position]?).any accepts

def repeatStep (step : Nat → Nat) : Nat → Nat → Nat
  | 0, positions => positions
  | count + 1, positions => repeatStep step count (step positions)

def closure (step : Nat → Nat) : Nat → Nat → Nat
  | 0, positions => positions
  | count + 1, positions =>
      let further := positions ||| step positions
      if further = positions then positions else closure step count further

def reach (text : Array Char) : Expression → Nat → Nat
  | empty, positions => positions
  | one accepts, positions => (positions &&& acceptedIn text accepts) <<< 1
  | start, positions => positions &&& 1
  | finish, positions => positions &&& (1 <<< text.size)
  | edge isEdge, positions =>
      positions &&& positionsWhere text fun position =>
        (isAfterWord text position != isBeforeWord text position) = isEdge
  | wordStart, positions =>
      positions &&& positionsWhere text fun position =>
        !isAfterWord text position && isBeforeWord text position
  | wordFinish, positions =>
      positions &&& positionsWhere text fun position =>
        isAfterWord text position && !isBeforeWord text position
  | both first second, positions => second.reach text (first.reach text positions)
  | either first second, positions => first.reach text positions ||| second.reach text positions
  | repeated inner least most, positions =>
      let step := inner.reach text
      let first := repeatStep step least positions
      closure step (match most with
        | some most => most - least
        | none => text.size + 1) first
  | group _ inner, positions => inner.reach text positions
  | again _, _ => 0

/-! ## Positions with groups -/

/-- A position, with where the groups began and ended. -/
structure Reached where
  position : Nat
  groups : List (Nat × Nat × Nat) := []
  deriving DecidableEq

/-- The states that are reached by at most so many steps, and those that were there. -/
def closureOf (step : List Reached → List Reached) : Nat → List Reached → List Reached
  | 0, states => states
  | count + 1, states =>
      let further := (states ++ step states).eraseDups
      if further.length = states.length then states else closureOf step count further

def repeatOn (step : List Reached → List Reached) : Nat → List Reached → List Reached
  | 0, states => states
  | count + 1, states => repeatOn step count (step states)

/-- The states that an expression reaches from others; `same` tells which characters
count as the same. -/
def follow (text : Array Char) (same : Char → Char → Bool) :
    Expression → List Reached → List Reached
  | both first second, states => second.follow text same (first.follow text same states)
  | either first second, states =>
      (first.follow text same states ++ second.follow text same states).eraseDups
  | repeated inner least most, states =>
      let step := inner.follow text same
      closureOf step (match most with
        | some most => most - least
        | none => text.size + 1) (repeatOn step least states)
  | group number inner, states =>
      states.flatMap fun state =>
        (inner.follow text same [state]).map fun reached =>
          { reached with
            groups := (number, state.position, reached.position) ::
              reached.groups.filter (·.1 ≠ number) }
  | again number, states =>
      states.filterMap fun state =>
        match state.groups.lookup number with
        | none => none
        | some (first, last) =>
            let length := last - first
            let isThere := (List.range length).all fun offset =>
              match text[first + offset]?, text[state.position + offset]? with
              | some before, some now => same before now
              | _, _ => false
            if isThere then some { state with position := state.position + length } else none
  | plain, states =>
      states.filterMap fun state =>
        let reached := plain.reach text (1 <<< state.position)
        if reached = 0 then none else some { state with position := reached.log2 }

/-! ## Matches -/

def ends (expression : Expression) (same : Char → Char → Bool) (text : Array Char)
    (position : Nat) : Nat :=
  if expression.remembers then
    (expression.follow text same [{ position }]).foldl
      (fun positions state => positions ||| (1 <<< state.position)) 0
  else expression.reach text (1 <<< position)

def isIn (expression : Expression) (same : Char → Char → Bool) (text : Array Char) : Bool :=
  if expression.remembers then
    (List.range (text.size + 1)).any fun position => expression.ends same text position ≠ 0
  else expression.reach text (2 ^ (text.size + 1) - 1) ≠ 0

def positionsOf (text : Array Char) (positions : Nat) : List Nat :=
  ((List.range (text.size + 1)).filter positions.testBit).reverse

/-- The first match from a position on that is wanted, as its beginning and its end: of
those that begin at the same place the longest one. -/
def firstMatch? (expression : Expression) (same : Char → Char → Bool) (text : Array Char)
    (isWanted : Nat → Nat → Bool) (from' : Nat) : Option (Nat × Nat) :=
  ((List.range (text.size + 1)).drop from').findSome? fun first =>
    ((positionsOf text (expression.ends same text first)).find? (isWanted first)).map
      fun last => (first, last)

end Expression

end SnippetSandbox.Text
