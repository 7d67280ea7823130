import SnippetSandbox.Json.Problem

/-!
# Reading a document

A reader takes the text that is left and gives back a value and the text after
it, or the problem that ended the reading.  A problem remembers how many bytes
of the document had not been counted yet, from which its position follows.
-/

namespace SnippetSandbox.Json

/-- The problem that ended a reading, and how many bytes were left by then. -/
structure Halt where
  problem : Problem
  left : Nat
  deriving DecidableEq, Repr

/-- How many bytes a text has. -/
def byteLength (text : List Char) : Nat :=
  (text.map Char.utf8Size).sum

/-- A problem with the byte that comes next, which is counted; at the end of the
document there is none to count. -/
def Halt.facing (problem : Problem) (text : List Char) : Halt :=
  ⟨problem, byteLength text - 1⟩

def Halt.behind (problem : Problem) (rest : List Char) : Halt :=
  ⟨problem, byteLength rest⟩

def Halt.position (halt : Halt) (document : List Char) : Position :=
  Position.behind document (byteLength document - halt.left)

/-- The four characters that may stand between the parts of a document. -/
def isGap (character : Char) : Bool :=
  character = ' ' || character = '\n' || character = '\r' || character = '\t'

def skipGap (text : List Char) : List Char :=
  text.dropWhile isGap

theorem length_skipGap_le (text : List Char) : (skipGap text).length ≤ text.length :=
  (List.dropWhile_sublist (l := text) isGap).length_le

theorem length_of_skipGap {text rest : List Char} {character : Char}
    (next : skipGap text = character :: rest) : rest.length < text.length := by
  have shorter := length_skipGap_le text
  simp only [next, List.length_cons] at shorter
  omega

def readLetters : List Char → List Char → Except Halt (List Char)
  | [], text => .ok text
  | _ :: _, [] => .error (.behind .endInValue [])
  | expected :: others, character :: rest =>
      if character = expected then readLetters others rest
      else .error (.facing .expectedIdentifier (character :: rest))

theorem length_of_readLetters {letters text rest : List Char}
    (read : readLetters letters text = .ok rest) : rest.length ≤ text.length := by
  induction letters generalizing text with
  | nil => simp_all [readLetters]
  | cons letter letters ih =>
      cases text with
      | nil => simp [readLetters] at read
      | cons character others =>
          unfold readLetters at read
          split at read
          · have := ih read
            simp only [List.length_cons]
            omega
          · cases read

end SnippetSandbox.Json
