import SnippetSandbox.Source.Comment
import SnippetSandbox.Text.Letter

/-!
# The names a source text declares

The package comes from the first line that begins with the word for it, the
simple name from the first type keyword outside comments.  Nothing is parsed:
the compiler has the last word on whether the text is valid.
-/

namespace SnippetSandbox.Source

open Text

def isNamePart (character : Char) : Bool :=
  isLetterOrNumeral character || character == '_' || character == '$'

def isNameStart (character : Char) : Bool :=
  isLetter character || character == '_' || character == '$'

def isName : List Char → Bool
  | [] => false
  | first :: rest => isNameStart first && rest.all isNamePart

/-- Why no name could be taken from a source text. -/
inductive NamingProblem
  | unterminatedPackage (line : String)
  | invalidPackage (name : String)
  | missingTypeName (keyword line : String)
  | noTypeDeclared
  | reported (message : String)
  deriving DecidableEq, Repr

def NamingProblem.message : NamingProblem → String
  | .unterminatedPackage line => "unterminated package declaration: " ++ line
  | .invalidPackage name => "invalid package name: " ++ name
  | .missingTypeName keyword line => "missing type name after `" ++ keyword ++ "`: " ++ line
  | .noTypeDeclared => "no class, interface, enum or record declaration found"
  | .reported message => message

def packageWord : List Char := "package ".toList

/-- The package that a declaring line names; `declared` is what follows the word. -/
def declaredPackage (line declared : List Char) : Except NamingProblem (List Char) :=
  match breakOn [';'] declared with
  | none => .error (.unterminatedPackage (String.ofList line))
  | some (written, _) =>
      let name := trim written
      if (splitOn '.' name).all isName then .ok name
      else .error (.invalidPackage (String.ofList name))

/-- The package that the first declaring line names, and no characters without one. -/
def packageOfLines : List (List Char) → Except NamingProblem (List Char)
  | [] => .ok []
  | line :: others =>
      match after? packageWord (trim line) with
      | some declared => declaredPackage (trim line) declared
      | none => packageOfLines others

/-- The package a source text declares; empty for the default package. -/
def packageOf (text : String) : Except NamingProblem String :=
  (packageOfLines (lines text.toList)).map String.ofList

def typeKeywords : List (List Char) :=
  ["class", "interface", "@interface", "enum", "record"].map String.toList

/-- What the first type keyword among the words of a line declares; nothing when
there is no such keyword. -/
def declaredType? (line : List Char) :
    List (List Char) → Option (Except NamingProblem (List Char))
  | [] => none
  | word :: others =>
      if word ∈ typeKeywords then
        let name := (others.headD []).takeWhile isNamePart
        some (if isName name then .ok name
          else .error (.missingTypeName (String.ofList word) (String.ofList line)))
      else declaredType? line others

def typeNameOfLines : List (List Char) → Except NamingProblem (List Char)
  | [] => .error .noTypeDeclared
  | line :: others =>
      match declaredType? (trim line) (words (trim line)) with
      | some found => found
      | none => typeNameOfLines others

/-- The simple name of the first type a source text declares outside comments. -/
def typeNameOf (text : String) : Except NamingProblem String :=
  (typeNameOfLines (stripLines false (lines text.toList))).map String.ofList

/-- The simple name behind its package, joined by a dot unless the package is the default. -/
def qualifiedName (package simpleName : String) : String :=
  if package = "" then simpleName else package ++ "." ++ simpleName

end SnippetSandbox.Source
