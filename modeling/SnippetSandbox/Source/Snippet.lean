import SnippetSandbox.Source.Name
import SnippetSandbox.Task

/-!
# Writing snippets

A snippet is a source text with the names found in it.  Its file lies below the
source directory, one directory for each part of the package, under the simple
name.  The names are found before anything is written, so that a text without
names leaves no trace.
-/

namespace SnippetSandbox

open FileSystem Source

/-- Tells whether a source text holds the program's entry point. -/
abbrev Detector := String → Bool

/-- A source text that has been written, unchanged, to a file. -/
structure Snippet where
  text : String
  /-- The package it declares; empty for the default package. -/
  package : String
  /-- The first type it declares. -/
  simpleName : String
  isEntry : Bool
  path : String
  deriving DecidableEq, Repr

namespace Snippet

def name (snippet : Snippet) : String :=
  qualifiedName snippet.package snippet.simpleName

/-- The directories that the parts of a package stand for. -/
def packageSegments (package : String) : List String :=
  ((Text.splitOn '.' package.toList).map String.ofList).filter (· ≠ "")

def directory (sourceDir package : String) : String :=
  Path.joinAll sourceDir (packageSegments package)

def file (sourceDir package simpleName : String) : String :=
  Path.join (directory sourceDir package) (simpleName ++ ".java")

def ofText (sourceDir : String) (detector : Detector) (text : String) :
    Except NamingProblem Snippet :=
  match packageOf text with
  | .error problem => .error problem
  | .ok package =>
      match typeNameOf text with
      | .error problem => .error problem
      | .ok simpleName =>
          .ok { text, package, simpleName, isEntry := detector text,
                path := file sourceDir package simpleName }

/-- Name a text and write it below the source directory. -/
def write (sourceDir : String) (detector : Detector) (text : String) : Task Snippet :=
  match ofText sourceDir detector text with
  | .error problem => throw (.parse problem)
  | .ok snippet => do
      let around := directory sourceDir snippet.package
      (makeDirectories around).reportedFor around
      (writeText snippet.path snippet.text).reportedFor snippet.path
      return snippet

end Snippet

end SnippetSandbox
