import SnippetSandbox.FileSystem.Path
import SnippetSandbox.FileSystem.Tree

/-!
# Finding the entry a path leads to

A path is walked segment by segment from the root or from the working
directory.  Links on the way are followed, at most forty of them; what happens
at the last name depends on what the path is wanted for.  The walk ends at an
entry, or at a free name inside an existing directory.
-/

namespace SnippetSandbox.FileSystem

/-- What a path is wanted for, which decides about its last name. -/
inductive Purpose
  /-- What the path leads to, so a link is followed. -/
  | content
  /-- The entry itself.  A link is followed only when a slash stands behind it. -/
  | entry
  /-- The last name alone, whatever is there and with or without a slash. -/
  | name
  /-- A file that is made if there is none.  A link is followed, and no slash may
  stand behind the name. -/
  | newFile
  deriving DecidableEq, Repr

/-- Where a walk ends. -/
inductive Target
  | present (place : Place) (entry : Entry)
  /-- Nothing is there, but a directory around it is.  `asDirectory` tells that
  the path ends in a slash. -/
  | absent (place : Place) (asDirectory : Bool)
  deriving DecidableEq

/-- How many links one walk may follow. -/
def linkLimit : Nat := 40

/-- How many bytes a name may have. -/
def nameLimit : Nat := 255

/-- How many bytes a path may have, with the one that ends it. -/
def pathLimit : Nat := 4096

/-- Walk the remaining segments from a directory, with so many links left to follow. -/
def walk (tree : Tree) (purpose : Purpose) (links : Nat) (here : Place) :
    List String → Except Cause Target
  | [] =>
      match tree.lookup here with
      | some entry => .ok (.present here entry)
      | none => .error .notFound
  | segment :: rest =>
      if Path.isVoid segment then walk tree purpose links here rest
      else if segment = ".." then walk tree purpose links here.tail rest
      else if purpose = .newFile ∧ rest ≠ [] ∧ rest.all (· = "") then .error .isDirectory
      else if nameLimit < segment.utf8ByteSize then .error .nameTooLong
      else
        match tree.lookup (segment :: here) with
        | none =>
            if rest.all (· = "") then .ok (.absent (segment :: here) (rest ≠ []))
            else .error .notFound
        | some (.link target) =>
            if purpose = .entry ∧ rest = [] ∨ purpose = .name ∧ rest.all (· = "") then
              .ok (.present (segment :: here) (.link target))
            else
              match links with
              | 0 => .error .linkLoop
              | fewer + 1 =>
                  walk tree purpose fewer (if Path.isAbsolute target then [] else here)
                    (Path.segments target ++ rest)
        | some .directory =>
            if purpose = .name ∧ rest.all (· = "") then
              .ok (.present (segment :: here) .directory)
            else walk tree purpose links (segment :: here) rest
        | some entry =>
            if rest = [] ∨ purpose = .name ∧ rest.all (· = "") then
              .ok (.present (segment :: here) entry)
            else .error .notDirectory
termination_by remaining => (links, remaining.length)

/-- Where a path leads, seen from a working directory.  No name is found from a
directory that is gone. -/
def Tree.find (tree : Tree) (current : Place) (purpose : Purpose) (path : String) :
    Except Cause Target :=
  if '\x00' ∈ path.toList then .error .interiorNul
  else if path = "" then .error .notFound
  else if pathLimit ≤ path.utf8ByteSize then .error .nameTooLong
  else
    let start := if Path.isAbsolute path then [] else current
    if tree.lookup start = some .directory then
      walk tree purpose linkLimit start (Path.segments path)
    else .error .notFound

end SnippetSandbox.FileSystem
